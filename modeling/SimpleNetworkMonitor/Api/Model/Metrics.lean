import SimpleNetworkMonitor.App.Model.Telemetry
import SimpleNetworkMonitor.Common.Decimal
import SimpleNetworkMonitor.Common.Quoting
import SimpleNetworkMonitor.Domain.Host
/-!
# The metrics text

The text encoder, and the samples a scrape is made of. A function that
writes to the exposition is the list of the samples it writes, in order.
-/

namespace SimpleNetworkMonitor.Api

open App

/-- **A metric family**: its name, its help and its type. -/
structure Metric where
  name : String
  help : String
  kind : String
  deriving DecidableEq

namespace Metric

def ENABLED : Metric :=
  ⟨"snm_check_enabled", "Whether the configured check is enabled.", "gauge"⟩
def FRESH : Metric :=
  ⟨"snm_check_fresh", "Whether an enabled check has a current observation.", "gauge"⟩
def OBSERVED : Metric :=
  ⟨"snm_check_last_observed_timestamp_seconds",
    "Unix timestamp of the latest observation, including failed attempts.", "gauge"⟩
def ICMP_STATUS : Metric :=
  ⟨"snm_icmp_status", "Last thresholded ICMP state, one active state per host.", "gauge"⟩
def RTT : Metric :=
  ⟨"snm_icmp_round_trip_seconds", "Round trip time of the latest successful ICMP attempt.",
    "gauge"⟩
def USAGE_SUCCESS : Metric :=
  ⟨"snm_usage_collection_success", "Whether the latest usage collection succeeded.", "gauge"⟩
def USERS : Metric :=
  ⟨"snm_usage_users", "User count from a fresh successful usage observation.", "gauge"⟩
def TCP_SUCCESS : Metric :=
  ⟨"snm_tcp_connect_success", "Whether the latest TCP connection attempt succeeded.", "gauge"⟩
def TCP_DURATION : Metric :=
  ⟨"snm_tcp_connect_duration_seconds",
    "Duration of the latest successful TCP check, including DNS.", "gauge"⟩
def RUNS : Metric :=
  ⟨"snm_check_runs_total", "Completed check executions since process start.", "counter"⟩
def RETRIES : Metric :=
  ⟨"snm_storage_retries_total", "Observation persistence retries since process start.", "counter"⟩
def DURATION : Metric :=
  ⟨"snm_check_duration_seconds",
    "Execution duration of completed checks, excluding queueing and persistence.", "histogram"⟩

/-- The families. -/
def ALL : List Metric :=
  [ENABLED, FRESH, OBSERVED, ICMP_STATUS, RTT, USAGE_SUCCESS, USERS, TCP_SUCCESS, TCP_DURATION,
    RUNS, RETRIES, DURATION]

end Metric

/-! ## Values and samples -/

/-- The value of a sample: a count, or seconds, held in nanoseconds. The source
holds seconds in a float, which for a sum may be a little off; the number here
is exact. -/
inductive Number where
  | count (n : ℕ)
  | seconds (nanos : ℤ)
  deriving DecidableEq

/-- The digits of a fraction, up to the last that is not zero. -/
def trimZeros (digits : List Char) : List Char := (digits.reverse.dropWhile (· = '0')).reverse

/-- `Display` of a float, for a number of nanoseconds read as seconds: the
decimal, with a fraction where there is one. The source prints the float that
it has summed up, as `0.30000000000000004` where this is `0.3`: a decimal of
the same form, whose last digits are not modelled. -/
def displaySeconds (nanos : ℤ) : List Char :=
  let whole := Nat.toDigits 10 (nanos.natAbs / fromSecs 1)
  let fraction := nanos.natAbs % fromSecs 1
  (if nanos < 0 then ['-'] else []) ++ whole ++
    if fraction = 0 then [] else '.' :: trimZeros (Decimal.padded 9 fraction)

def Number.display : Number → String
  | .count n => String.ofList (Nat.toDigits 10 n)
  | .seconds nanos => String.ofList (displaySeconds nanos)

/-- **A call of `sample`.** -/
structure Sample where
  metric : Metric
  suffix : String := ""
  labels : List (String × String)
  value : Number
  deriving DecidableEq

/-- A label value between its quotes: three replacements. -/
def escape (value : String) : String :=
  String.ofList (Quoting.replaceChar '\"' ['\\', '\"'] (Quoting.replaceChar '\n' ['\\', 'n']
    (Quoting.replaceChar '\\' ['\\', '\\'] value.toList)))

def labelText (label : String × String) : String :=
  label.1 ++ "=\"" ++ escape label.2 ++ "\""

/-- What a sample writes, without the end of its line. -/
def Sample.text (sample : Sample) : String :=
  sample.metric.name ++ sample.suffix ++
    (if sample.labels.isEmpty then ""
      else "\x7b" ++ String.intercalate "," (sample.labels.map labelText) ++ "\x7d") ++
    " " ++ sample.value.display

/-- **The exposition**: the families by name, each with the text of its
samples. -/
abbrev Exposition := Ordered String (Metric × String)

namespace Exposition

def sample (out : Exposition) (s : Sample) : Exposition :=
  out.entry s.metric.name (s.metric, "") fun family => (family.1, family.2 ++ s.text ++ "\n")

def finish (out : Exposition) : String :=
  out.rows.foldl (fun output row =>
    let (metric, samples) := row.2
    output ++ "# HELP " ++ metric.name ++ " " ++ metric.help ++ "\n# TYPE " ++ metric.name ++ " " ++
      metric.kind ++ "\n" ++ samples ++ "\n") ""

end Exposition

/-! ## The samples of a record -/

open Api.Metric

structure Timing where
  enabled : Bool
  observed : Option ℤ
  interval : ℕ
  timeout : ℕ

/-- `common` answers whether the check is fresh. -/
def Timing.fresh (timing : Timing) (now : ℤ) : Bool :=
  timing.enabled && isFresh timing.observed timing.interval timing.timeout now

/-- The samples `common` writes. -/
def common (labels : List (String × String)) (timing : Timing) (now : ℤ) : List Sample :=
  [{ metric := ENABLED, labels, value := .count timing.enabled.toNat },
    { metric := FRESH, labels, value := .count (timing.fresh now).toNat }] ++
  if timing.enabled then
    match timing.observed with
    | some observed =>
      [{ metric := OBSERVED, labels, value := .seconds (fromMillis 1 * timestampMillis observed) }]
    | none => []
  else []

/-- The labels of a check. -/
def checkLabels (host : Host) (checkId : String) : List (String × String) :=
  [("host_id", host.id), ("check_id", checkId)]

def icmpTiming (record : HostRecord) : Timing :=
  let icmp := record.host.modules.icmp
  ⟨icmp.enabled, record.state.lastCheckedAt, icmp.interval, icmp.timeout⟩

def icmpMetrics (record : HostRecord) (now : ℤ) : List Sample :=
  let host := record.host
  common (checkLabels host "icmp") (icmpTiming record) now ++
  if host.modules.icmp.enabled then
    ([HostStatus.unknown, .up, .down].map fun status =>
      { metric := ICMP_STATUS
        labels := [("host_id", host.id), ("state", status.asStr)]
        value := .count (decide (record.state.status = status)).toNat }) ++
    if (icmpTiming record).fresh now then
      match record.state.latency with
      | some latency =>
        [{ metric := RTT, labels := [("host_id", host.id)], value := .seconds latency }]
      | none => []
    else []
  else []

def usageTiming (record : HostRecord) : Timing :=
  let usage := record.host.modules.usage
  ⟨usage.enabled, record.usage.map (·.collectedAt), usage.interval, usage.timeout⟩

def usageMetrics (record : HostRecord) (now : ℤ) : List Sample :=
  let host := record.host
  common (checkLabels host "usage") (usageTiming record) now ++
  if host.modules.usage.enabled then
    match record.usage with
    | some snapshot =>
      [{ metric := USAGE_SUCCESS
         labels := [("host_id", host.id)]
         value := .count (decide (snapshot.status = .ok)).toNat }] ++
      if (usageTiming record).fresh now && decide (snapshot.status = .ok) then
        [("console", snapshot.consoleUsers), ("remote", snapshot.remoteUsers)].flatMap
          fun (session, count) =>
            match count with
            | some count =>
              [{ metric := USERS
                 labels := [("host_id", host.id), ("session", session)]
                 value := .count count }]
            | none => []
      else []
    | none => []
  else []

/-- The prefix keeps the named checks apart from the built-in ones. -/
def tcpLabels (host : Host) (check : TcpCheckConfig) : List (String × String) :=
  checkLabels host ("tcp." ++ check.id.value)

def tcpTiming (record : HostRecord) (check : TcpCheckConfig) : Timing :=
  let tcp := record.host.modules.tcp
  ⟨tcp.enabled, (record.tcp.find? check.id).map (·.observedAt), tcp.interval, tcp.timeout⟩

/-- The samples of one named check. -/
def tcpCheckMetrics (record : HostRecord) (now : ℤ) (check : TcpCheckConfig) : List Sample :=
  let labels := tcpLabels record.host check
  common labels (tcpTiming record check) now ++
  if record.host.modules.tcp.enabled then
    match record.tcp.find? check.id with
    | some snapshot =>
      [{ metric := TCP_SUCCESS, labels, value := .count snapshot.success.toNat }] ++
      if (tcpTiming record check).fresh now then
        match snapshot.duration with
        | some duration => [{ metric := TCP_DURATION, labels, value := .seconds duration }]
        | none => []
      else []
    | none => []
  else []

def tcpMetrics (record : HostRecord) (now : ℤ) : List Sample :=
  record.host.modules.tcp.checks.flatMap (tcpCheckMetrics record now)

/-! ## The samples of the process -/

def runtimeMetrics (kind : String) (stats : CheckStats) : List Sample :=
  let total := stats.successes + stats.failures
  [{ metric := RUNS
     labels := [("kind", kind), ("result", "success")]
     value := .count stats.successes },
    { metric := RUNS
      labels := [("kind", kind), ("result", "failure")]
      value := .count stats.failures },
    { metric := RETRIES, labels := [("kind", kind)], value := .count stats.storageRetries }] ++
  (List.ofFn fun index =>
    { metric := DURATION
      suffix := "_bucket"
      labels := [("kind", kind), ("le", (Number.seconds (DURATION_BUCKETS index)).display)]
      value := .count (stats.buckets index) }) ++
  [{ metric := DURATION
     suffix := "_bucket"
     labels := [("kind", kind), ("le", "+Inf")]
     value := .count total },
    { metric := DURATION, suffix := "_count", labels := [("kind", kind)], value := .count total },
    { metric := DURATION
      suffix := "_sum"
      labels := [("kind", kind)]
      value := .seconds stats.durationSum }]

/-! ## A scrape -/

/-- The samples of one record. -/
def recordSamples (record : HostRecord) (now : ℤ) : List Sample :=
  icmpMetrics record now ++ usageMetrics record now ++ tcpMetrics record now

/-- The samples of a scrape, in the order they are written. -/
def samples (records : List HostRecord) (stats : RuntimeMetrics) (now : ℤ) : List Sample :=
  (records.flatMap fun record => recordSamples record now) ++
    stats.rows.flatMap fun row => runtimeMetrics row.1 row.2

/-- **The text of a scrape.** -/
def render (records : List HostRecord) (stats : RuntimeMetrics) (now : ℤ) : String :=
  ((samples records stats now).foldl Exposition.sample ∅).finish

end SimpleNetworkMonitor.Api
