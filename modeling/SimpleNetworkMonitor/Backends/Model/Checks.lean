import SimpleNetworkMonitor.Common.Timed
import SimpleNetworkMonitor.Backends.Model.Dns
import SimpleNetworkMonitor.Backends.Model.Tcp
/-!
# Checks

A check runs against a network and child processes that answer when they
like, or never. It has a deadline, and whatever it waits for is dropped when
that comes.
-/

namespace SimpleNetworkMonitor.Backends

/-! ## TCP -/

/-- `TcpTransport`. Errors are given as they are displayed. -/
structure TcpTransport where
  resolve : String → ℕ → Timed (Except String (List SocketAddr))
  connect : SocketAddr → Timed (Except String Unit)

namespace TcpTransport

variable (transport : TcpTransport) (request : TcpRequest)

/-- The loop over the addresses: the first that connects is the answer, and
otherwise the last error is. -/
def connectAny (started : ℕ) (error : String) : List SocketAddr → Timed (Except String ℕ)
  | [] => pure (.error error)
  | address :: addresses =>
    transport.connect address >>= fun
      | .ok () => (fun now => .ok (now - started)) <$> Timed.clock
      | .error err => connectAny started err addresses

def attempt (started : ℕ) : Timed (Except String ℕ) :=
  transport.resolve request.address request.port.get >>= fun
    | .error err => pure (.error err)
    | .ok addresses =>
      transport.connectAny started "TCP target resolved to no addresses" addresses

/-- `TcpConnectCheck::run`. -/
def check : Timed (Except String ℕ) :=
  match validateAddress request.address with
  | .error err => pure (.error err)
  | .ok () =>
    match validateDuration request.timeout with
    | .error err => pure (.error err)
    | .ok () =>
      Timed.clock >>= fun started =>
        (·.getD (.error "TCP check timed out (including DNS resolution)")) <$>
          Timed.timeout request.timeout (transport.attempt request started)

end TcpTransport

/-- `TcpJob::observe`: the instant a check began, and what it found. -/
def TcpTransport.observe (utc : ℕ → ℤ) (transport : TcpTransport) (request : TcpRequest) :
    Timed TcpSnapshot :=
  Timed.clock >>= fun now =>
    (fun result => ⟨utc now, result⟩) <$> transport.check request

/-! ## Child processes -/

structure ExitStatus where
  success : Bool
  display : String

structure Output where
  status : ExitStatus
  stdout : List UInt8
  stderr : List UInt8

/-- **A child**, with its pipes. A reader is asked for a number of bytes at
most. -/
structure Child where
  write : List UInt8 → Timed (Except String Unit)
  stdout : ℕ → Timed (Except String (List UInt8))
  stderr : ℕ → Timed (Except String (List UInt8))
  wait : Timed (Except String ExitStatus)

def OUTPUT_LIMIT : ℕ := 64 * 1024

/-- What was read, if the reader had no more to give. -/
def bounded (bytes : List UInt8) : Except String (List UInt8) :=
  if bytes.length > OUTPUT_LIMIT then .error "probe output exceeded 64 KiB" else .ok bytes

def boundedRead (reader : ℕ → Timed (Except String (List UInt8))) :
    Timed (Except String (List UInt8)) :=
  (·.bind bounded) <$> reader (OUTPUT_LIMIT + 1)

/-- Write, read both pipes and wait, all at once. -/
def Child.output (child : Child) (input : List UInt8) : Timed (Except String Output) :=
  (·.map fun joined => ⟨joined.2.2.2, joined.2.1, joined.2.2.1⟩) <$>
    Timed.tryJoin (child.write input)
      (Timed.tryJoin (boundedRead child.stdout)
        (Timed.tryJoin (boundedRead child.stderr) child.wait))

/-- `process::run`. -/
def runChild (spawned : Except String Child) (input : List UInt8) (timeout : ℕ) :
    Timed (Except String Output) :=
  match spawned with
  | .error err => pure (.error err)
  | .ok child =>
    (·.getD (.error "probe timed out")) <$> Timed.timeout timeout (child.output input)

/-! ## Usage -/

structure UsageCollectionRequest where
  hostId : String
  address : String
  os : UsageOs
  sshVerifyHostKey : Bool
  timeout : ℕ
  linuxMinUid : ℕ
  macosMinUid : ℕ
  deriving DecidableEq

structure UsageCounts where
  consoleUsers : ℕ
  remoteUsers : ℕ
  deriving DecidableEq

structure UsageFailure where
  message : String
  deriving DecidableEq

/-- **What the collector finds on its machine**: its programs, the text of the
remote script, and the readers of what comes back. -/
structure Machine where
  spawn : String → List String → Except String Child
  utc : ℕ → ℤ
  remoteUsageScript : UsageOs → ℕ → ℕ → List UInt8
  /-- `process::error_text`. -/
  errorText : List UInt8 → String
  fromSlice : List UInt8 → Except String UsageCounts

def sshArgs (address : String) (timeout : ℕ) (verifyHostKey : Bool) : List String :=
  ["-o", "BatchMode=yes", "-o", "ConnectTimeout=" ++ toString (max (timeout / fromSecs 1) 1),
    "-o", "NumberOfPasswordPrompts=0"] ++
  (if verifyHostKey then ["-o", "StrictHostKeyChecking=yes"]
    else ["-o", "StrictHostKeyChecking=no", "-o", "UserKnownHostsFile=/dev/null"]) ++
  ["--", address, "sh", "-s"]

namespace Machine

variable (machine : Machine)

/-- What a run of `ssh` is taken for. -/
def counts : Except String Output → Except UsageFailure UsageCounts
  | .error err => .error ⟨"ssh collection failed: " ++ err⟩
  | .ok output =>
    if output.status.success then
      (machine.fromSlice output.stdout).mapError fun err =>
        ⟨"failed to parse usage json: " ++ err⟩
    else
      let stderr := machine.errorText output.stderr
      .error ⟨if stderr.isEmpty then "ssh exited with " ++ output.status.display else stderr⟩

/-- `SystemSshUsageCollector::collect`. -/
def collect (request : UsageCollectionRequest) : Timed (Except UsageFailure UsageCounts) :=
  match validateAddress request.address with
  | .error message => pure (.error ⟨message⟩)
  | .ok () =>
    machine.counts <$>
      runChild
        (machine.spawn "ssh" (sshArgs request.address request.timeout request.sshVerifyHostKey))
        (machine.remoteUsageScript request.os request.linuxMinUid request.macosMinUid)
        request.timeout

/-- The request that a host is collected by. -/
def request (host : Host) : UsageCollectionRequest where
  hostId := host.id
  address := host.address
  os := host.modules.usage.os
  sshVerifyHostKey := host.modules.usage.sshVerifyHostKey
  timeout := host.modules.usage.timeout
  linuxMinUid := host.modules.usage.linuxMinUid
  macosMinUid := host.modules.usage.macosMinUid

def snapshot (collectedAt : ℤ) : Except UsageFailure UsageCounts → UsageSnapshot
  | .ok counts => .success collectedAt counts.consoleUsers counts.remoteUsers
  | .error err => ⟨collectedAt, none, none, .failed, some err.message⟩

def collectOnce (host : Host) : Timed UsageSnapshot :=
  Timed.clock >>= fun now => snapshot (machine.utc now) <$> machine.collect (request host)

end Machine

end SimpleNetworkMonitor.Backends
