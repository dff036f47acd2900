import SimpleNetworkMonitor.Api.Model.Metrics
/-!
# The series of a scrape

What tells samples apart: the family, the suffix and the labels. Every
function writes some of a fixed list of them, in its order, so a list
without repetition is enough for the samples to be different.
-/

namespace SimpleNetworkMonitor.Api

open App Api.Metric

/-- What tells a sample apart. -/
abbrev Key := Metric × String × List (String × String)

def Sample.key (s : Sample) : Key := (s.metric, s.suffix, s.labels)

/-! ## Lists that hold every sample a function may write -/

def commonKeys (labels : List (String × String)) : List Key :=
  [(ENABLED, "", labels), (FRESH, "", labels), (OBSERVED, "", labels)]

def icmpKeys (host : Host) : List Key :=
  commonKeys (checkLabels host "icmp") ++
    [(ICMP_STATUS, "", [("host_id", host.id), ("state", "unknown")]),
      (ICMP_STATUS, "", [("host_id", host.id), ("state", "up")]),
      (ICMP_STATUS, "", [("host_id", host.id), ("state", "down")]),
      (RTT, "", [("host_id", host.id)])]

def usageKeys (host : Host) : List Key :=
  commonKeys (checkLabels host "usage") ++
    [(USAGE_SUCCESS, "", [("host_id", host.id)]),
      (USERS, "", [("host_id", host.id), ("session", "console")]),
      (USERS, "", [("host_id", host.id), ("session", "remote")])]

def tcpKeys (host : Host) (check : TcpCheckConfig) : List Key :=
  commonKeys (tcpLabels host check) ++
    [(TCP_SUCCESS, "", tcpLabels host check), (TCP_DURATION, "", tcpLabels host check)]

def recordKeys (host : Host) : List Key :=
  icmpKeys host ++ usageKeys host ++ host.modules.tcp.checks.flatMap (tcpKeys host)

def runtimeKeys (kind : String) : List Key :=
  [(RUNS, "", [("kind", kind), ("result", "success")]),
    (RUNS, "", [("kind", kind), ("result", "failure")]), (RETRIES, "", [("kind", kind)])] ++
  (["0.01", "0.05", "0.1", "0.5", "1", "5", "10", "+Inf"].map fun le =>
    (DURATION, "_bucket", [("kind", kind), ("le", le)])) ++
  [(DURATION, "_count", [("kind", kind)]), (DURATION, "_sum", [("kind", kind)])]

def allKeys (records : List HostRecord) (stats : RuntimeMetrics) : List Key :=
  (records.flatMap fun record => recordKeys record.host) ++
    stats.rows.flatMap fun row => runtimeKeys row.1

/-! ## What is written -/

theorem sublist_common (labels : List (String × String)) (timing : Timing) (now : ℤ) :
    ((common labels timing now).map Sample.key).Sublist (commonKeys labels) := by
  obtain ⟨enabled, observed, interval, timeout⟩ := timing
  have hboth : [(ENABLED, "", labels), (FRESH, "", labels)].Sublist (commonKeys labels) :=
    List.sublist_append_left [(ENABLED, "", labels), (FRESH, "", labels)] [(OBSERVED, "", labels)]
  cases enabled with
  | false => exact hboth
  | true =>
    cases observed with
    | none => exact hboth
    | some observed => exact List.Sublist.refl _

theorem sublist_icmp (record : HostRecord) (now : ℤ) :
    ((icmpMetrics record now).map Sample.key).Sublist (icmpKeys record.host) := by
  unfold icmpMetrics icmpKeys
  rw [List.map_append]
  refine (sublist_common _ _ now).append ?_
  split_ifs with henabled hfresh
  · cases record.state.latency with
    | none => exact List.sublist_append_left _ [(RTT, "", [("host_id", record.host.id)])]
    | some latency => exact List.Sublist.refl _
  · exact List.sublist_append_left _ [(RTT, "", [("host_id", record.host.id)])]
  · exact List.nil_sublist _

theorem sublist_usage (record : HostRecord) (now : ℤ) :
    ((usageMetrics record now).map Sample.key).Sublist (usageKeys record.host) := by
  unfold usageMetrics usageKeys
  rw [List.map_append]
  refine (sublist_common _ _ now).append ?_
  split_ifs with henabled
  · cases record.usage with
    | none => exact List.nil_sublist _
    | some snapshot =>
      obtain ⟨collectedAt, console, remote, status, error⟩ := snapshot
      simp only [List.map_append]
      refine List.Sublist.cons_cons _ ?_
      split_ifs with hfresh
      · cases console <;> cases remote <;> simp [Sample.key]
      · exact List.nil_sublist _
  · exact List.nil_sublist _

theorem sublist_tcpCheck (record : HostRecord) (now : ℤ) (check : TcpCheckConfig) :
    ((tcpCheckMetrics record now check).map Sample.key).Sublist (tcpKeys record.host check) := by
  unfold tcpCheckMetrics tcpKeys
  rw [List.map_append]
  refine (sublist_common _ _ now).append ?_
  split_ifs with henabled hfresh
  · cases record.tcp.find? check.id with
    | none => exact List.nil_sublist _
    | some snapshot =>
      simp only [List.map_append]
      refine List.Sublist.cons_cons _ ?_
      cases snapshot.duration with
      | none => exact List.nil_sublist _
      | some duration => exact List.Sublist.refl _
  · cases record.tcp.find? check.id with
    | none => exact List.nil_sublist _
    | some snapshot => exact List.Sublist.cons_cons _ (List.nil_sublist _)
  · exact List.nil_sublist _

theorem sublist_flatMap {α β : Type} {f g : α → List β} {l : List α}
    (h : ∀ a ∈ l, (f a).Sublist (g a)) : (l.flatMap f).Sublist (l.flatMap g) := by
  induction l with
  | nil => exact List.Sublist.refl _
  | cons a l ih =>
    exact (h a List.mem_cons_self).append (ih fun b hb => h b (List.mem_cons_of_mem _ hb))

theorem sublist_record (record : HostRecord) (now : ℤ) :
    ((recordSamples record now).map Sample.key).Sublist (recordKeys record.host) := by
  unfold recordSamples recordKeys tcpMetrics
  rw [List.map_append, List.map_append, List.map_flatMap]
  exact ((sublist_icmp record now).append (sublist_usage record now)).append
    (sublist_flatMap fun check _ => sublist_tcpCheck record now check)

/-- The process writes all of its samples. -/
theorem map_key_runtimeMetrics (kind : String) (stats : CheckStats) :
    (runtimeMetrics kind stats).map Sample.key = runtimeKeys kind := by
  have hle : (List.ofFn fun index => (Number.seconds (DURATION_BUCKETS index)).display) =
      ["0.01", "0.05", "0.1", "0.5", "1", "5", "10"] := by decide +kernel
  have hbuckets : (List.ofFn fun index => (DURATION, "_bucket",
      [("kind", kind), ("le", (Number.seconds (DURATION_BUCKETS index)).display)])) =
      (["0.01", "0.05", "0.1", "0.5", "1", "5", "10"].map fun le =>
        (DURATION, "_bucket", [("kind", kind), ("le", le)])) := by
    rw [← hle, List.map_ofFn]
    rfl
  unfold runtimeMetrics
  rw [List.map_append, List.map_append, List.map_ofFn, Function.comp_def]
  simp only [Sample.key]
  rw [hbuckets]
  rfl

theorem sublist_samples (records : List HostRecord) (stats : RuntimeMetrics) (now : ℤ) :
    ((samples records stats now).map Sample.key).Sublist (allKeys records stats) := by
  unfold samples allKeys
  rw [List.map_append, List.map_flatMap, List.map_flatMap]
  refine (sublist_flatMap fun record _ => sublist_record record now).append ?_
  exact sublist_flatMap fun row _ => by rw [map_key_runtimeMetrics]

/-! ## No key twice -/

theorem nodup_builtin (host : Host) : (icmpKeys host ++ usageKeys host).Nodup := by
  simp [icmpKeys, usageKeys, commonKeys, checkLabels, ENABLED, FRESH, OBSERVED, ICMP_STATUS, RTT,
    USAGE_SUCCESS, USERS]

theorem nodup_tcpKeys (host : Host) (check : TcpCheckConfig) : (tcpKeys host check).Nodup := by
  simp [tcpKeys, commonKeys, ENABLED, FRESH, OBSERVED, TCP_SUCCESS, TCP_DURATION]

theorem nodup_runtimeKeys (kind : String) : (runtimeKeys kind).Nodup := by
  simp [runtimeKeys, RUNS, RETRIES, DURATION]

theorem labels_of_mem_tcpKeys {host : Host} {check : TcpCheckConfig} {key : Key}
    (h : key ∈ tcpKeys host check) : key.2.2 = tcpLabels host check := by
  simp only [tcpKeys, commonKeys, List.cons_append, List.nil_append, List.mem_cons,
    List.not_mem_nil, or_false] at h
  rcases h with rfl | rfl | rfl | rfl | rfl <;> rfl

/-- The labels of the built-in samples start with the host, and none goes on
with a named check. -/
theorem labels_of_mem_builtin {host : Host} {key : Key} (h : key ∈ icmpKeys host ++ usageKeys host) :
    key.2.2.head? = some ("host_id", host.id) ∧
      ∀ id, key.2.2.drop 1 ≠ [("check_id", "tcp." ++ id)] := by
  have hmem : key.2.2.drop 1 ∈ [[("check_id", "icmp")], [("check_id", "usage")],
      [("state", "unknown")], [("state", "up")], [("state", "down")], [("session", "console")],
      [("session", "remote")], []] ∧ key.2.2.head? = some ("host_id", host.id) := by
    simp only [icmpKeys, usageKeys, commonKeys, List.cons_append, List.nil_append, List.mem_cons,
      List.not_mem_nil, or_false] at h
    rcases h with rfl | rfl | rfl | rfl | rfl | rfl | rfl | rfl | rfl | rfl | rfl | rfl | rfl <;>
      exact ⟨by simp [checkLabels], rfl⟩
  refine ⟨hmem.2, fun id heq => ?_⟩
  have hfirst : ("tcp." ++ id).toList.head? = some 't' := by simp
  rw [heq] at hmem
  have hclosed := hmem.1
  simp only [List.mem_cons, List.cons.injEq, Prod.mk.injEq, List.not_mem_nil] at hclosed
  rcases hclosed with h | h | h | h | h | h | h | h | h <;> simp at h <;>
    (rw [h] at hfirst; exact absurd hfirst (by decide))

theorem head_of_mem_recordKeys {host : Host} {key : Key} (h : key ∈ recordKeys host) :
    key.2.2.head? = some ("host_id", host.id) := by
  rcases List.mem_append.mp h with h | h
  · exact (labels_of_mem_builtin h).1
  · obtain ⟨check, -, h⟩ := List.mem_flatMap.mp h
    rw [labels_of_mem_tcpKeys h]
    rfl

theorem head_of_mem_runtimeKeys {kind : String} {key : Key} (h : key ∈ runtimeKeys kind) :
    key.2.2.head? = some ("kind", kind) := by
  simp only [runtimeKeys, List.map_cons, List.map_nil, List.cons_append, List.nil_append,
    List.mem_cons, List.not_mem_nil, or_false] at h
  rcases h with rfl | rfl | rfl | rfl | rfl | rfl | rfl | rfl | rfl | rfl | rfl | rfl | rfl <;> rfl

/-- The labels of two named checks are different, as their IDs are. -/
theorem id_eq_of_tcpLabels {host : Host} {check check' : TcpCheckConfig}
    (h : tcpLabels host check = tcpLabels host check') : check.id = check'.id := by
  have hid : "tcp." ++ check.id.value = "tcp." ++ check'.id.value := by
    simpa [tcpLabels, checkLabels] using h
  have htext := congrArg String.toList hid
  rw [String.toList_append, String.toList_append] at htext
  have hvalue := String.toList_inj.mp (List.append_cancel_left htext)
  cases hcheck : check.id
  cases hcheck' : check'.id
  rw [hcheck, hcheck'] at hvalue
  cases hvalue
  rfl

/-- **A record has no key twice**, where its checks have different IDs: the
prefix keeps a named check apart from the built-in ones. -/
theorem nodup_recordKeys {host : Host} (h : (host.modules.tcp.checks.map (·.id)).Nodup) :
    (recordKeys host).Nodup := by
  refine List.nodup_append.mpr ⟨nodup_builtin host, ?_, ?_⟩
  · rw [List.nodup_flatMap]
    refine ⟨fun check _ => nodup_tcpKeys host check, ?_⟩
    rw [List.nodup_iff_pairwise_ne, List.pairwise_map] at h
    refine h.imp fun hne key hkey hkey' => hne ?_
    exact id_eq_of_tcpLabels ((labels_of_mem_tcpKeys hkey).symm.trans (labels_of_mem_tcpKeys hkey'))
  · rintro key hkey key' hkey' rfl
    obtain ⟨check, -, hcheck⟩ := List.mem_flatMap.mp hkey'
    refine (labels_of_mem_builtin hkey).2 check.id.value ?_
    rw [labels_of_mem_tcpKeys hcheck]
    rfl

/-- **A scrape has no key twice.** -/
theorem nodup_allKeys {records : List HostRecord} (stats : RuntimeMetrics)
    (hhosts : (records.map (·.host.id)).Nodup)
    (hchecks : ∀ record ∈ records, (record.host.modules.tcp.checks.map (·.id)).Nodup) :
    (allKeys records stats).Nodup := by
  refine List.nodup_append.mpr ⟨?_, ?_, ?_⟩
  · rw [List.nodup_flatMap]
    refine ⟨fun record hr => nodup_recordKeys (hchecks record hr), ?_⟩
    rw [List.nodup_iff_pairwise_ne, List.pairwise_map] at hhosts
    refine hhosts.imp fun hne key hkey hkey' => hne ?_
    have heq := (head_of_mem_recordKeys hkey).symm.trans (head_of_mem_recordKeys hkey')
    simpa using heq
  · rw [List.nodup_flatMap]
    refine ⟨fun row _ => nodup_runtimeKeys row.1, stats.sorted.imp fun hlt key hkey hkey' => ?_⟩
    have heq := (head_of_mem_runtimeKeys hkey).symm.trans (head_of_mem_runtimeKeys hkey')
    exact ne_of_lt hlt (by simpa using heq)
  · rintro key hkey key' hkey' rfl
    obtain ⟨record, -, hrecord⟩ := List.mem_flatMap.mp hkey
    obtain ⟨row, -, hrow⟩ := List.mem_flatMap.mp hkey'
    have heq := (head_of_mem_recordKeys hrecord).symm.trans (head_of_mem_runtimeKeys hrow)
    simp at heq

/-! ## Shapes -/

/-- A key without the values of its labels. -/
def Key.shape (key : Key) : Metric × String × List String :=
  (key.1, key.2.1, key.2.2.map Prod.fst)

/-- The shapes there are. -/
def SHAPES : List (Metric × String × List String) :=
  [(ENABLED, "", ["host_id", "check_id"]), (FRESH, "", ["host_id", "check_id"]),
    (OBSERVED, "", ["host_id", "check_id"]), (ICMP_STATUS, "", ["host_id", "state"]),
    (RTT, "", ["host_id"]), (USAGE_SUCCESS, "", ["host_id"]), (USERS, "", ["host_id", "session"]),
    (TCP_SUCCESS, "", ["host_id", "check_id"]), (TCP_DURATION, "", ["host_id", "check_id"]),
    (RUNS, "", ["kind", "result"]), (RETRIES, "", ["kind"]), (DURATION, "_bucket", ["kind", "le"]),
    (DURATION, "_count", ["kind"]), (DURATION, "_sum", ["kind"])]

theorem shape_mem_of_recordKeys {host : Host} {key : Key} (h : key ∈ recordKeys host) :
    key.shape ∈ SHAPES := by
  rcases List.mem_append.mp h with h | h
  · have hclosed : ∀ shape ∈ (icmpKeys host ++ usageKeys host).map Key.shape, shape ∈ SHAPES := by
      simp [SHAPES, icmpKeys, usageKeys, commonKeys, checkLabels, Key.shape]
    exact hclosed _ (List.mem_map_of_mem h)
  · obtain ⟨check, -, h⟩ := List.mem_flatMap.mp h
    have hclosed : ∀ shape ∈ (tcpKeys host check).map Key.shape, shape ∈ SHAPES := by
      simp [SHAPES, tcpKeys, commonKeys, tcpLabels, checkLabels, Key.shape]
    exact hclosed _ (List.mem_map_of_mem h)

theorem shape_mem_of_allKeys {records : List HostRecord} {stats : RuntimeMetrics} {key : Key}
    (h : key ∈ allKeys records stats) : key.shape ∈ SHAPES := by
  rcases List.mem_append.mp h with h | h
  · obtain ⟨record, -, h⟩ := List.mem_flatMap.mp h
    exact shape_mem_of_recordKeys h
  · obtain ⟨row, -, h⟩ := List.mem_flatMap.mp h
    have hclosed : ∀ shape ∈ (runtimeKeys row.1).map Key.shape, shape ∈ SHAPES := by
      simp [SHAPES, runtimeKeys, Key.shape]
    exact hclosed _ (List.mem_map_of_mem h)

/-- The name of a sample says its shape. -/
theorem shape_eq_of_name : ∀ a ∈ SHAPES, ∀ b ∈ SHAPES,
    a.1.name ++ a.2.1 = b.1.name ++ b.2.1 → a = b := by
  simp [SHAPES, ENABLED, FRESH, OBSERVED, ICMP_STATUS, RTT, USAGE_SUCCESS, USERS, TCP_SUCCESS,
    TCP_DURATION, RUNS, RETRIES, DURATION]

/-- Labels with the same keys, none twice, are one list where they are one
set. -/
theorem labels_eq_of_mem_iff {l l' : List (String × String)} (hkeys : l.map Prod.fst = l'.map Prod.fst)
    (hnd : (l.map Prod.fst).Nodup) (h : ∀ label, label ∈ l ↔ label ∈ l') : l = l' := by
  have hnd' : (l'.map Prod.fst).Nodup := hkeys ▸ hnd
  refine List.ext_getElem (by simpa using congrArg List.length hkeys) fun i hi hi' => ?_
  have hmem : l[i] ∈ l' := (h _).mp (List.getElem_mem hi)
  refine List.inj_on_of_nodup_map hnd' hmem (List.getElem_mem hi') ?_
  have hfst : (l.map Prod.fst)[i]? = (l'.map Prod.fst)[i]? := by rw [hkeys]
  simpa [List.getElem?_eq_getElem hi, List.getElem?_eq_getElem hi'] using hfst

end SimpleNetworkMonitor.Api
