import SimpleNetworkMonitor.Api.Model.Metrics
/-!
# What the metrics functions write

One lemma per function: it writes the common samples of its check and then
samples of its own, a measurement among them only where the check is fresh.
-/

namespace SimpleNetworkMonitor.Api

open App Api.Metric

variable {record : HostRecord} {now : ℤ} {s : Sample}

theorem mem_common {labels : List (String × String)} {timing : Timing}
    (h : s ∈ common labels timing now) :
    s.suffix = "" ∧ s.labels = labels ∧ (s.metric = ENABLED ∨ s.metric = FRESH ∨ s.metric = OBSERVED) := by
  unfold common at h
  rcases List.mem_append.mp h with h | h
  · rcases List.mem_cons.mp h with rfl | h
    · exact ⟨rfl, rfl, Or.inl rfl⟩
    · obtain rfl := List.mem_singleton.mp h
      exact ⟨rfl, rfl, Or.inr (Or.inl rfl)⟩
  · split_ifs at h with henabled
    · cases hobserved : timing.observed with
      | none => rw [hobserved] at h; cases h
      | some observed =>
        rw [hobserved] at h
        obtain rfl := List.mem_singleton.mp h
        exact ⟨rfl, rfl, Or.inr (Or.inr rfl)⟩
    · cases h

/-- The ICMP samples: the common ones, the states, and the round trip of a
fresh check. -/
theorem exists_icmpMetrics_eq (record : HostRecord) (now : ℤ) : ∃ own,
    icmpMetrics record now =
        common (checkLabels record.host "icmp") (icmpTiming record) now ++ own ∧
      ∀ s ∈ own, s.metric = ICMP_STATUS ∨
        (s.metric = RTT ∧ (icmpTiming record).fresh now = true) := by
  refine ⟨_, rfl, fun s h => ?_⟩
  split_ifs at h with henabled hfresh
  · rcases List.mem_append.mp h with h | h
    · obtain ⟨status, -, rfl⟩ := List.mem_map.mp h
      exact Or.inl rfl
    · cases hlatency : record.state.latency with
      | none => rw [hlatency] at h; cases h
      | some latency =>
        rw [hlatency] at h
        obtain rfl := List.mem_singleton.mp h
        exact Or.inr ⟨rfl, hfresh⟩
  · rw [List.append_nil] at h
    obtain ⟨status, -, rfl⟩ := List.mem_map.mp h
    exact Or.inl rfl
  · cases h

/-- The usage samples: the common ones, the outcome, and the users of a fresh
check. -/
theorem exists_usageMetrics_eq (record : HostRecord) (now : ℤ) : ∃ own,
    usageMetrics record now =
        common (checkLabels record.host "usage") (usageTiming record) now ++ own ∧
      ∀ s ∈ own, s.metric = USAGE_SUCCESS ∨
        (s.metric = USERS ∧ (usageTiming record).fresh now = true) := by
  refine ⟨_, rfl, fun s h => ?_⟩
  split_ifs at h with henabled
  · cases husage : record.usage with
    | none => rw [husage] at h; cases h
    | some snapshot =>
      simp only [husage] at h
      rcases List.mem_append.mp h with h | h
      · obtain rfl := List.mem_singleton.mp h
        exact Or.inl rfl
      · split_ifs at h with hfresh
        · obtain ⟨⟨session, count⟩, -, h⟩ := List.mem_flatMap.mp h
          cases count with
          | none => cases h
          | some count =>
            obtain rfl := List.mem_singleton.mp h
            rw [Bool.and_eq_true] at hfresh
            exact Or.inr ⟨rfl, hfresh.1⟩
        · cases h
  · cases h

/-- The samples of a named check: all under its own labels, the duration of a
fresh check alone. -/
theorem exists_tcpCheckMetrics_eq (record : HostRecord) (now : ℤ) (check : TcpCheckConfig) : ∃ own,
    tcpCheckMetrics record now check =
        common (tcpLabels record.host check) (tcpTiming record check) now ++ own ∧
      ∀ s ∈ own, s.labels = tcpLabels record.host check ∧
        (s.metric = TCP_SUCCESS ∨
          (s.metric = TCP_DURATION ∧ (tcpTiming record check).fresh now = true)) := by
  refine ⟨_, rfl, fun s h => ?_⟩
  split_ifs at h with henabled hfresh
  · cases hsnapshot : record.tcp.find? check.id with
    | none => rw [hsnapshot] at h; cases h
    | some snapshot =>
      simp only [hsnapshot] at h
      rcases List.mem_append.mp h with h | h
      · obtain rfl := List.mem_singleton.mp h
        exact ⟨rfl, Or.inl rfl⟩
      · cases hduration : snapshot.duration with
        | none => rw [hduration] at h; cases h
        | some duration =>
          rw [hduration] at h
          obtain rfl := List.mem_singleton.mp h
          exact ⟨rfl, Or.inr ⟨rfl, hfresh⟩⟩
  · cases hsnapshot : record.tcp.find? check.id with
    | none => rw [hsnapshot] at h; cases h
    | some snapshot =>
      simp only [hsnapshot, List.append_nil] at h
      obtain rfl := List.mem_singleton.mp h
      exact ⟨rfl, Or.inl rfl⟩
  · cases h

/-- The samples of the process are of its own families. -/
theorem mem_runtimeMetrics {kind : String} {stats : CheckStats} (h : s ∈ runtimeMetrics kind stats) :
    s.metric = RUNS ∨ s.metric = RETRIES ∨ s.metric = DURATION := by
  unfold runtimeMetrics at h
  rcases List.mem_append.mp h with h | h
  · rcases List.mem_append.mp h with h | h
    · simp only [List.mem_cons, List.not_mem_nil, or_false] at h
      rcases h with rfl | rfl | rfl
      · exact Or.inl rfl
      · exact Or.inl rfl
      · exact Or.inr (Or.inl rfl)
    · obtain ⟨index, rfl⟩ := List.mem_ofFn.mp h
      exact Or.inr (Or.inr rfl)
  · simp only [List.mem_cons, List.not_mem_nil, or_false] at h
    rcases h with rfl | rfl | rfl <;> exact Or.inr (Or.inr rfl)

/-! ## Families -/

/-- The samples of a family. -/
def family (metric : Metric) (samples : List Sample) : List Sample :=
  samples.filter fun s => s.metric = metric

/-- The counts among the values of some samples. -/
def counts (samples : List Sample) : List ℕ :=
  samples.filterMap fun s =>
    match s.value with
    | .count n => some n
    | .seconds _ => none

end SimpleNetworkMonitor.Api
