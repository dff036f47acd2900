import SimpleNetworkMonitor.History.Helpers.Repeat
import SimpleNetworkMonitor.Storage.Helpers.Steps
import SimpleNetworkMonitor.Storage.Model.Retry
/-!
# A write takes effect once

An observation that was written is settled: its rows are there and its
instant is past. Maintenance leaves it settled, and a further attempt finds
nothing to change.
-/

namespace SimpleNetworkMonitor.Storage

open History (Past)

variable {storage storage' : SqliteStorage} {attempt : Attempt} {handle : WriteGeneration}
variable {faults : Faults} {now : ℤ}

/-- **A settled observation**: its row is the latest, its transition is logged,
and the history has its instant behind it. -/
def Settled (storage : SqliteStorage) : Attempt → Prop
  | .checkResult hostId state transition =>
    storage.hosts.containsKey hostId = true ∧
      storage.inner.conn.latestStatus.find? hostId = some state ∧
      (∀ at_, state.lastCheckedAt = some at_ →
        Past storage.inner.conn.history ⟨hostId, .icmp, ""⟩ (timestampMillis at_)) ∧
      ∀ event, transition = some event →
        storage.inner.conn.transitions.values.any (sameTransition event) = true
  | .tcp hostId checkId snapshot =>
    ∃ host check, storage.hosts.get hostId = some host ∧ findCheck host checkId = .ok check ∧
      storage.inner.conn.latestTcp.find? (host.id, check.id.value) =
        some ⟨host.address, check.port.get, snapshot⟩ ∧
      Past storage.inner.conn.history ⟨host.id, .tcp, check.id.value⟩
        (timestampMillis snapshot.observedAt)

/-! ## Writing what is settled -/

theorem putCheckResult_of_settled {db : Database} {hostId : String} {state : HostRuntimeState}
    {transition : Option IcmpTransition} (hlatest : db.latestStatus.find? hostId = some state)
    (hpast : ∀ at_, state.lastCheckedAt = some at_ →
      Past db.history ⟨hostId, .icmp, ""⟩ (timestampMillis at_))
    (htransition : ∀ event, transition = some event →
      db.transitions.values.any (sameTransition event) = true) :
    db.putCheckResult hostId state transition now = db := by
  have hhistory : icmpHistory db.history hostId state now = db.history := by
    unfold icmpHistory
    rcases hat : state.lastCheckedAt with - | at_
    · rfl
    · exact History.record_of_past (hpast at_ hat)
  have hlog : transition.elim db.transitions (logTransition db.transitions) = db.transitions := by
    rcases transition with - | event
    · rfl
    · exact logTransition_of_any (htransition event rfl)
  rw [Database.putCheckResult, Table.upsert_eq_self hlatest, hhistory, hlog]

theorem putTcp_of_settled {db : Database} {host : Host} {check : TcpCheckConfig}
    {snapshot : TcpSnapshot}
    (hlatest : db.latestTcp.find? (host.id, check.id.value) =
      some ⟨host.address, check.port.get, snapshot⟩)
    (hpast : Past db.history ⟨host.id, .tcp, check.id.value⟩
      (timestampMillis snapshot.observedAt)) : db.putTcp host check snapshot now = db := by
  unfold Database.putTcp
  rw [Table.upsert_eq_self hlatest, History.record_of_past hpast]

theorem withConn_self (storage : SqliteStorage) : storage.withConn storage.inner.conn = storage :=
  rfl

/-- **A further attempt changes nothing**, whatever goes wrong in it. -/
theorem run_of_settled (h : Settled storage attempt) (handle : WriteGeneration) (faults : Faults)
    (now : ℤ) : (Program.run (attempt.call handle faults now) storage).2 = storage := by
  cases attempt with
  | checkResult hostId state transition =>
    obtain ⟨-, hlatest, hpast, htransition⟩ := h
    rcases updateCheckResult_cases handle faults now hostId state transition storage with
      ⟨e, h⟩ | ⟨-, -, h⟩
    · rw [Attempt.call, h]
    · rw [Attempt.call, h, putCheckResult_of_settled hlatest hpast htransition, withConn_self]
  | tcp hostId checkId snapshot =>
    obtain ⟨host, check, hget, hcheck, hlatest, hpast⟩ := h
    rcases updateTcp_cases handle faults now hostId checkId snapshot storage with
      ⟨e, h⟩ | ⟨host', check', hget', hcheck', -, h⟩
    · rw [Attempt.call, h]
    · obtain rfl : host = host' := Option.some.inj (hget.symm.trans hget')
      obtain rfl : check = check' := Except.ok.inj (hcheck.symm.trans hcheck')
      rw [Attempt.call, h, putTcp_of_settled hlatest hpast, withConn_self]

/-! ## An attempt without faults -/

theorem run_withInner_ok {α : Type} (hcurrent : Current handle storage) (txn : Inner → Sql α)
    {a : α} {conn : Database} (h : (txn storage.inner).exec storage.inner.conn = .ok (a, conn)) :
    Program.run (withInner handle {} fun inner => inner.transaction (txn inner) {}) storage =
      (.ok a, storage.withConn conn) := by
  have hgen : handle.any (· ≠ storage.inner.generation) = false := by
    rcases handle with - | generation
    · rfl
    · simp [hcurrent generation rfl]
  rw [run_withInner]
  simp only [hgen, Bool.false_eq_true, if_false, Inner.transaction, Txn.transact_nil h]
  rfl

/-- **An attempt in its generation succeeds** where nothing goes wrong. -/
theorem run_ok_of_settled (h : Settled storage attempt) (hcurrent : Current handle storage)
    (now : ℤ) : (Program.run (attempt.call handle {} now) storage).1 = .ok () := by
  cases attempt with
  | checkResult hostId state transition =>
    obtain ⟨hkey, -⟩ := h
    have hexists : Program.run (ensureHostExists {} hostId) storage = (.ok (), storage) := by
      simp [ensureHostExists, Program.run_bind, run_lock, hkey]
    rw [Attempt.call, updateCheckResult, Program.run_bind, hexists]
    simp only [run_withInner_ok hcurrent (fun _ => checkResultTransaction hostId state transition now)
      (exec_checkResultTransaction hostId state transition now)]
  | tcp hostId checkId snapshot =>
    obtain ⟨host, check, hget, hcheck, -⟩ := h
    have hlookup : Program.run (lookupHost {} hostId) storage = (.ok host, storage) := by
      simp [lookupHost, Program.run_bind, run_lock, hget]
    rw [Attempt.call, updateTcp, Program.run_bind, hlookup]
    simp only [Program.run_bind, Program.run_mk, hcheck,
      run_withInner_ok hcurrent (fun _ => tcpTransaction host check snapshot now)
        (exec_tcpTransaction host check snapshot now)]

/-! ## The first attempt -/

theorem timestampMillis_mono {a b : ℤ} (h : a ≤ b) : timestampMillis a ≤ timestampMillis b := by
  unfold timestampMillis
  omega

/-- **A write that succeeded is settled**, where the observation is not
ahead of the clock. -/
theorem settled_of_ok (hs : History.Sound storage.inner.conn.history)
    (hclock : ∀ at_, attempt.observedAt = some at_ → at_ ≤ now)
    (h : Program.run (attempt.call handle faults now) storage = (.ok (), storage')) :
    ∃ conn, storage' = storage.withConn conn ∧ Current handle storage ∧
      History.Sound conn.history ∧ Settled (storage.withConn conn) attempt := by
  cases attempt with
  | checkResult hostId state transition =>
    rcases updateCheckResult_cases handle faults now hostId state transition storage with
      ⟨e, h'⟩ | ⟨hkey, hcurrent, h'⟩ <;> rw [Attempt.call, h'] at h
    · cases h
    · obtain ⟨-, rfl⟩ := Prod.mk.inj h
      refine ⟨_, rfl, hcurrent, sound_icmpHistory hs _ _ _, hkey, Table.find?_upsert_self,
        fun at_ hat => ?_, fun event hevent => ?_⟩
      · show Past (icmpHistory _ _ _ _) _ _
        rw [icmpHistory, hat]
        exact History.past_record hs (timestampMillis_mono (hclock at_ hat))
      · subst hevent
        exact any_logTransition
  | tcp hostId checkId snapshot =>
    rcases updateTcp_cases handle faults now hostId checkId snapshot storage with
      ⟨e, h'⟩ | ⟨host, check, hget, hcheck, hcurrent, h'⟩ <;> rw [Attempt.call, h'] at h
    · cases h
    · obtain ⟨-, rfl⟩ := Prod.mk.inj h
      exact ⟨_, rfl, hcurrent, History.sound_record hs _ _ _, host, check, hget, hcheck,
        Table.find?_upsert_self,
        History.past_record hs (timestampMillis_mono (hclock _ rfl))⟩

/-! ## In between -/

/-- What maintenance keeps of the storage, for a settled observation. -/
theorem settled_of_maintained {conn : Database} (h : Settled storage attempt)
    (hstatus : conn.latestStatus = storage.inner.conn.latestStatus)
    (htcp : conn.latestTcp = storage.inner.conn.latestTcp)
    (hpast : ∀ key at_, Past storage.inner.conn.history key at_ → Past conn.history key at_)
    (htransition : ∀ event, attempt.transition = some event →
      storage.inner.conn.transitions.values.any (sameTransition event) = true →
        conn.transitions.values.any (sameTransition event) = true) :
    Settled (storage.withConn conn) attempt := by
  cases attempt with
  | checkResult hostId state transition =>
    obtain ⟨hkey, hlatest, hp, hevent⟩ := h
    exact ⟨hkey, by rwa [SqliteStorage.withConn_conn, hstatus], fun at_ hat => hpast _ _ (hp at_ hat),
      fun event he => htransition event he (hevent event he)⟩
  | tcp hostId checkId snapshot =>
    obtain ⟨host, check, hget, hcheck, hlatest, hp⟩ := h
    exact ⟨host, check, hget, hcheck, by rwa [SqliteStorage.withConn_conn, htcp], hpast _ _ hp⟩

/-- **Pruning keeps a transition** that is no older than the cutoff. -/
theorem any_putPruned {db : Database} {event : IcmpTransition} {scan : Table.LimitScan} {cutoff : ℤ}
    (hle : cutoff ≤ event.changedAt) (h : db.transitions.values.any (sameTransition event) = true) :
    (db.putPruned scan cutoff).transitions.values.any (sameTransition event) = true := by
  obtain ⟨row, hrow, hsame⟩ := List.any_eq_true.mp h
  obtain ⟨⟨id, row⟩, hmem, rfl⟩ := List.mem_map.mp hrow
  have hat : row.changedAt = event.changedAt := by
    simp only [sameTransition, Bool.and_eq_true, decide_eq_true_eq] at hsame
    exact hsame.1.1.2
  have hkept : decide (row.changedAt < cutoff) = false := by
    rw [hat, decide_eq_false_iff_not]
    exact not_lt.mpr hle
  exact List.any_eq_true.mpr ⟨row, List.mem_map_of_mem (f := Prod.snd)
    (Log.mem_deleteLimit_of_not hmem hkept), hsame⟩

/-- **What runs in between** changes the database at most, and leaves the
observation settled. -/
theorem settled_meanwhile {step : Meanwhile} (hs : History.Sound storage.inner.conn.history)
    (h : Settled storage attempt)
    (hretains : ∀ event, attempt.transition = some event →
      step.retains storage.inner.historyRetention event) :
    ∃ conn, step.apply attempt storage = storage.withConn conn ∧ History.Sound conn.history ∧
      Settled (storage.withConn conn) attempt := by
  have hself : ∃ conn, storage = storage.withConn conn ∧ History.Sound conn.history ∧
      Settled (storage.withConn conn) attempt := ⟨storage.inner.conn, rfl, hs, h⟩
  cases step with
  | rollup faults now =>
    rcases rollup_cases faults now storage with ⟨e, h'⟩ | ⟨done, h'⟩ <;> rw [Meanwhile.apply, h']
    · exact hself
    · exact ⟨_, rfl, History.sound_rollup hs _, settled_of_maintained h rfl rfl
        (fun _ _ hp => History.past_rollup hs hp _) fun _ _ ht => ht⟩
  | prune scan faults now =>
    rcases prune_cases scan faults now storage with ⟨e, h'⟩ | h' <;> rw [Meanwhile.apply, h']
    · exact hself
    · exact ⟨_, rfl, History.sound_prune hs _ _ _, settled_of_maintained h rfl rfl
        (fun _ _ hp => History.past_prune hs hp _ _ _) fun _ _ ht => ht⟩
  | pruneHistory scan faults now =>
    rcases pruneHistory_cases scan faults now storage with ⟨e, h'⟩ | ⟨n, h'⟩ <;>
      rw [Meanwhile.apply, h']
    · exact hself
    · exact ⟨_, rfl, hs, settled_of_maintained h rfl rfl (fun _ _ hp => hp)
        fun event he ht => any_putPruned (of_decide_eq_true (hretains event he)) ht⟩
  | attempt handle faults now =>
    rw [Meanwhile.apply, run_of_settled h]
    exact hself

/-- **Everything in between leaves the observation settled.** -/
theorem settled_run {between : List Meanwhile} (hs : History.Sound storage.inner.conn.history)
    (h : Settled storage attempt)
    (hretains : ∀ event, attempt.transition = some event →
      ∀ step ∈ between, step.retains storage.inner.historyRetention event) :
    ∃ conn, between.foldl (fun storage step => step.apply attempt storage) storage =
      storage.withConn conn ∧ Settled (storage.withConn conn) attempt := by
  have key := List.foldl_invariant (l := between)
    (f := fun storage step => Meanwhile.apply attempt step storage)
    (P := fun _ storage' => ∃ conn, storage' = storage.withConn conn ∧
      History.Sound conn.history ∧ Settled (storage.withConn conn) attempt)
    (fun done rest storage' step hl hstep => ?_) ⟨storage.inner.conn, rfl, hs, h⟩
  · obtain ⟨conn, heq, -, hsettled⟩ := key
    exact ⟨conn, heq, hsettled⟩
  · obtain ⟨conn, rfl, hs', hsettled⟩ := hstep
    have hmem : step ∈ between := by rw [hl]; simp
    obtain ⟨conn', heq, hs'', hsettled'⟩ := settled_meanwhile hs' hsettled
      fun event he => hretains event he step hmem
    exact ⟨conn', heq, hs'', hsettled'⟩

/-! ## The result -/

/-- **A retried write takes effect once.** In every state a run reaches: where
an attempt succeeds with an observation that is not ahead of the clock, the
observation is settled, and stays so; any later attempt in the same generation
finds nothing to change. It leaves the whole storage as it was, whatever goes
wrong in it, and succeeds where nothing does. In between, maintenance may run
and further attempts be made; none of it may prune the transition. -/
theorem attempt_takes_effect_once (ops : List ServiceOp) (storage storage' : SqliteStorage)
    (attempt : Attempt) (handle : WriteGeneration) (faults : Faults) (now : ℤ)
    (between : List Meanwhile) (hrun : Service.run ops = .up storage)
    (hclock : ∀ at_, attempt.observedAt = some at_ → at_ ≤ now)
    (hfirst : Program.run (attempt.call handle faults now) storage = (.ok (), storage'))
    (hretains : ∀ event, attempt.transition = some event →
      ∀ step ∈ between, step.retains storage.inner.historyRetention event) :
    let later := between.foldl (fun storage step => step.apply attempt storage) storage'
    Settled storage' attempt ∧ Settled later attempt ∧
      (∀ now₂, Program.run (attempt.call handle {} now₂) later = (.ok (), later)) ∧
      ∀ faults₂ now₂, (Program.run (attempt.call handle faults₂ now₂) later).2 = later := by
  have hs : History.Sound storage.inner.conn.history := by
    have := Service.sound ops
    rwa [hrun] at this
  obtain ⟨conn, rfl, hcurrent, hs', hsettled⟩ := settled_of_ok hs hclock hfirst
  obtain ⟨conn', hlater, hsettled'⟩ := settled_run hs' hsettled hretains
  intro later
  have heq : later = storage.withConn conn' := hlater
  rw [heq]
  exact ⟨hsettled, hsettled', fun now₂ => Prod.ext (run_ok_of_settled hsettled' hcurrent now₂)
    (run_of_settled hsettled' _ _ _), fun faults₂ now₂ => run_of_settled hsettled' _ _ _⟩

/-! ## A sample -/

/-- A host goes up one second after the daemon starts. -/
def sampleAttempt : Attempt :=
  .checkResult "node-a"
    { status := .up, lastCheckedAt := some 1000000000, lastChangeAt := some 1000000000
      latency := some 4000000, consecutiveSuccesses := 1 }
    (some ⟨"node-a", .unknown, .up, 1000000000, some 4, none, "system", "initial"⟩)

def sampleOps : List ServiceOp :=
  [.start {} none 0
    [{ id := "node-a", address := "192.0.2.1", name := "Node A", groups := ["core"] }]]

/-- The storage once the attempt has been committed. -/
def sampleWritten : SqliteStorage :=
  (Program.run (sampleAttempt.call (some 0) {} 1000000000) (Service.run sampleOps).storage).2

/-- Another attempt whose answer is lost, and a batch of each kind. -/
def sampleBetween : List Meanwhile :=
  [.attempt (some 0) { sql := [none, some .busy] } 2000000000, .rollup {} 3000000000,
    .prune .inOrder {} 3000000000, .pruneHistory .inOrder {} 3000000000]

theorem sampleAttempt_takes_effect_once :
    let later := sampleBetween.foldl (fun storage step => step.apply sampleAttempt storage)
      sampleWritten
    Settled sampleWritten sampleAttempt ∧ Settled later sampleAttempt ∧
      Program.run (sampleAttempt.call (some 0) {} 4000000000) later = (.ok (), later) := by
  intro later
  obtain ⟨hstored, hstays, hlater, -⟩ := attempt_takes_effect_once sampleOps
    (Service.run sampleOps).storage sampleWritten sampleAttempt (some 0) {} 1000000000 sampleBetween
    (by decide +kernel) (fun at_ h => by cases h; decide) (by decide +kernel)
    (fun event h => by cases h; decide +kernel)
  exact ⟨hstored, hstays, hlater 4000000000⟩

end SimpleNetworkMonitor.Storage
