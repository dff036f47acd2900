import SimpleNetworkMonitor.Storage.Helpers.Calls
import SimpleNetworkMonitor.Storage.Synchronize
/-!
# What a publication checks

The checks an inventory and its policies pass on their way into the
storage, in one place. Where they all pass, a reload and a start fail only
from outside: at a lock that is poisoned, or at a statement that SQLite
rejects.
-/

namespace SimpleNetworkMonitor.Storage

variable {faults : Faults} {now now' : ℤ} {hosts : List Host} {policies : StoragePolicies}
  {storage : SqliteStorage}

/-- **What a publication checks**: the policies, the hosts, and the keys of
the rows that go into the temporary tables. -/
structure Publishable (hosts : List Host) (policies : StoragePolicies) : Prop where
  history : policies.history.validate = .ok ()
  maintenance : policies.maintenance.validate = .ok ()
  usageRetention : validateDuration policies.usageRetention = .ok ()
  historyRetention : validateDuration policies.historyRetention = .ok ()
  ids : (hosts.map (·.id)).Nodup
  valid : ∀ host ∈ hosts, host.validate = .ok ()
  checks : ∀ host ∈ hosts, host.modules.tcp.checks.length ≤ 64 ∧
    (host.modules.tcp.checks.map (·.id)).Nodup
  hostRows : ((incomingHostRows hosts).map Prod.fst).Nodup
  tcpRows : ((incomingTcpRows hosts).map Prod.fst).Nodup

/-- A host that is valid has no more checks than it may. -/
theorem length_checks_le {host : Host} (h : host.validate = .ok ()) :
    host.modules.tcp.checks.length ≤ 64 := by
  have htcp := Host.tcp_validate_of_validate h
  unfold ResolvedTcpHostConfig.validate at htcp
  obtain ⟨⟨⟩, -, htcp⟩ := Except.bind_eq_ok_iff.mp htcp
  obtain ⟨⟨⟩, -, htcp⟩ := Except.bind_eq_ok_iff.mp htcp
  exact not_lt.mp (Except.unless_eq_ok_iff.mp htcp).1

/-- **Valid policies and valid hosts**, with different IDs, are all that a
publication asks for. -/
theorem publishable_of_valid (hpolicies : policies.validate = .ok ())
    (hvalid : ∀ host ∈ hosts, host.validate = .ok ()) (hnd : (hosts.map (·.id)).Nodup) :
    Publishable hosts policies := by
  obtain ⟨⟨⟩, hhistory, h⟩ := Except.bind_eq_ok_iff.mp hpolicies
  obtain ⟨⟨⟩, hmaintenance, hdurations⟩ := Except.bind_eq_ok_iff.mp h
  have hduration := Except.forM_eq_ok.mp hdurations
  refine ⟨orInvalidData_eq_ok.mp hhistory, orInvalidData_eq_ok.mp hmaintenance,
    orInvalidData_eq_ok.mp (hduration _ (by simp)), orInvalidData_eq_ok.mp (hduration _ (by simp)),
    hnd, hvalid, fun host hmem => ⟨length_checks_le (hvalid host hmem),
      ResolvedTcpHostConfig.nodup_of_validate (Host.tcp_validate_of_validate (hvalid host hmem))⟩,
    ?_, nodup_incomingTcpRows hvalid hnd⟩
  rw [incomingHostRows, List.map_map]
  exact hnd

theorem Publishable.policies_validate (h : Publishable hosts policies) :
    policies.validate = .ok () := by
  refine Except.bind_eq_ok_iff.mpr ⟨(), orInvalidData_eq_ok.mpr h.history, ?_⟩
  refine Except.bind_eq_ok_iff.mpr ⟨(), orInvalidData_eq_ok.mpr h.maintenance, ?_⟩
  refine Except.forM_eq_ok.mpr fun duration hmem => orInvalidData_eq_ok.mpr ?_
  rcases List.mem_pair.mp hmem with rfl | rfl
  · exact h.usageRetention
  · exact h.historyRetention

/-- The map of an inventory is checked as the inventory is. -/
theorem Publishable.ofHosts (h : Publishable hosts policies) :
    Publishable (Catalog.ofHosts hosts).hosts policies :=
  publishable_of_valid h.policies_validate
    (fun host hmem => h.valid host ((Catalog.mem_ofHosts h.ids).mp hmem))
    (Catalog.nodup_ids _)

/-! ## Failing from outside -/

/-- **An error from outside**: of a lock that is poisoned, or of a statement
that fails where the schedule says so. -/
def Faults.Raise (faults : Faults) (e : StorageError) : Prop :=
  (e = .lockPoisoned ∧ ∃ l, faults.poisoned l = true) ∨ some e ∈ faults.sql

/-- A schedule on which only SQLite fails. -/
def Faults.OfSqlite (faults : Faults) : Prop :=
  ∀ e, some e ∈ faults.sql → ∃ message, e = .sqlite message

/-- Neither a lock nor SQLite calls the data invalid. -/
theorem Faults.OfSqlite.not_raise_invalidData (h : faults.OfSqlite) (message : String) :
    ¬ faults.Raise (.invalidData message) := by
  rintro (⟨he, -⟩ | hmem)
  · cases he
  · obtain ⟨_, he⟩ := h _ hmem
    cases he

theorem exec_registerJobs_total (config : MaintenanceConfig) (nowMs : ℤ) (db : Database) :
    ∃ db', (registerJobs config nowMs).exec db = .ok ((), db') := by
  obtain ⟨db', hexec, -⟩ := Txn.exec_forM_total (f := registerJob config nowMs)
    (P := fun _ _ => True) (l := JobKind.ALL) (s := db)
    (fun _ kind _ s _ _ => ⟨_, by rw [registerJob, Txn.exec_update], trivial⟩) trivial
  exact ⟨db', hexec⟩

/-- **The transaction of a reload goes through**, if nothing from outside
stops it. -/
theorem exists_exec_reload (h : Publishable hosts policies) (db : Database) (now now' : ℤ) :
    ∃ db', (reloadTransaction (Catalog.ofHosts hosts) (some policies) now now').exec db =
      .ok ((), db') := by
  obtain ⟨db₁, hsync, -⟩ := exists_exec_of_valid h.ofHosts.valid h.ofHosts.ids db now
  obtain ⟨db₂, hjobs⟩ := exec_registerJobs_total policies.maintenance (timestampMillis now') db₁
  exact ⟨db₂, Txn.exec_bind_eq_ok.mpr ⟨(), db₁, hsync, hjobs⟩⟩

/-- **A reload of what is publishable** is rejected from outside only. -/
theorem raise_of_updateConfiguration (h : Publishable hosts policies) {e : StorageError}
    (herror : (Program.run (updateConfiguration faults now now' hosts policies) storage).1 =
      .error e) : faults.Raise e := by
  have hlen : (hosts.map (·.id)).dedup.length = hosts.length := by
    rw [h.ids.dedup, List.length_map]
  have hpoisoned : ∀ l, faults.poisoned l = true →
      (Except.error .lockPoisoned : Except StorageError Unit) = .error e → faults.Raise e :=
    fun l hl heq => Or.inl ⟨(Except.error.inj heq).symm, l, hl⟩
  rw [updateConfiguration, Program.run_bind, Program.run_mk, h.policies_validate] at herror
  simp only [replaceConfiguration, hlen, ne_eq, not_true_eq_false, if_false, Program.run_bind,
    Program.run_get, run_lock] at herror
  -- the three locks, in the order they are taken
  rcases hh : faults.poisoned .hosts with - | -
  · rcases hi : faults.poisoned .inner with - | -
    · rcases hp : faults.poisoned .historyPolicy with - | -
      · simp only [hh, hi, hp, Bool.false_eq_true, if_false, Program.run_modify,
          Program.run_mk] at herror
        obtain ⟨conn, hexec⟩ := exists_exec_reload h storage.inner.conn now now'
        rcases Txn.transact_of_exec faults.sql hexec with hrun | ⟨e', hmem, hrun⟩
        · simp only [Inner.transaction, hrun] at herror
          cases herror
        · simp only [Inner.transaction, hrun] at herror
          obtain rfl := Except.error.inj herror
          exact Or.inr hmem
      · simp only [hh, hi, hp, Bool.false_eq_true, if_false, if_true] at herror
        exact hpoisoned .historyPolicy hp herror
    · simp only [hh, hi, Bool.false_eq_true, if_false, if_true] at herror
      exact hpoisoned .inner hi herror
  · simp only [hh, if_true] at herror
    exact hpoisoned .hosts hh herror

/-- **A start on what is publishable** fails where a statement does, or where
the cache cannot be read. -/
theorem raise_of_newInitialized (h : Publishable hosts policies) {readError : Option StorageError}
    {conn : Database} {e : StorageError}
    (herror : (newInitialized faults readError now conn hosts).1 = .error e) :
    faults.Raise e ∨ readError = some e := by
  obtain ⟨conn', hexec, -⟩ := exists_exec_of_valid h.valid h.ids conn now
  unfold newInitialized at herror
  rcases Txn.transact_of_exec faults.sql hexec with hrun | ⟨e', hmem, hrun⟩
  · rcases readError with - | e'
    · simp only [hrun] at herror
      cases herror
    · simp only [hrun] at herror
      obtain rfl := Except.error.inj herror
      exact Or.inr rfl
  · simp only [hrun] at herror
    obtain rfl := Except.error.inj herror
    exact Or.inl (Or.inr hmem)

end SimpleNetworkMonitor.Storage
