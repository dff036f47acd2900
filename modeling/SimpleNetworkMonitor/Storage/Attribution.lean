import SimpleNetworkMonitor.Storage.Helpers.Observing
import SimpleNetworkMonitor.Storage.Helpers.Read
import SimpleNetworkMonitor.Storage.Helpers.World
/-!
# Whose observations a read returns

A read may run on a database that is ahead of the catalog it has cloned.
What it returns of an ID was then observed on another target than the one it
returns it with, unless the row says what it was observed on.
-/

namespace SimpleNetworkMonitor.Storage

variable {db db' : Database} {targets : Targets} {hosts : List Host} {now : ℤ}

/-! ## Rows and targets -/

/-- **Every current row was observed on the target it is kept for**: that of
the identity of its host, or of the row itself. -/
structure Tracked (targets : Targets) (db : Database) : Prop where
  status : ∀ id state, db.latestStatus.find? id = some state →
    ∃ identity, db.hostIdentity.find? id = some identity ∧
      targets.status.find? id = some identity.address
  usage : ∀ id snapshot, db.latestUsage.find? id = some snapshot →
    ∃ identity, db.hostIdentity.find? id = some identity ∧
      targets.usage.find? id = some identity.address
  tcp : ∀ key row, db.latestTcp.find? key = some row →
    targets.tcp.find? key = some (row.address, row.port)

theorem tracked_empty : Tracked {} {} :=
  ⟨fun _ _ h => (nomatch h), fun _ _ h => (nomatch h), fun _ _ h => (nomatch h)⟩

theorem Tracked.congr (h : Tracked targets db) (hstatus : db'.latestStatus = db.latestStatus)
    (husage : db'.latestUsage = db.latestUsage) (htcp : db'.latestTcp = db.latestTcp)
    (hidentity : db'.hostIdentity = db.hostIdentity) : Tracked targets db' :=
  ⟨by rw [hstatus, hidentity]; exact h.status, by rw [husage, hidentity]; exact h.usage,
    by rw [htcp]; exact h.tcp⟩

/-- A host that a synchronization keeps has the address it had. -/
theorem identity_of_kept (hs : Synced hosts now db db') {id address : String}
    (hidentity : ∃ identity, db.hostIdentity.find? id = some identity ∧ identity.address = address)
    (hkept : (listed hosts id).any (!resets db ·) = true) :
    ∃ identity, db'.hostIdentity.find? id = some identity ∧ identity.address = address := by
  obtain ⟨host, hlisted, hresets⟩ := (Option.any_eq_true _ _).mp hkept
  obtain ⟨identity, hfind, haddress⟩ := hidentity
  refine ⟨identityOf host, by rw [hs.hostIdentity, hlisted]; rfl, ?_⟩
  rw [resets, id_of_listed hlisted, hfind] at hresets
  simp only [Option.all_some, ne_eq, decide_not, Bool.not_not, decide_eq_true_eq] at hresets
  rw [← haddress, hresets]
  rfl

/-- **A synchronization drops the rows whose target is another now.** -/
theorem tracked_synced (hs : Synced hosts now db db') (h : Tracked targets db) :
    Tracked targets db' where
  status id state hrow := by
    rw [hs.latestStatus, Option.filter_eq_some_iff] at hrow
    obtain ⟨identity, hfind, htarget⟩ := h.status id state hrow.1
    obtain ⟨identity', hfind', haddress⟩ := identity_of_kept hs ⟨identity, hfind, rfl⟩ hrow.2
    exact ⟨identity', hfind', by rw [htarget, haddress]⟩
  usage id snapshot hrow := by
    rw [hs.latestUsage, Option.filter_eq_some_iff] at hrow
    obtain ⟨identity, hfind, htarget⟩ := h.usage id snapshot hrow.1
    obtain ⟨identity', hfind', haddress⟩ := identity_of_kept hs ⟨identity, hfind, rfl⟩ hrow.2
    exact ⟨identity', hfind', by rw [htarget, haddress]⟩
  tcp key row hrow := by
    rw [hs.latestTcp, Option.filter_eq_some_iff] at hrow
    exact h.tcp key row hrow.1

/-- The upsert of a row and of its target. -/
theorem tracked_upsert {α : Type} {rows : Table String α} {tags : Table String String}
    {identities : Table String Identity} {id address : String} {value : α}
    (h : ∀ id value, rows.find? id = some value →
      ∃ identity, identities.find? id = some identity ∧ tags.find? id = some identity.address)
    (hidentity : ∃ identity, identities.find? id = some identity ∧ identity.address = address) :
    ∀ id' value', (rows.upsert id value).find? id' = some value' →
      ∃ identity, identities.find? id' = some identity ∧
        (tags.upsert id address).find? id' = some identity.address := by
  intro id' value' hrow
  by_cases hid : id' = id
  · subst hid
    obtain ⟨identity, hfind, haddress⟩ := hidentity
    exact ⟨identity, hfind, by rw [Table.find?_upsert_self, haddress]⟩
  · rw [Table.find?_upsert_of_ne hid] at hrow
    obtain ⟨identity, hfind, htag⟩ := h id' value' hrow
    exact ⟨identity, hfind, by rw [Table.find?_upsert_of_ne hid, htag]⟩

/-- **A write notes what it was observed on**, where the identities are those
of the catalog it was made for. -/
theorem tracked_performed {inner inner' : Inner} {catalog : Catalog} {write : Write}
    {request : Request} (h : Tracked targets inner.conn)
    (hidentity : ∀ id, inner.conn.hostIdentity.find? id = (catalog.get id).map identityOf)
    (hrequest : write.request catalog = .ok request) (hp : Performed inner now request inner') :
    Tracked (targets.record catalog write) inner'.conn := by
  -- a host of the catalog is published with the address the catalog gives it
  have hfound : ∀ {id host}, catalog.get id = some host → ∃ identity,
      inner.conn.hostIdentity.find? id = some identity ∧ identity.address = host.address := by
    intro id host hget
    exact ⟨identityOf host, by rw [hidentity, hget]; rfl, rfl⟩
  cases write with
  | checkResult hostId state transition =>
    simp only [Write.request] at hrequest
    split_ifs at hrequest with hkey
    obtain rfl := Except.ok.inj hrequest
    obtain ⟨host, hget⟩ := Option.isSome_iff_exists.mp hkey
    cases hp
    simp only [Targets.record, hget]
    exact ⟨tracked_upsert h.status (hfound hget), h.usage, h.tcp⟩
  | usage hostId snapshot =>
    simp only [Write.request] at hrequest
    rcases hget : catalog.get hostId with - | host
    · simp [hget] at hrequest
    · simp only [hget] at hrequest
      obtain rfl := Except.ok.inj hrequest
      obtain ⟨-, rfl⟩ := Catalog.get_eq_some.mp hget
      cases hp
      simp only [Targets.record, hget]
      exact ⟨h.status, tracked_upsert h.usage (hfound hget), h.tcp⟩
  | tcp hostId checkId snapshot =>
    simp only [Write.request] at hrequest
    rcases hget : catalog.get hostId with - | host
    · simp [hget] at hrequest
    · simp only [hget] at hrequest
      rcases hcheck : findCheck host checkId with e | check
      · simp [hcheck, Except.map] at hrequest
      · rw [hcheck] at hrequest
        obtain rfl := Except.ok.inj hrequest
        obtain ⟨-, rfl⟩ := Catalog.get_eq_some.mp hget
        obtain ⟨-, rfl, -⟩ := findCheck_eq_ok hcheck
        cases hp
        simp only [Targets.record, hget, hcheck]
        refine ⟨h.status, h.usage, fun key row hrow => ?_⟩
        -- an attempt carries its target itself
        by_cases hkey : key = (host.id, check.id.value)
        · subst hkey
          simp only [Database.putTcp, Table.find?_upsert_self] at hrow ⊢
          obtain rfl := Option.some.inj hrow
          rfl
        · simp only [Database.putTcp, Table.find?_upsert_of_ne hkey] at hrow ⊢
          exact h.tcp key row hrow

/-! ## Runs -/

namespace World

variable {w : World}

/-- **The catalog that the database is aligned with**: that of a reload once
it has committed, though it may not have replaced the other yet. -/
def aligned (w : World) : Catalog :=
  match w.reload with
  | some reload =>
    match reload.stage with
    | .committed | .policiesPublished | .generationBumped | .usageRetained => reload.hostMap
    | _ => w.storage.hosts
  | none => w.storage.hosts

/-- **What a run keeps**: rows and targets go together, identities and
catalog do, and each answer was computed on such a database. -/
structure Attributing (w : World) : Prop where
  tracked : Tracked w.targets w.storage.inner.conn
  identity : ∀ id, w.storage.inner.conn.hostIdentity.find? id = (w.aligned.get id).map identityOf
  answers : ∀ answer ∈ w.answers, Tracked answer.targets answer.db

theorem attributing_empty : Attributing {} :=
  ⟨tracked_empty, fun _ => rfl, fun _ h => (nomatch h)⟩

/-- Where the writer mutex can be taken, the catalog is the one the database
is aligned with, and the one of the generation. -/
theorem aligned_of_free (h : w.innerFree = true) :
    w.aligned = w.storage.hosts ∧ w.catalog = w.storage.hosts := by
  unfold innerFree at h
  unfold aligned catalog
  rcases hreload : w.reload with - | reload
  · exact ⟨rfl, rfl⟩
  · rw [hreload] at h
    rcases hstage : reload.stage <;> simp [Reload.holdsInner, hstage] at h ⊢

theorem attributing_congr {w' : World} (hw : w.Attributing) (htargets : w'.targets = w.targets)
    (hconn : w'.storage.inner.conn = w.storage.inner.conn) (haligned : w'.aligned = w.aligned)
    (hanswers : w'.answers = w.answers) : w'.Attributing :=
  ⟨by rw [htargets, hconn]; exact hw.tracked, by rw [hconn, haligned]; exact hw.identity,
    by rw [hanswers]; exact hw.answers⟩

theorem attributing_advance (hw : w.Attributing) (hcoherent : w.Coherent) (i : ℕ) (faults : Faults)
    (now now' : ℤ) : (w.advance i faults now now').Attributing := by
  have h := hcoherent.advanced i faults now now'
  generalize w.advance i faults now now' = w' at h
  cases h with
  | stuck => exact hw
  | failed htask e => exact attributing_congr hw rfl rfl rfl rfl
  | read htask hfree hready => exact attributing_congr hw rfl rfl rfl rfl
  | admitted htask hstate => exact attributing_congr hw rfl rfl rfl rfl
  | @done task request inner htask hstate hfree hgeneration hperformed hperform =>
    obtain ⟨haligned, hcatalog⟩ := aligned_of_free hfree
    obtain ⟨catalog, hpub, hrequest⟩ :=
      hcoherent.request (List.mem_of_getElem? htask) hgeneration hstate
    have hcurrent := hcoherent.current
    rw [hgeneration, hpub] at hcurrent
    obtain rfl := Option.some.inj hcurrent
    have hidentity := hw.identity
    rw [haligned, ← hcatalog] at hidentity
    have htracked := tracked_performed hw.tracked hidentity hrequest hperformed
    have hsame : inner.conn.hostIdentity = w.storage.inner.conn.hostIdentity := by
      cases hperformed <;> rfl
    refine ⟨?_, fun id => ?_, hw.answers⟩
    · simp only [finish, hpub]
      exact htracked
    · show inner.conn.hostIdentity.find? id = _
      rw [hsame]
      exact hw.identity id

/-- A reload that moves on, and leaves the database alone. -/
theorem attributing_reloadTo (hw : w.Attributing) {reload : Reload} {stage : ReloadStage}
    {storage : SqliteStorage} (hconn : storage.inner.conn = w.storage.inner.conn)
    (haligned : (w.reloadTo reload stage storage).aligned = w.aligned) :
    (w.reloadTo reload stage storage).Attributing :=
  attributing_congr hw rfl hconn haligned rfl

theorem attributing_reloadStep (hw : w.Attributing) (faults : Faults) (now now' : ℤ) :
    (w.reloadStep faults now now').Attributing := by
  unfold reloadStep
  rcases hreload : w.reload with - | reload
  · exact hw
  · rcases hstage : reload.stage <;> simp only [hstage]
    · split_ifs
      · exact attributing_congr hw rfl rfl (by simp [aligned, hreload, hstage]) rfl
      · exact attributing_reloadTo hw rfl (by simp [aligned, reloadTo, hreload, hstage])
    · split_ifs
      · exact attributing_congr hw rfl rfl (by simp [aligned, hreload, hstage]) rfl
      · exact attributing_reloadTo hw rfl (by simp [aligned, reloadTo, hreload, hstage])
    · rcases w.storage.inner.transaction_cases
          (reloadTransaction reload.hostMap reload.policies now now') faults with
        ⟨e, h⟩ | ⟨⟨⟩, conn, hexec, h⟩ <;> simp only [h]
      · exact attributing_congr hw rfl rfl (by simp [aligned, hreload, hstage]) rfl
      · have hs := synced_of_reload hexec
        have htracked : Tracked w.targets conn :=
          (tracked_synced hs hw.tracked).congr rfl rfl rfl rfl
        exact ⟨htracked, hs.hostIdentity, hw.answers⟩
    · rcases reload.policies with - | config
      · exact attributing_reloadTo hw rfl (by simp [aligned, reloadTo, hreload, hstage, Reload.hostMap])
      · exact attributing_reloadTo hw rfl (by simp [aligned, reloadTo, hreload, hstage, Reload.hostMap])
    · exact attributing_congr hw rfl rfl (by simp [aligned, reloadTo, hreload, hstage, Reload.hostMap]) rfl
    · exact attributing_reloadTo hw rfl (by simp [aligned, reloadTo, hreload, hstage, Reload.hostMap])
    · exact attributing_reloadTo hw rfl (by simp [aligned, reloadTo, hreload, hstage])
    · exact attributing_reloadTo hw rfl
        (by simp [aligned, reloadTo, hreload, hstage, SqliteStorage.retainUsage])
    · exact attributing_reloadTo hw rfl (by simp [aligned, reloadTo, hreload, hstage])
    · exact attributing_congr hw rfl rfl (by simp [aligned, hreload, hstage]) rfl

theorem attributing_step (event : Event) (hw : w.Attributing) (hcoherent : w.Coherent) :
    (w.step event).Attributing := by
  cases event with
  | advance i faults now now' => exact attributing_advance hw hcoherent i faults now now'
  | reloadStep faults now now' => exact attributing_reloadStep hw faults now now'
  | monitorGeneration faults =>
    simp only [step]
    split_ifs
    · exact hw
    · split <;> exact attributing_congr hw rfl rfl rfl rfl
  | call handle write =>
    simp only [step]
    split_ifs <;> exact attributing_congr hw rfl rfl rfl rfl
  | cancel i =>
    simp only [step]
    split
    · split_ifs <;> exact attributing_congr hw rfl rfl rfl rfl
    · exact hw
  | reload faults hosts policies =>
    simp only [step]
    split_ifs with h
    · exact hw
    · have hnone : w.reload = none := by
        simp only [Bool.or_eq_true, not_or, catalogFree] at h
        simpa using h.2
      exact attributing_congr hw rfl rfl (by simp [aligned, hnone]) rfl
  | maintain op =>
    simp only [step]
    split_ifs with h
    · -- maintenance touches neither the latest rows nor the identities
      have hop := maintained_apply (Bool.and_eq_true_iff.mp h).1 w.storage
      refine ⟨hw.tracked.congr hop.latestStatus hop.latestUsage hop.latestTcp hop.hostIdentity,
        fun id => ?_, hw.answers⟩
      show (op.apply w.storage).inner.conn.hostIdentity.find? id = _
      rw [hop.hostIdentity, hw.identity id]
      simp only [aligned, hop.hosts]
    · exact hw
  | clone read =>
    simp only [step]
    split_ifs <;> exact attributing_congr hw rfl rfl rfl rfl
  | query reader =>
    simp only [step]
    split
    · -- an answer is read from rows that are tracked when it is read
      refine ⟨hw.tracked, hw.identity, fun answer h => ?_⟩
      rcases List.mem_append.mp h with h | h
      · exact hw.answers answer h
      · obtain rfl := List.mem_singleton.mp h
        exact hw.tracked
    · exact hw
  | restart faults now hosts =>
    simp only [step, newInitialized]
    rcases (syncIdentitiesInTransaction hosts now).transact_cases faults.sql
      w.storage.inner.conn with ⟨e, h⟩ | ⟨⟨⟩, conn, hexec, h⟩ <;> simp only [h]
    · exact hw
    · have hs := synced_of_exec hexec
      exact ⟨tracked_synced hs hw.tracked, (agrees_opened hs).identity, hw.answers⟩

theorem attributing_run (events : List Event) : (World.run events).Attributing := by
  have h : (World.run events).Attributing ∧ (World.run events).Coherent :=
    World.run_induction (P := fun w => w.Attributing ∧ w.Coherent)
      ⟨attributing_empty, coherent_empty⟩
      (fun event _ hw => ⟨attributing_step event hw.1 hw.2, coherent_step event hw.2⟩) events
  exact h.1

end World

/-! ## Items -/

/-- **An item shows only what was observed on the target it names**: its
address, and for an attempt the port of its check. -/
def Item.Attributed (item : Item) (db : Database) (targets : Targets) : Prop :=
  match item with
  | .record entry =>
    (∀ state, db.latestStatus.find? entry.host.id = some state →
      targets.status.find? entry.host.id = some entry.host.address) ∧
    (∀ snapshot, entry.usage = some snapshot →
      targets.usage.find? entry.host.id = some entry.host.address) ∧
    ∀ checkId snapshot, entry.tcp.find? checkId = some snapshot →
      ∃ check ∈ entry.host.modules.tcp.checks, check.id = checkId ∧
        targets.tcp.find? (entry.host.id, checkId.value) =
          some (entry.host.address, check.port.get)
  | .usage entry => targets.usage.find? entry.id = some entry.address

/-- **The catalog is not behind the database** where there is something to
show: the identity of a host that has a status or a usage row is the address
that the catalog gives it. -/
def Answer.Current (answer : Answer) (host : Host) : Prop :=
  ∀ identity, answer.db.hostIdentity.find? host.id = some identity →
    host.id ∈ answer.db.latestStatus.keys ∨ host.id ∈ answer.db.latestUsage.keys →
      identity.address = host.address

/-- Where an item comes from. -/
inductive Item.Of (db : Database) (catalog : Catalog) (host : Host) : Item → Prop where
  | record (hget : catalog.get host.id = some host) : Item.Of db catalog host (.record (hostRecord db host))
  | usage (hget : catalog.get host.id = some host) {snapshot : UsageSnapshot}
      (hlatest : db.latestUsage.find? host.id = some snapshot) :
      Item.Of db catalog host (.usage (usageOf host snapshot))

/-- **Every item is of a host of the catalog.** -/
theorem exists_of_mem {read : Read} {catalog : Catalog} {items : List Item}
    (h : read.items db catalog = .ok items) {item : Item} (hitem : item ∈ items) :
    ∃ host, Item.Of db catalog host item := by
  have hrecord : ∀ {hosts : List Host}, (∀ host ∈ hosts, catalog.get host.id = some host) →
      item ∈ (hosts.map (hostRecord db)).map .record → ∃ host, Item.Of db catalog host item := by
    intro hosts hhosts hmem
    obtain ⟨entry, hentry, rfl⟩ := List.mem_map.mp hmem
    obtain ⟨host, hhost, rfl⟩ := List.mem_map.mp hentry
    exact ⟨host, .record (hhosts host hhost)⟩
  have hcatalog : ∀ host ∈ catalog.hosts, catalog.get host.id = some host := fun host hmem =>
    Catalog.get_eq_some.mpr ⟨hmem, rfl⟩
  cases read with
  | hosts filter =>
    obtain ⟨records, hrecords, rfl⟩ := Except.map_eq_ok_iff.mp h
    obtain ⟨-, rfl⟩ := sortedRecords_eq_ok hrecords
    exact hrecord hcatalog (List.map_subset _ List.filter_sublist.subset hitem)
  | hostsPage after limit =>
    obtain rfl := Except.ok.inj h
    exact hrecord (fun host hmem => hcatalog host (List.mem_of_mem_filter (List.mem_of_mem_take hmem)))
      hitem
  | host id =>
    obtain rfl := Except.ok.inj h
    rcases hget : catalog.get id with - | host
    · simp [Storage.host, hget] at hitem
    · have hitem : item ∈ ([host].map (hostRecord db)).map .record := by
        simpa [Storage.host, hget] using hitem
      refine hrecord (fun other hother => ?_) hitem
      obtain rfl := List.mem_singleton.mp hother
      exact hcatalog other (Catalog.get_eq_some.mp hget).1
  | usageReport filter =>
    obtain ⟨report, hreport, rfl⟩ := Except.map_eq_ok_iff.mp h
    obtain ⟨entry, hentry, rfl⟩ := List.mem_map.mp hitem
    obtain ⟨host, snapshot, hget, hlatest, -, rfl⟩ := ((usageReport_eq_ok hreport).mem entry).mp hentry
    exact ⟨host, .usage hget hlatest⟩

/-- **Attribution is exact where the catalog is current**, item by item: in
every answer of every run, an item shows only what was observed on its own
target if and only if no reload has moved its host since the catalog was
cloned. -/
theorem attributed_iff_current (events : List Event) (answer : Answer) (items : List Item)
    (item : Item) (hanswer : answer ∈ (World.run events).answers) (hitems : answer.items = .ok items)
    (hitem : item ∈ items) :
    ∃ host, answer.reader.catalog.get item.id = some host ∧ item.address = host.address ∧
      (item.Attributed answer.db answer.targets ↔ answer.Current host) := by
  have ht := (World.attributing_run events).answers answer hanswer
  obtain ⟨host, hof⟩ := exists_of_mem hitems hitem
  refine ⟨host, ?_⟩
  cases hof with
  | record hget =>
    refine ⟨hget, rfl, fun ⟨hstatus, husage, _⟩ identity hidentity hrows => ?_,
      fun hcurrent => ⟨fun state hrow => ?_, fun snapshot hrow => ?_, fun checkId snapshot hrow => ?_⟩⟩
    · -- shown on its own target, a row has the address the host is published with
      rcases hrows with hrow | hrow
      · obtain ⟨state, hstate⟩ := Table.exists_find?_of_mem_keys hrow
        obtain ⟨identity', hfind, htarget⟩ := ht.status _ _ hstate
        obtain rfl := Option.some.inj (hidentity.symm.trans hfind)
        exact Option.some.inj (htarget.symm.trans (hstatus state hstate))
      · obtain ⟨snapshot, hsnapshot⟩ := Table.exists_find?_of_mem_keys hrow
        obtain ⟨identity', hfind, htarget⟩ := ht.usage _ _ hsnapshot
        obtain rfl := Option.some.inj (hidentity.symm.trans hfind)
        exact Option.some.inj (htarget.symm.trans (husage snapshot hsnapshot))
    · obtain ⟨identity, hfind, htarget⟩ := ht.status _ _ hrow
      rw [htarget]
      exact congrArg some (hcurrent identity hfind (Or.inl (Table.mem_keys_of_find? hrow)))
    · obtain ⟨identity, hfind, htarget⟩ := ht.usage _ _ hrow
      rw [show (hostRecord answer.db host).host.id = host.id from rfl, htarget]
      exact congrArg some (hcurrent identity hfind (Or.inr (Table.mem_keys_of_find? hrow)))
    · -- the loader has checked the row against the host itself
      obtain ⟨check, hcheck, hid, hlatest⟩ := find?_loadHost hrow
      exact ⟨check, hcheck, hid, ht.tcp _ _ hlatest⟩
  | usage hget hlatest =>
    obtain ⟨identity, hfind, htarget⟩ := ht.usage _ _ hlatest
    refine ⟨hget, rfl, fun hshown identity' hidentity' _ => ?_, fun hcurrent => ?_⟩
    · obtain rfl := Option.some.inj (hidentity'.symm.trans hfind)
      exact Option.some.inj (htarget.symm.trans hshown)
    · exact htarget.trans (congrArg some (hcurrent identity hfind (Or.inr (Table.mem_keys_of_find? hlatest))))

/-! ## A read that is overtaken -/

/-- A host that moves from one address to another. -/
def sampleMovedHost (address : String) : Host where
  id := "r1"
  address := address
  name := "r1"
  groups := []
  modules := { icmp := { enabled := true } }

def sampleUpState : HostRuntimeState where
  status := .up
  lastCheckedAt := some 2000000000
  consecutiveSuccesses := 1

/-- A read clones the catalog; the host moves, and is observed at its new
address; then the read runs its transaction. -/
def overtaken : List Event :=
  ([.restart {} 0 [sampleMovedHost "192.0.2.1"], .clone (.host "r1"),
    .reload {} [sampleMovedHost "192.0.2.2"] none] : List Event) ++
  List.replicate 10 (.reloadStep {} 1000000000 1000000000) ++
  ([.monitorGeneration {}, .call 1 (.checkResult "r1" sampleUpState none),
    .advance 0 {} 2000000000 2000000000, .advance 0 {} 2000000000 2000000000,
    .advance 0 {} 2000000000 2000000000, .query 0] : List Event)

/-- What it returns. -/
def sampleShown : HostRecord := sampleUpState.toRecord (sampleMovedHost "192.0.2.1") none

theorem overtaken_attributed_iff :
    ∃ answer ∈ (World.run overtaken).answers,
      ∃ host, answer.reader.catalog.get "r1" = some host ∧ "192.0.2.1" = host.address ∧
        ((Item.record sampleShown).Attributed answer.db answer.targets ↔ answer.Current host) := by
  obtain ⟨answer, hmem, hitems⟩ : ∃ answer ∈ (World.run overtaken).answers,
      answer.items = .ok [.record sampleShown] := by decide +kernel
  exact ⟨answer, hmem, attributed_iff_current overtaken answer _ (.record sampleShown) hmem hitems
    (List.mem_singleton.mpr rfl)⟩

/-- **A status of the new address is shown with the old one.** -/
theorem overtaken_not_attributed :
    ¬ ∀ (events : List Event) (answer : Answer) (items : List Item) (item : Item),
      answer ∈ (World.run events).answers → answer.items = .ok items → item ∈ items →
        item.Attributed answer.db answer.targets := by
  obtain ⟨answer, hmem, hitems, hrow, htarget⟩ : ∃ answer ∈ (World.run overtaken).answers,
      answer.items = .ok [.record sampleShown] ∧
        answer.db.latestStatus.find? "r1" = some sampleUpState ∧
        answer.targets.status.find? "r1" = some "192.0.2.2" := by decide +kernel
  intro h
  have hshown := (h overtaken answer _ _ hmem hitems (List.mem_singleton.mpr rfl)).1 sampleUpState hrow
  exact absurd (Option.some.inj (htarget.symm.trans hshown)) (by decide)

end SimpleNetworkMonitor.Storage
