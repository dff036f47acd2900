import SimpleNetworkMonitor.Domain.Host
import Mathlib.Data.List.Nodup
import Mathlib.Data.String.Basic
/-!
# The catalog

The hosts of the published configuration, a map from their IDs. A read
clones the catalog before it opens its transaction; a reload replaces it.
-/

namespace SimpleNetworkMonitor.Storage

/-- **The catalog**: the hosts in the order of their IDs, as the map keeps
them. -/
structure Catalog where
  hosts : List Host
  sorted : hosts.Pairwise fun a b => a.id < b.id

namespace Catalog

@[ext] theorem ext {c d : Catalog} (h : c.hosts = d.hosts) : c = d := by
  cases c; cases d; cases h; rfl

instance : DecidableEq Catalog := fun c d =>
  decidable_of_iff (c.hosts = d.hosts) ⟨ext, fun h => h ▸ rfl⟩

instance : EmptyCollection Catalog := ⟨⟨[], List.Pairwise.nil⟩⟩

def get (catalog : Catalog) (id : String) : Option Host :=
  catalog.hosts.find? fun host => host.id = id

def containsKey (catalog : Catalog) (id : String) : Bool := (catalog.get id).isSome

/-- Insert into the list of a map: a host of the same ID is replaced. -/
def insertHost (host : Host) : List Host → List Host
  | [] => [host]
  | h :: hosts =>
    if host.id < h.id then host :: h :: hosts
    else if h.id < host.id then h :: insertHost host hosts
    else host :: hosts

theorem mem_of_mem_insertHost {host x : Host} {hosts : List Host} (h : x ∈ insertHost host hosts) :
    x = host ∨ x ∈ hosts := by
  induction hosts with
  | nil => exact Or.inl (List.mem_singleton.mp h)
  | cons h' hosts ih =>
    simp only [insertHost] at h
    split_ifs at h
    · exact List.mem_cons.mp h
    · rcases List.mem_cons.mp h with rfl | h
      · exact Or.inr List.mem_cons_self
      · exact (ih h).imp_right (List.mem_cons_of_mem h')
    · exact (List.mem_cons.mp h).imp_right (List.mem_cons_of_mem h')

theorem sorted_insertHost {host : Host} {hosts : List Host}
    (h : hosts.Pairwise fun a b => a.id < b.id) :
    (insertHost host hosts).Pairwise fun a b => a.id < b.id := by
  induction hosts with
  | nil => exact List.pairwise_singleton _ _
  | cons h' hosts ih =>
    obtain ⟨hlt, hrest⟩ := List.pairwise_cons.mp h
    simp only [insertHost]
    split_ifs with h₁ h₂
    · refine List.pairwise_cons.mpr ⟨fun b hb => ?_, h⟩
      rcases List.mem_cons.mp hb with rfl | hb
      · exact h₁
      · exact lt_trans h₁ (hlt b hb)
    · refine List.pairwise_cons.mpr ⟨fun b hb => ?_, ih hrest⟩
      rcases mem_of_mem_insertHost hb with rfl | hb
      · exact h₂
      · exact hlt b hb
    · have heq : host.id = h'.id := le_antisymm (not_lt.mp h₂) (not_lt.mp h₁)
      exact List.pairwise_cons.mpr ⟨fun b hb => by rw [heq]; exact hlt b hb, hrest⟩

def insert (catalog : Catalog) (host : Host) : Catalog :=
  ⟨insertHost host catalog.hosts, sorted_insertHost catalog.sorted⟩

/-- Collecting a list of hosts into a map. -/
def ofHosts (hosts : List Host) : Catalog := hosts.foldl insert ∅

/-! ## What a lookup finds -/

variable {catalog : Catalog} {host : Host} {id : String}

/-- The IDs of a catalog are different. -/
theorem nodup_ids (catalog : Catalog) : (catalog.hosts.map (·.id)).Nodup := by
  rw [List.nodup_iff_pairwise_ne, List.pairwise_map]
  exact catalog.sorted.imp fun hlt => ne_of_lt hlt

/-- An ID has one host. -/
theorem eq_of_mem {a b : Host} (ha : a ∈ catalog.hosts) (hb : b ∈ catalog.hosts)
    (hid : a.id = b.id) : a = b :=
  List.inj_on_of_nodup_map catalog.nodup_ids ha hb hid

theorem get_eq_some : catalog.get id = some host ↔ host ∈ catalog.hosts ∧ host.id = id := by
  constructor
  · intro h
    exact ⟨List.mem_of_find?_eq_some h, by simpa using List.find?_some h⟩
  · rintro ⟨hmem, rfl⟩
    rcases hf : catalog.get host.id with - | h
    · exact absurd (List.find?_eq_none.mp hf host hmem) (by simp)
    · have hid : h.id = host.id := by simpa using List.find?_some hf
      rw [eq_of_mem (List.mem_of_find?_eq_some hf) hmem hid]

theorem mem_insert {x : Host} :
    x ∈ (catalog.insert host).hosts ↔ x = host ∨ (x ∈ catalog.hosts ∧ x.id ≠ host.id) := by
  obtain ⟨hosts, hsorted⟩ := catalog
  simp only [insert]
  induction hosts with
  | nil => simp [insertHost]
  | cons h hosts ih =>
    obtain ⟨hlt, hrest⟩ := List.pairwise_cons.mp hsorted
    simp only [insertHost]
    split_ifs with h₁ h₂
    · have hne : ∀ b ∈ hosts, b.id ≠ host.id := fun b hb => ne_of_gt (lt_trans h₁ (hlt b hb))
      have hne' : h.id ≠ host.id := ne_of_gt h₁
      simp only [List.mem_cons]
      constructor
      · rintro (rfl | rfl | hx)
        · exact Or.inl rfl
        · exact Or.inr ⟨Or.inl rfl, hne'⟩
        · exact Or.inr ⟨Or.inr hx, hne x hx⟩
      · rintro (rfl | ⟨hx, -⟩)
        · exact Or.inl rfl
        · exact Or.inr hx
    · simp only [List.mem_cons, ih hrest]
      constructor
      · rintro (rfl | rfl | ⟨hx, hne⟩)
        · exact Or.inr ⟨Or.inl rfl, ne_of_lt h₂⟩
        · exact Or.inl rfl
        · exact Or.inr ⟨Or.inr hx, hne⟩
      · rintro (rfl | ⟨rfl | hx, hne⟩)
        · exact Or.inr (Or.inl rfl)
        · exact Or.inl rfl
        · exact Or.inr (Or.inr ⟨hx, hne⟩)
    · -- the host takes the place of the one with its ID
      have heq : host.id = h.id := le_antisymm (not_lt.mp h₂) (not_lt.mp h₁)
      have hne : ∀ b ∈ hosts, b.id ≠ host.id := fun b hb => by
        rw [heq]
        exact ne_of_gt (hlt b hb)
      simp only [List.mem_cons]
      constructor
      · rintro (rfl | hx)
        · exact Or.inl rfl
        · exact Or.inr ⟨Or.inr hx, hne x hx⟩
      · rintro (rfl | ⟨rfl | hx, hne'⟩)
        · exact Or.inl rfl
        · exact absurd heq.symm hne'
        · exact Or.inr hx

/-- **Collecting** hosts with different IDs keeps them all. -/
theorem mem_ofHosts {hosts : List Host} (h : (hosts.map (·.id)).Nodup) {x : Host} :
    x ∈ (ofHosts hosts).hosts ↔ x ∈ hosts := by
  -- induction on the hosts, over any catalog of other IDs
  have key : ∀ (hosts : List Host) (catalog : Catalog), (hosts.map (·.id)).Nodup →
      (∀ a ∈ catalog.hosts, ∀ b ∈ hosts, a.id ≠ b.id) →
      (x ∈ (hosts.foldl insert catalog).hosts ↔ x ∈ catalog.hosts ∨ x ∈ hosts) := by
    intro hosts
    induction hosts with
    | nil => intro catalog _ _; simp
    | cons host hosts ih =>
      intro catalog hnd hdisj
      obtain ⟨hfresh, hnd⟩ := List.nodup_cons.mp hnd
      have hne : ∀ b ∈ hosts, host.id ≠ b.id := fun b hb heq =>
        hfresh (List.mem_map.mpr ⟨b, hb, heq.symm⟩)
      rw [List.foldl_cons, ih (catalog.insert host) hnd, mem_insert, List.mem_cons]
      · constructor
        · rintro ((rfl | ⟨hx, -⟩) | hx)
          · exact Or.inr (Or.inl rfl)
          · exact Or.inl hx
          · exact Or.inr (Or.inr hx)
        · rintro (hx | rfl | hx)
          · exact Or.inl (Or.inr ⟨hx, hdisj x hx host List.mem_cons_self⟩)
          · exact Or.inl (Or.inl rfl)
          · exact Or.inr hx
      · intro a ha b hb
        rcases mem_insert.mp ha with rfl | ⟨ha, -⟩
        · exact hne b hb
        · exact hdisj a ha b (List.mem_cons_of_mem _ hb)
  have hempty : (∅ : Catalog).hosts = [] := rfl
  rw [ofHosts, key hosts ∅ h (fun a ha => by rw [hempty] at ha; cases ha)]
  simp [hempty]

theorem get_ofHosts {hosts : List Host} (h : (hosts.map (·.id)).Nodup) :
    (ofHosts hosts).get id = some host ↔ host ∈ hosts ∧ host.id = id := by
  rw [get_eq_some, mem_ofHosts h]

end Catalog

end SimpleNetworkMonitor.Storage
