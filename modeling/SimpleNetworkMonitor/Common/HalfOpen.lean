import Mathlib.Data.Int.Basic
import Mathlib.Order.Lattice
import Mathlib.Algebra.Order.Ring.Int
import Mathlib.Algebra.Ring.Nat
/-!
# Half-open intervals of integers

How many integers two half-open intervals share, how cutting one of them
cuts the count, and what a window on a grid shares with a piece of a cell.
-/

namespace HalfOpen

/-- **The length two half-open intervals share.** -/
def overlap (a b lo hi : ℤ) : ℕ := (min b hi - max a lo).toNat

variable {a b lo hi m x y : ℤ}

theorem overlap_comm : overlap a b lo hi = overlap lo hi a b := by
  unfold overlap; omega

theorem overlap_eq_zero_of_le (h : b ≤ lo) : overlap a b lo hi = 0 := by
  unfold overlap; omega

theorem overlap_eq_zero_of_ge (h : hi ≤ a) : overlap a b lo hi = 0 := by
  unfold overlap; omega

theorem overlap_eq_zero_of_empty (h : b ≤ a) : overlap a b lo hi = 0 := by
  unfold overlap; omega

/-- Inside the window an interval counts for its whole length. -/
theorem overlap_of_subset (ha : lo ≤ a) (hb : b ≤ hi) : overlap a b lo hi = (b - a).toNat := by
  unfold overlap; omega

/-- **Cutting an interval.** The two halves share with a window what the
whole does. -/
theorem overlap_split (ham : a ≤ m) (hmb : m ≤ b) :
    overlap a b lo hi = overlap a m lo hi + overlap m b lo hi := by
  unfold overlap; omega

theorem overlap_mono {a' b' : ℤ} (ha : a' ≤ a) (hb : b ≤ b') :
    overlap a b lo hi ≤ overlap a' b' lo hi := by
  unfold overlap; omega

/-! ## Grids

A grid of width `w` is the multiples of `w`; a cell is `[g, g + w)` for a
grid point `g`. -/

section Grid

variable {w v g h : ℤ}

/-- The grid point of the cell an integer lies in. -/
def cell (w x : ℤ) : ℤ := x / w * w

theorem dvd_cell : w ∣ cell w x := Dvd.intro_left _ rfl

theorem cell_le (hw : 0 < w) : cell w x ≤ x := Int.ediv_mul_le x hw.ne'

theorem lt_cell_add (hw : 0 < w) : x < cell w x + w := by
  have := Int.lt_ediv_add_one_mul_self x hw
  rwa [Int.add_mul, Int.one_mul] at this

/-- The cell's grid point is the last one not after the integer. -/
theorem le_cell (hw : 0 < w) (hg : w ∣ g) (h : g ≤ x) : g ≤ cell w x := by
  rw [← Int.ediv_mul_cancel_of_dvd hg]
  exact Int.mul_le_mul_of_nonneg_right (Int.ediv_le_ediv hw h) hw.le

theorem le_cell_iff (hw : 0 < w) (hg : w ∣ g) : g ≤ cell w x ↔ g ≤ x :=
  ⟨fun h => le_trans h (cell_le hw), le_cell hw hg⟩

theorem cell_lt_iff (hw : 0 < w) (hg : w ∣ g) : cell w x < g ↔ x < g := by
  rw [← not_le, ← not_le, le_cell_iff hw hg]

theorem cell_mono (hw : 0 < w) (h : x ≤ y) : cell w x ≤ cell w y :=
  le_cell hw dvd_cell (le_trans (cell_le hw) h)

/-- A finer grid has a later point, and an earlier next one. -/
theorem cell_le_cell_of_dvd (hv : 0 < v) (hw : 0 < w) (hvw : v ∣ w) : cell w x ≤ cell v x :=
  le_cell hv (hvw.trans dvd_cell) (cell_le hw)

/-- Grid points are a cell apart. -/
theorem add_le_of_lt_of_dvd (hg : w ∣ g) (hh : w ∣ h) (hlt : g < h) : g + w ≤ h := by
  have := Int.le_of_dvd (by omega) (Int.dvd_sub hh hg)
  omega

theorem cell_add_le_cell_add (hv : 0 < v) (hw : 0 < w) (hvw : v ∣ w) :
    cell v x + v ≤ cell w x + w :=
  add_le_of_lt_of_dvd dvd_cell (Int.dvd_add (hvw.trans dvd_cell) hvw)
    (lt_of_le_of_lt (cell_le hv) (lt_cell_add hw))

/-- **Inside one cell.** An aligned window holds a piece of a cell whole
or not at all, and the cell's own grid point says which. -/
theorem overlap_of_cell (hg : w ∣ g) (hlo : w ∣ lo) (hhi : w ∣ hi)
    (hga : g ≤ a) (hbg : b ≤ g + w) :
    overlap a b lo hi = if lo ≤ g ∧ g < hi then (b - a).toNat else 0 := by
  split_ifs with hin
  · have := add_le_of_lt_of_dvd hg hhi hin.2
    exact overlap_of_subset (by omega) (by omega)
  · rcases lt_or_ge g lo with hlt | hge
    · have := add_le_of_lt_of_dvd hg hlo hlt
      exact overlap_eq_zero_of_le (by omega)
    · have : hi ≤ g := by
        by_contra hc
        exact hin ⟨hge, by omega⟩
      exact overlap_eq_zero_of_ge (by omega)

end Grid

end HalfOpen
