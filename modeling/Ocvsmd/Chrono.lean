import Mathlib.Tactic.Ring

set_option autoImplicit false

namespace Chrono

def checked (x : Int) : Option Int64 :=
  if -2^63 ≤ x ∧ x < 2^63 then some (Int64.ofInt x) else none

theorem checked_eq_some {x : Int} {a : Int64} : checked x = some a ↔ a.toInt = x := by
  have hle := a.le_toInt
  have hlt := a.toInt_lt
  unfold checked
  constructor
  · intro h
    split at h
    · next hx =>
      cases h
      exact Int64.toInt_ofInt_of_le hx.1 hx.2
    · cases h
  · rintro rfl
    rw [if_pos ⟨hle, hlt⟩, Int64.ofInt_toInt]

theorem exists_checked {x : Int} : (∃ a, checked x = some a) ↔ -2^63 ≤ x ∧ x < 2^63 := by
  unfold checked
  split
  · next h => exact ⟨fun _ => h, fun _ => ⟨_, rfl⟩⟩
  · next h =>
    constructor
    · rintro ⟨a, ha⟩
      cases ha
    · exact fun hx => absurd hx h

def add (a b : Int64) : Option Int64 := checked (a.toInt + b.toInt)

def sub (a b : Int64) : Option Int64 := checked (a.toInt - b.toInt)

/-- `duration_cast` to a unit of which there are `k` in the other. -/
def refine (k : Nat) (a : Int64) : Option Int64 := checked (a.toInt * k)

/-- `duration_cast` to a unit that is `k` of the other. It rounds towards zero. -/
def coarsen (k : Nat) (a : Int64) : Int64 := Int64.ofInt (a.toInt.tdiv k)

theorem toInt_min (a b : Int64) : (min a b).toInt = min a.toInt b.toInt := by
  simp only [Min.min, Int64.le_iff_toInt_le]
  split <;> omega

theorem toInt_max (a b : Int64) : (max a b).toInt = max a.toInt b.toInt := by
  simp only [Max.max, Int64.le_iff_toInt_le]
  split <;> omega

theorem tdiv_nonneg_le {x : Int} (h : 0 ≤ x) (k : Nat) :
    0 ≤ x.tdiv k ∧ x.tdiv k ≤ x := by
  rw [Int.tdiv_eq_ediv_of_nonneg h]
  exact ⟨Int.ediv_nonneg h (Int.natCast_nonneg k), Int.ediv_le_self _ h⟩

theorem tdiv_nonpos_ge {x : Int} (h : x ≤ 0) (k : Nat) :
    x ≤ x.tdiv k ∧ x.tdiv k ≤ 0 := by
  have hneg := tdiv_nonneg_le (x := -x) (by omega) k
  rw [Int.neg_tdiv] at hneg
  omega

theorem toInt_coarsen (k : Nat) (a : Int64) : (coarsen k a).toInt = a.toInt.tdiv k := by
  have hle := a.le_toInt
  have hlt := a.toInt_lt
  rcases Int.le_total 0 a.toInt with h | h
  · have hk := tdiv_nonneg_le h k
    exact Int64.toInt_ofInt_of_le (by omega) (by omega)
  · have hk := tdiv_nonpos_ge h k
    exact Int64.toInt_ofInt_of_le (by omega) (by omega)

theorem coarsen_mul_le {k : Nat} {a : Int64} (h : 0 ≤ a.toInt) :
    (coarsen k a).toInt * k ≤ a.toInt := by
  rw [toInt_coarsen, Int.tdiv_eq_ediv_of_nonneg h]
  rcases Nat.eq_zero_or_pos k with rfl | hk
  · simpa using h
  · exact Int.ediv_mul_le _ (by omega)

theorem coarsen_nonpos {k : Nat} {a : Int64} (h : a.toInt ≤ 0) : (coarsen k a).toInt ≤ 0 := by
  rw [toInt_coarsen]
  exact (tdiv_nonpos_ge h k).2

end Chrono
