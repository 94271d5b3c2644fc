import Mathlib.Data.List.Nodup
import Mathlib.Data.List.Perm.Basic

/-!
Resources that are open, some of them watched, against what their holders have of them.
A holder has a resource, and has it watched or not. Nothing here knows what a resource is.
-/

set_option autoImplicit false

namespace Holdings

/-- `faults` counts the calls about a resource that is not as the caller thinks. -/
structure Table (R : Type) where
  opened : List R := []
  watched : List R := []
  faults : Nat := 0

variable {R : Type}

/-- What is open is held, by one holder each, and what is watched is watched for it. -/
structure Balanced (t : Table R) (holdings : List (R × Bool)) : Prop where
  opened : t.opened.Perm (holdings.map (·.1))
  watched : t.watched.Perm ((holdings.filter (·.2)).map (·.1))
  distinct : (holdings.map (·.1)).Nodup
  faults : t.faults = 0

theorem balanced_init : Balanced ({} : Table R) [] where
  opened := .refl _
  watched := .refl _
  distinct := List.nodup_nil
  faults := rfl

theorem Balanced.perm {t : Table R} {holdings holdings' : List (R × Bool)}
    (h : Balanced t holdings) (hp : holdings.Perm holdings') : Balanced t holdings' where
  opened := h.opened.trans (hp.map _)
  watched := h.watched.trans ((hp.filter _).map _)
  distinct := (hp.map _).nodup_iff.mp h.distinct
  faults := h.faults

theorem Balanced.head_opened {t : Table R} {r : R} {w : Bool} {holdings : List (R × Bool)}
    (h : Balanced t ((r, w) :: holdings)) : r ∈ t.opened :=
  h.opened.mem_iff.mpr (by simp)

theorem Balanced.head_fresh {t : Table R} {r : R} {w : Bool} {holdings : List (R × Bool)}
    (h : Balanced t ((r, w) :: holdings)) : r ∉ holdings.map (·.1) :=
  (List.nodup_cons.mp h.distinct).1

theorem Balanced.head_unwatched {t : Table R} {r : R} {holdings : List (R × Bool)}
    (h : Balanced t ((r, false) :: holdings)) : r ∉ t.watched := by
  intro hmem
  have hw := h.watched.mem_iff.mp hmem
  rw [List.filter_cons_of_neg (by simp)] at hw
  obtain ⟨p, hp, rfl⟩ := List.mem_map.mp hw
  exact h.head_fresh (List.mem_map_of_mem (List.mem_of_mem_filter hp))

section Calls

variable [DecidableEq R]

namespace Table

def acquire (t : Table R) (r : R) : Option (Table R) :=
  if r ∈ t.opened then none else some { t with opened := r :: t.opened }

def fault (t : Table R) : Table R := { t with faults := t.faults + 1 }

def watch (t : Table R) (r : R) : Table R :=
  if r ∈ t.opened ∧ r ∉ t.watched then { t with watched := r :: t.watched } else t.fault

def unwatch (t : Table R) (r : R) : Table R :=
  if r ∈ t.watched then { t with watched := t.watched.erase r } else t.fault

/-- What is still watched is not to be given back. -/
def release (t : Table R) (r : R) : Table R :=
  if r ∈ t.opened ∧ r ∉ t.watched then { t with opened := t.opened.erase r } else t.fault

end Table

theorem Balanced.acquire {t t' : Table R} {r : R} {holdings : List (R × Bool)}
    (h : Balanced t holdings) (ha : t.acquire r = some t') :
    Balanced t' ((r, false) :: holdings) := by
  obtain ⟨hfree, hs⟩ := Option.ite_none_left_eq_some.mp ha
  cases hs
  exact {
    opened := h.opened.cons r
    watched := h.watched
    distinct := List.nodup_cons.mpr ⟨fun hmem => hfree (h.opened.mem_iff.mpr hmem), h.distinct⟩
    faults := h.faults }

theorem Balanced.watch {t : Table R} {r : R} {holdings : List (R × Bool)}
    (h : Balanced t ((r, false) :: holdings)) :
    Balanced (t.watch r) ((r, true) :: holdings) := by
  rw [Table.watch, if_pos ⟨h.head_opened, h.head_unwatched⟩]
  exact {
    opened := h.opened
    watched := h.watched.cons r
    distinct := h.distinct
    faults := h.faults }

theorem Balanced.unwatch {t : Table R} {r : R} {holdings : List (R × Bool)}
    (h : Balanced t ((r, true) :: holdings)) :
    Balanced (t.unwatch r) ((r, false) :: holdings) := by
  have hw : t.watched.Perm (r :: (holdings.filter (·.2)).map (·.1)) := h.watched
  rw [Table.unwatch, if_pos (hw.mem_iff.mpr (by simp))]
  exact {
    opened := h.opened
    watched := by simpa using hw.erase r
    distinct := h.distinct
    faults := h.faults }

theorem Balanced.release {t : Table R} {r : R} {holdings : List (R × Bool)}
    (h : Balanced t ((r, false) :: holdings)) : Balanced (t.release r) holdings := by
  rw [Table.release, if_pos ⟨h.head_opened, h.head_unwatched⟩]
  exact {
    opened := by simpa using h.opened.erase r
    watched := h.watched
    distinct := (List.nodup_cons.mp h.distinct).2
    faults := h.faults }

end Calls

end Holdings
