import Mathlib.Data.List.Basic

/-!
Strings with 64-bit positions, as `std::string_view` has them: searches that answer `npos`,
parts of a string, and the loop that goes from one separator to the next.
-/

set_option autoImplicit false

namespace StringView

variable {α : Type}

def npos : UInt64 := 18446744073709551615

def maxSize : Nat := 9223372036854775807

def find [DecidableEq α] (s : List α) (c : α) (pos : UInt64) : UInt64 :=
  match (s.drop pos.toNat).findIdx? (· = c) with
  | some i => pos + UInt64.ofNat i
  | none => npos

/-- It throws for a position behind the end. -/
def substr (s : List α) (pos count : UInt64) : Option (List α) :=
  if pos.toNat ≤ s.length then some ((s.drop pos.toNat).take count.toNat) else none

def append (s t : List α) : Option (List α) :=
  if s.length + t.length ≤ maxSize then some (s ++ t) else none

theorem findIdx?_append_cons [DecidableEq α] {seg : List α} {c : α} (h : c ∉ seg) (rest : List α) :
    (seg ++ c :: rest).findIdx? (· = c) = some seg.length := by
  induction seg with
  | nil => simp [List.findIdx?_cons]
  | cons a seg ih =>
    rw [List.mem_cons, not_or] at h
    simp [List.findIdx?_cons, Ne.symm h.1, ih h.2]

theorem toNat_ofNat_of_le {n : Nat} (h : n ≤ maxSize) : (UInt64.ofNat n).toNat = n :=
  UInt64.toNat_ofNat_of_lt' (by unfold maxSize at h; simp only [UInt64.size]; omega)

theorem ofNat_ne_npos {n : Nat} (h : n ≤ maxSize) : UInt64.ofNat n ≠ npos := by
  intro heq
  have hval := congrArg UInt64.toNat heq
  rw [toNat_ofNat_of_le h] at hval
  rw [hval] at h
  exact absurd h (by decide)

theorem find_append_cons [DecidableEq α] {pre seg : List α} {c : α} {rest : List α} (hc : c ∉ seg)
    (hlen : (pre ++ seg ++ c :: rest).length ≤ maxSize) :
    find (pre ++ seg ++ c :: rest) c (UInt64.ofNat pre.length) =
      UInt64.ofNat (pre.length + seg.length) := by
  simp only [List.length_append, List.length_cons] at hlen
  rw [find, toNat_ofNat_of_le (by omega), List.append_assoc, List.drop_left,
    findIdx?_append_cons hc, UInt64.ofNat_add]

theorem find_eq_npos [DecidableEq α] {pre rest : List α} {c : α} (hc : c ∉ rest)
    (hlen : pre.length ≤ maxSize) :
    find (pre ++ rest) c (UInt64.ofNat pre.length) = npos := by
  have hnone : rest.findIdx? (· = c) = none := by
    rw [List.findIdx?_eq_none_iff]
    intro a ha
    rw [decide_eq_false_iff_not]
    rintro rfl
    exact hc ha
  rw [find, toNat_ofNat_of_le hlen, List.drop_left, hnone]

theorem substr_append {pre seg rest : List α} {count : UInt64}
    (hlen : pre.length ≤ maxSize) (hcount : count.toNat = seg.length) :
    substr (pre ++ seg ++ rest) (UInt64.ofNat pre.length) count = some seg := by
  rw [substr, toNat_ofNat_of_le hlen, if_pos (by simp), List.append_assoc, List.drop_left,
    hcount, List.take_left]

theorem substr_all {pre rest : List α} {count : UInt64} (hlen : pre.length ≤ maxSize)
    (hcount : rest.length ≤ count.toNat) :
    substr (pre ++ rest) (UInt64.ofNat pre.length) count = some rest := by
  rw [substr, toNat_ofNat_of_le hlen, if_pos (by simp), List.drop_left,
    List.take_of_length_le hcount]

/-- The loop from one separator to the next. What is between two of them is for the body,
unless it is empty, as long as more is wanted. The last step makes `npos` of `npos`. -/
def splitLoop [DecidableEq α] {σ : Type} (c : α) (more : σ → Bool) (body : List α → σ → σ) :
    Nat → List α → UInt64 → σ → Option σ
  | 0, _, _, _ => none
  | fuel+1, s, curr, st =>
    if curr ≠ npos ∧ more st then
      let next := find s c curr
      (substr s curr (next - curr)).bind fun seg =>
        splitLoop c more body fuel s (max (next + 1) next)
          (if seg.isEmpty then st else body seg st)
    else some st

/-- What becomes of the state with these segments. -/
def consume {σ : Type} (more : σ → Bool) (body : List α → σ → σ) (st : σ)
    (segs : List (List α)) : σ :=
  segs.foldl (fun st seg => if more st && !seg.isEmpty then body seg st else st) st

theorem consume_done {σ : Type} {more : σ → Bool} {body : List α → σ → σ} {st : σ}
    (h : more st = false) (segs : List (List α)) : consume more body st segs = st := by
  induction segs with
  | nil => rfl
  | cons seg segs ih =>
    rw [consume, List.foldl_cons, h]
    exact ih

theorem consume_cons {σ : Type} {more : σ → Bool} {body : List α → σ → σ} {st : σ}
    (h : more st = true) (seg : List α) (segs : List (List α)) :
    consume more body st (seg :: segs) =
      consume more body (if seg.isEmpty then st else body seg st) segs := by
  rw [consume, List.foldl_cons, h]
  cases seg.isEmpty <;> rfl

/-- What is made of the segments, where the number of a segment counts. Nothing is made of
an empty one. -/
def selection {M : Type} (make : Nat → List α → Option M) (first : Nat)
    (segs : List (List α)) : List M :=
  ((segs.filter (!·.isEmpty)).zipIdx first).filterMap fun seg => make seg.2 seg.1

theorem consume_selects {σ M : Type} (more : σ → Bool) (body : List α → σ → σ) (n : Nat)
    (make : Nat → List α → Option M) (R : List M → Nat → σ → Prop)
    (hmore : ∀ {made k st}, R made k st → more st = decide (made.length < n))
    (hbody : ∀ {made k st seg}, R made k st → made.length < n →
      R (made ++ (make k seg).toList) (k + 1) (body seg st))
    {made : List M} {k : Nat} {st : σ} (h : R made k st) (hlen : made.length ≤ n)
    (segs : List (List α)) :
    ∃ k', R ((made ++ selection make k segs).take n) k' (consume more body st segs) := by
  induction segs generalizing made k st with
  | nil =>
    refine ⟨k, ?_⟩
    rwa [selection, List.filter_nil, List.zipIdx_nil, List.filterMap_nil, List.append_nil,
      List.take_of_length_le hlen]
  | cons seg segs ih =>
    by_cases hlt : made.length < n
    · have hgo : more st = true := by rw [hmore h, decide_eq_true hlt]
      rw [consume_cons hgo]
      cases hempty : seg.isEmpty with
      | true =>
        have hskip : selection make k (seg :: segs) = selection make k segs := by
          simp [selection, hempty]
        rw [hskip]
        exact ih h hlen
      | false =>
        have hmade : made ++ selection make k (seg :: segs) =
            made ++ (make k seg).toList ++ selection make (k + 1) segs := by
          cases hm : make k seg <;> simp [selection, hempty, hm]
        rw [hmade]
        refine ih (hbody h hlt) ?_
        cases make k seg <;> simp <;> omega
    · have hstop : more st = false := by rw [hmore h, decide_eq_false hlt]
      refine ⟨k, ?_⟩
      rwa [consume_done hstop, List.take_append_of_le_length (by omega),
        List.take_of_length_le hlen]

theorem max_uint64 (a b : UInt64) : max a b = if a ≤ b then b else a := rfl

theorem splitLoop_cons [DecidableEq α] {σ : Type} {c : α} {more : σ → Bool}
    {body : List α → σ → σ} {pre seg tail : List α} (hseg : c ∉ seg)
    (hlen : (pre ++ seg ++ c :: tail).length ≤ maxSize) {st : σ} (hmore : more st = true)
    (fuel : Nat) :
    splitLoop c more body (fuel + 1) (pre ++ seg ++ c :: tail) (UInt64.ofNat pre.length) st =
      splitLoop c more body fuel (pre ++ seg ++ c :: tail)
        (UInt64.ofNat (pre ++ seg ++ [c]).length) (if seg.isEmpty then st else body seg st) := by
  have hlens : pre.length + seg.length + 1 + tail.length ≤ maxSize := by
    simp only [List.length_append, List.length_cons] at hlen
    omega
  have hsub : substr (pre ++ seg ++ c :: tail) (UInt64.ofNat pre.length)
      (UInt64.ofNat (pre.length + seg.length) - UInt64.ofNat pre.length) = some seg := by
    refine substr_append (by omega) ?_
    rw [UInt64.ofNat_add, UInt64.add_comm, UInt64.add_sub_cancel, toNat_ofNat_of_le (by omega)]
  have hnext : max (UInt64.ofNat (pre.length + seg.length) + 1)
      (UInt64.ofNat (pre.length + seg.length)) = UInt64.ofNat (pre ++ seg ++ [c]).length := by
    rw [max_uint64, if_neg]
    · simp [UInt64.ofNat_add, UInt64.add_assoc]
    · rw [UInt64.le_iff_toNat_le, ← UInt64.ofNat_one, ← UInt64.ofNat_add,
        toNat_ofNat_of_le (by omega), toNat_ofNat_of_le (by omega)]
      omega
  rw [splitLoop, if_pos ⟨ofNat_ne_npos (by omega), hmore⟩]
  simp only [find_append_cons hseg hlen, hsub, Option.bind_some, hnext]

theorem splitLoop_last [DecidableEq α] {σ : Type} {c : α} {more : σ → Bool}
    {body : List α → σ → σ} {pre rest : List α} (hc : c ∉ rest)
    (hlen : (pre ++ rest).length ≤ maxSize) {st : σ} (hmore : more st = true) (fuel : Nat) :
    splitLoop c more body (fuel + 2) (pre ++ rest) (UInt64.ofNat pre.length) st =
      some (if rest.isEmpty then st else body rest st) := by
  rw [List.length_append] at hlen
  have hpre : pre.length ≤ maxSize := by omega
  have hsub : substr (pre ++ rest) (UInt64.ofNat pre.length) (npos - UInt64.ofNat pre.length) =
      some rest := by
    refine substr_all hpre ?_
    have hnpos : npos.toNat = maxSize + 9223372036854775808 := rfl
    rw [UInt64.toNat_sub_of_le, toNat_ofNat_of_le hpre]
    · omega
    · rw [UInt64.le_iff_toNat_le, toNat_ofNat_of_le hpre]
      omega
  have hnext : max (npos + 1) npos = npos := by decide
  rw [splitLoop, if_pos ⟨ofNat_ne_npos hpre, hmore⟩]
  simp only [find_eq_npos hc hpre, hsub, Option.bind_some, hnext]
  rw [splitLoop, if_neg (by simp)]

/-- The loop ends, and has gone through the segments that the separators make. -/
theorem splitLoop_eq [DecidableEq α] {σ : Type} (c : α) (more : σ → Bool) (body : List α → σ → σ)
    {s pre rest : List α} (hs : s = pre ++ rest) (hlen : s.length ≤ maxSize) {fuel : Nat}
    (hfuel : rest.length + 2 ≤ fuel) (st : σ) :
    splitLoop c more body fuel s (UInt64.ofNat pre.length) st =
      some (consume more body st (rest.splitOn c)) := by
  induction fuel generalizing pre rest st with
  | zero => omega
  | succ fuel ih =>
    cases hmore : more st with
    | false => rw [splitLoop, if_neg (by simp [hmore]), consume_done hmore]
    | true =>
      by_cases hc : c ∈ rest
      · obtain ⟨seg, tail, rfl, hseg⟩ := List.eq_append_cons_of_mem hc
        have hs' : s = pre ++ seg ++ c :: tail := by rw [hs, List.append_assoc]
        have hrest := @ih (pre ++ seg ++ [c]) tail (by simp [hs'])
          (by simp only [List.length_append, List.length_cons] at hfuel; omega)
        rw [hs'] at hlen hrest ⊢
        rw [splitLoop_cons hseg hlen hmore, hrest,
          List.splitOn_append_cons_self_of_not_mem hseg, consume_cons hmore]
      · obtain ⟨fuel, rfl⟩ : ∃ n, fuel = n + 1 := ⟨fuel - 1, by omega⟩
        rw [hs] at hlen ⊢
        rw [splitLoop_last hc hlen hmore, List.splitOn_eq_singleton hc, consume_cons hmore]
        rfl

theorem splitLoop_keeps [DecidableEq α] {σ : Type} {c : α} {more : σ → Bool}
    {body : List α → σ → σ} {P : σ → Prop}
    (hbody : ∀ seg st, P st → more st = true → P (body seg st)) {fuel : Nat} {s : List α}
    {curr : UInt64} {st st' : σ} (h : P st)
    (hs : splitLoop c more body fuel s curr st = some st') : P st' := by
  induction fuel generalizing curr st with
  | zero => cases hs
  | succ fuel ih =>
    rw [splitLoop] at hs
    split at hs
    · next hgo =>
      obtain ⟨seg, -, hs⟩ := Option.bind_eq_some_iff.mp hs
      refine ih ?_ hs
      split
      · exact h
      · exact hbody seg st h hgo.2
    · cases hs
      exact h

theorem splitLoop_map [DecidableEq α] {σ τ : Type} {c : α} {more : σ → Bool} {more' : τ → Bool}
    {body : List α → σ → σ} {body' : List α → τ → τ} (f : σ → τ)
    (hmore : ∀ st, more' (f st) = more st) (hbody : ∀ seg st, f (body seg st) = body' seg (f st))
    (fuel : Nat) (s : List α) (curr : UInt64) (st : σ) :
    (splitLoop c more body fuel s curr st).map f =
      splitLoop c more' body' fuel s curr (f st) := by
  induction fuel generalizing curr st with
  | zero => rfl
  | succ fuel ih =>
    simp only [splitLoop, hmore]
    split
    · rw [Option.map_bind]
      congr 1
      funext seg
      simp only [Function.comp_apply, ih]
      split
      · rfl
      · rw [hbody]
    · rfl

end StringView
