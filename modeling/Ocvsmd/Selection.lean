import Mathlib.Data.List.AList

set_option autoImplicit false

namespace Selection

/-- The place among the selected of what stands at place i. -/
def rank {α : Type} (p : α → Bool) (l : List α) (i : Nat) : Nat := (l.take i).countP p

@[simp] theorem rank_zero {α : Type} (p : α → Bool) (l : List α) : rank p l 0 = 0 := by
  simp [rank]

@[simp] theorem rank_cons_succ {α : Type} (p : α → Bool) (x : α) (l : List α) (i : Nat) :
    rank p (x :: l) (i + 1) = rank p l i + if p x then 1 else 0 := by
  simp [rank, List.countP_cons]

theorem rank_length {α : Type} (p : α → Bool) (l : List α) :
    rank p l l.length = (l.filter p).length := by
  rw [rank, List.take_length, List.countP_eq_length_filter]

theorem rank_append {α : Type} (p : α → Bool) {l : List α} {i : Nat} (h : i ≤ l.length)
    (m : List α) : rank p (l ++ m) i = rank p l i := by
  rw [rank, rank, List.take_append_of_le_length h]

theorem rank_modify {α : Type} {p : α → Bool} {f : α → α} (hf : ∀ x, p (f x) = p x)
    (l : List α) (i j : Nat) : rank p (l.modify i f) j = rank p l j := by
  induction l generalizing i j with
  | nil => simp
  | cons x l ih =>
    cases j with
    | zero => simp
    | succ j =>
      cases i with
      | zero => simp [hf]
      | succ i => simp [ih]

theorem getElem?_filter_rank {α : Type} {p : α → Bool} {l : List α} {i : Nat} {x : α}
    (h : l[i]? = some x) (hp : p x = true) : (l.filter p)[rank p l i]? = some x := by
  induction l generalizing i with
  | nil => simp at h
  | cons y l ih =>
    cases i with
    | zero =>
      simp only [List.getElem?_cons_zero, Option.some.injEq] at h
      subst h
      simp [hp]
    | succ i =>
      rw [List.getElem?_cons_succ] at h
      by_cases hy : p y = true
      · simp [hy, ih h]
      · simp [hy, ih h]

theorem filter_modify {α : Type} {p : α → Bool} {f : α → α} (hf : ∀ x, p (f x) = p x)
    {l : List α} {i : Nat} {x : α} (h : l[i]? = some x) (hp : p x = true) :
    (l.modify i f).filter p = (l.filter p).modify (rank p l i) f := by
  induction l generalizing i with
  | nil => simp at h
  | cons y l ih =>
    cases i with
    | zero =>
      simp only [List.getElem?_cons_zero, Option.some.injEq] at h
      subst h
      simp [hf, hp]
    | succ i =>
      rw [List.getElem?_cons_succ] at h
      by_cases hy : p y = true
      · simp [hy, ih h]
      · simp [hy, ih h]

theorem filter_modify_other {α : Type} {p : α → Bool} {f : α → α} (hf : ∀ x, p (f x) = p x)
    {l : List α} {i : Nat} (h : ∀ x, l[i]? = some x → p x = false) :
    (l.modify i f).filter p = l.filter p := by
  induction l generalizing i with
  | nil => simp
  | cons y l ih =>
    cases i with
    | zero =>
      have hy := h y rfl
      simp [hf, hy]
    | succ i =>
      have htail := ih fun x hx => h x (by rw [List.getElem?_cons_succ]; exact hx)
      by_cases hy : p y = true
      · simp [hy, htail]
      · simp [hy, htail]

/-- The same table, with its entries renamed. -/
def rename {K V : Type} (f : V → V) (m : AList fun _ : K => V) : AList fun _ : K => V where
  entries := m.entries.map fun e => ⟨e.1, f e.2⟩
  nodupKeys := by
    have hkeys : (m.entries.map fun e => (⟨e.1, f e.2⟩ : Σ _ : K, V)).keys = m.entries.keys := by
      simp [List.keys]
    rw [List.NodupKeys, hkeys]
    exact m.nodupKeys

theorem rename_congr {K V : Type} {f g : V → V} {m : AList fun _ : K => V}
    (h : ∀ e ∈ m.entries, f e.2 = g e.2) : rename f m = rename g m := by
  refine AList.ext ?_
  refine List.map_congr_left fun e he => ?_
  rw [h e he]

theorem lookup_rename {K V : Type} [DecidableEq K] (f : V → V) (m : AList fun _ : K => V)
    (k : K) : (rename f m).lookup k = (m.lookup k).map f :=
  List.dlookup_map₂ (l := m.entries) (f := fun _ : K => f) k

theorem rename_erase {K V : Type} [DecidableEq K] (f : V → V) (m : AList fun _ : K => V)
    (k : K) : rename f (m.erase k) = (rename f m).erase k := by
  refine AList.ext ?_
  have hmap := List.eraseP_map (p := fun e : Σ _ : K, V => k = e.1)
    (f := fun e : Σ _ : K, V => (⟨e.1, f e.2⟩ : Σ _ : K, V)) (l := m.entries)
  exact hmap.symm

theorem rename_insert {K V : Type} [DecidableEq K] (f : V → V) (m : AList fun _ : K => V)
    (k : K) (v : V) : rename f (m.insert k v) = (rename f m).insert k (f v) := by
  have herase : ((m.erase k).entries.map fun e => (⟨e.1, f e.2⟩ : Σ _ : K, V)) =
      ((rename f m).erase k).entries := congrArg AList.entries (rename_erase f m k)
  refine AList.ext ?_
  exact congrArg (List.cons ⟨k, f v⟩) herase

end Selection
