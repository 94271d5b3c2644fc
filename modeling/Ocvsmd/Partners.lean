import Mathlib.Data.List.Basic

/-!
Two stores that grow side by side. Each item of the first has an item of its own in the
second; whatever else is in the second is an orphan.
-/

set_option autoImplicit false

structure Partners {α β : Type} (R : α → β → Prop) (orphan : β → Prop) (key : α → Nat)
    (as : List α) (bs : List β) : Prop where
  has : ∀ (i : Nat) (a : α), as[i]? = some a → ∃ b, bs[key a]? = some b ∧ R a b
  one : ∀ (i j : Nat) (a a' : α), as[i]? = some a → as[j]? = some a' → key a = key a' → i = j
  rest : ∀ (g : Nat) (b : β), bs[g]? = some b →
    (∃ (i : Nat) (a : α), as[i]? = some a ∧ key a = g) ∨ orphan b

namespace Partners

theorem nil {α β : Type} {R : α → β → Prop} {orphan : β → Prop} {key : α → Nat} :
    Partners R orphan key [] [] where
  has := fun _ _ h => by simp at h
  one := fun _ _ _ _ h => by simp at h
  rest := fun _ _ h => by simp at h

variable {α β : Type} {R : α → β → Prop} {orphan : β → Prop} {key : α → Nat}
  {as : List α} {bs : List β}

theorem owner (h : Partners R orphan key as bs) {g : Nat} {b : β} (hb : bs[g]? = some b)
    (ho : ¬ orphan b) : ∃ (i : Nat) (a : α), as[i]? = some a ∧ key a = g ∧ R a b := by
  obtain ⟨i, a, ha, rfl⟩ := (h.rest g b hb).resolve_right ho
  obtain ⟨b', hb', hR⟩ := h.has i a ha
  rw [hb] at hb'
  cases hb'
  exact ⟨i, a, ha, rfl, hR⟩

theorem set (h : Partners R orphan key as bs) {i : Nat} {a : α} (ha : as[i]? = some a) {a' : α}
    (hk : key a' = key a) {f : β → β} (hR : ∀ b, bs[key a]? = some b → R a b → R a' (f b)) :
    Partners R orphan key (as.set i a') (bs.modify (key a) f) := by
  have hlt : i < as.length := (List.getElem?_eq_some_iff.mp ha).1
  -- what stands in the new store had the same key in the old one
  have hold : ∀ {j : Nat} {x : α}, (as.set i a')[j]? = some x →
      ∃ y, as[j]? = some y ∧ key y = key x ∧ (i = j → x = a') ∧ (i ≠ j → x = y) := by
    intro j x hx
    by_cases hij : i = j
    · subst hij
      rw [List.getElem?_set_self hlt] at hx
      cases hx
      exact ⟨a, ha, hk.symm, fun _ => rfl, fun hne => absurd rfl hne⟩
    · rw [List.getElem?_set_ne hij] at hx
      exact ⟨x, hx, rfl, fun he => absurd he hij, fun _ => rfl⟩
  constructor
  · intro j x hx
    obtain ⟨y, hy, hky, hself, hother⟩ := hold hx
    obtain ⟨b, hb, hRb⟩ := h.has j y hy
    by_cases hij : i = j
    · subst hij
      rw [ha] at hy
      cases hy
      rw [hself rfl]
      exact ⟨f b, by rw [hk]; simp [hb], hR b hb hRb⟩
    · have hne : key a ≠ key y := fun he => hij (h.one i j a y ha hy he)
      rw [hother hij]
      exact ⟨b, by simp [hne, hb], hRb⟩
  · intro j k x x' hx hx' hkey
    obtain ⟨y, hy, hky, _⟩ := hold hx
    obtain ⟨y', hy', hky', _⟩ := hold hx'
    exact h.one j k y y' hy hy' (by rw [hky, hky', hkey])
  · intro g b hb
    have hback : ∃ b', bs[g]? = some b' ∧ (key a ≠ g → b' = b) := by
      by_cases hg : key a = g
      · subst hg
        obtain ⟨b', hb', rfl⟩ : ∃ b', bs[key a]? = some b' ∧ f b' = b := by simpa using hb
        exact ⟨b', hb', fun hne => absurd rfl hne⟩
      · exact ⟨b, by simpa [hg] using hb, fun _ => rfl⟩
    obtain ⟨b', hb', hsame⟩ := hback
    by_cases hg : key a = g
    · exact Or.inl ⟨i, a', List.getElem?_set_self hlt, by rw [hk, hg]⟩
    · rcases h.rest g b' hb' with ⟨j, x, hx, rfl⟩ | horphan
      · have hij : i ≠ j := by
          rintro rfl
          rw [ha] at hx
          cases hx
          exact hg rfl
        exact Or.inl ⟨j, x, by rw [List.getElem?_set_ne hij, hx], rfl⟩
      · rw [hsame hg] at horphan
        exact Or.inr horphan

theorem concat_cases {γ : Type} {l : List γ} {x y : γ} {i : Nat} (h : (l ++ [x])[i]? = some y) :
    l[i]? = some y ∨ i = l.length ∧ y = x := by
  rcases Nat.lt_or_ge i l.length with hlt | hge
  · exact Or.inl (by rwa [List.getElem?_append_left hlt] at h)
  · rw [List.getElem?_append_right hge, List.getElem?_singleton] at h
    split at h
    · cases h
      exact Or.inr ⟨by omega, rfl⟩
    · cases h

theorem kept {γ : Type} {l : List γ} {y : γ} {i : Nat} (h : l[i]? = some y) (x : γ) :
    (l ++ [x])[i]? = some y := by
  rwa [List.getElem?_append_left (List.getElem?_eq_some_iff.mp h).1]

theorem append (h : Partners R orphan key as bs) {a : α} {b : β} (hk : key a = bs.length)
    (hR : R a b) : Partners R orphan key (as ++ [a]) (bs ++ [b]) := by
  have hlt : ∀ {i : Nat} {x : α}, as[i]? = some x → key x ≠ key a := by
    intro i x hx he
    obtain ⟨b', hb', _⟩ := h.has i x hx
    have hin := (List.getElem?_eq_some_iff.mp hb').1
    omega
  constructor
  · intro i x hx
    rcases concat_cases hx with hx | ⟨_, rfl⟩
    · obtain ⟨b', hb', hR'⟩ := h.has i x hx
      exact ⟨b', kept hb' b, hR'⟩
    · exact ⟨b, by simp [hk], hR⟩
  · intro i j x x' hx hx' hkey
    rcases concat_cases hx with hold | ⟨hi, rfl⟩
    · rcases concat_cases hx' with hold' | ⟨_, rfl⟩
      · exact h.one i j x x' hold hold' hkey
      · exact absurd hkey (hlt hold)
    · rcases concat_cases hx' with hold' | ⟨hj, _⟩
      · exact absurd hkey.symm (hlt hold')
      · rw [hi, hj]
  · intro g b' hb'
    rcases concat_cases hb' with hb' | ⟨rfl, rfl⟩
    · rcases h.rest g b' hb' with ⟨i, x, hx, hkx⟩ | horphan
      · exact Or.inl ⟨i, x, kept hx a, hkx⟩
      · exact Or.inr horphan
    · exact Or.inl ⟨as.length, a, by simp, hk⟩

theorem orphan_append (h : Partners R orphan key as bs) {b : β} (hb : orphan b) :
    Partners R orphan key as (bs ++ [b]) where
  has := by
    intro i a ha
    obtain ⟨b', hb', hR⟩ := h.has i a ha
    exact ⟨b', kept hb' b, hR⟩
  one := h.one
  rest := by
    intro g b' hb'
    rcases concat_cases hb' with hb' | ⟨_, rfl⟩
    · exact h.rest g b' hb'
    · exact Or.inr hb

end Partners
