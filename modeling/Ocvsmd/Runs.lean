import Mathlib.Logic.Relation

/-!
Runs of a machine given by a partial step function. Nothing here knows what
the states or the actions are.
-/

set_option autoImplicit false

namespace Runs

/-- The run of a list of actions; `none` once an action is not enabled. -/
def run {S A : Type} (step : S → A → Option S) : S → List A → Option S
  | s, [] => some s
  | s, a :: as => (step s a).bind fun s' => run step s' as

@[simp] theorem run_nil {S A : Type} (step : S → A → Option S) (s : S) :
    run step s [] = some s := rfl

theorem run_cons {S A : Type} {step : S → A → Option S} {s s' : S} {a : A} {as : List A} :
    run step s (a :: as) = some s' ↔ ∃ m, step s a = some m ∧ run step m as = some s' := by
  simp [run, Option.bind_eq_some_iff]

theorem run_append {S A : Type} {step : S → A → Option S} {s s' : S} {as bs : List A} :
    run step s (as ++ bs) = some s' ↔
      ∃ m, run step s as = some m ∧ run step m bs = some s' := by
  induction as generalizing s with
  | nil => simp
  | cons a as ih =>
    simp only [List.cons_append, run_cons, ih]
    constructor
    · rintro ⟨m, hm, k, hk, hs⟩
      exact ⟨k, ⟨m, hm, hk⟩, hs⟩
    · rintro ⟨k, ⟨m, hm, hk⟩, hs⟩
      exact ⟨m, hm, k, hk, hs⟩

theorem run_one {S A : Type} {step : S → A → Option S} {s s' : S} {a : A} :
    run step s [a] = some s' ↔ step s a = some s' := by
  simp [run_cons]

/-- What one step preserves, a run preserves. -/
theorem run_preserves {S A : Type} {step : S → A → Option S} {P : S → Prop}
    (hstep : ∀ {s a s'}, P s → step s a = some s' → P s')
    {s s' : S} {as : List A} (hs : P s) (h : run step s as = some s') : P s' := by
  induction as generalizing s with
  | nil => cases h; exact hs
  | cons a as ih =>
    obtain ⟨m, hm, h⟩ := run_cons.mp h
    exact ih (hstep hs hm) h

/-- A condition on the state before each step of a run, and on its action. -/
def Always {S A : Type} (step : S → A → Option S) (ok : S → A → Prop) (s : S)
    (as : List A) : Prop :=
  ∀ pre a post m, as = pre ++ a :: post → run step s pre = some m → ok m a

theorem always_nil {S A : Type} {step : S → A → Option S} {ok : S → A → Prop} {s : S} :
    Always step ok s [] := by
  intro pre a post m has
  simp at has

theorem always_cons {S A : Type} {step : S → A → Option S} {ok : S → A → Prop} {s : S} {a : A}
    {as : List A} :
    Always step ok s (a :: as) ↔ ok s a ∧ ∀ m, step s a = some m → Always step ok m as := by
  constructor
  · intro h
    refine ⟨h [] a as s rfl rfl, ?_⟩
    intro m hm pre b post k has hk
    exact h (a :: pre) b post k (by rw [has]; rfl) (run_cons.mpr ⟨m, hm, hk⟩)
  · rintro ⟨ha, h⟩ pre b post k has hk
    cases pre with
    | nil =>
      cases hk
      rw [List.nil_append, List.cons.injEq] at has
      rw [← has.1]
      exact ha
    | cons c pre =>
      rw [List.cons_append, List.cons.injEq] at has
      obtain ⟨rfl, rfl⟩ := has
      obtain ⟨m, hm, hk⟩ := run_cons.mp hk
      exact h m hm pre b post k rfl hk

def checks {S A : Type} (step : S → A → Option S) (ok : S → A → Prop)
    [∀ s a, Decidable (ok s a)] : S → List A → Bool
  | _, [] => true
  | s, a :: as => decide (ok s a) && (step s a).all fun m => checks step ok m as

theorem checks_iff {S A : Type} {step : S → A → Option S} {ok : S → A → Prop}
    [∀ s a, Decidable (ok s a)] {s : S} {as : List A} :
    checks step ok s as = true ↔ Always step ok s as := by
  induction as generalizing s with
  | nil => simp [checks, always_nil]
  | cons a as ih => simp [checks, always_cons, Option.all_eq_true, ih]

instance {S A : Type} (step : S → A → Option S) (ok : S → A → Prop)
    [∀ s a, Decidable (ok s a)] (s : S) (as : List A) : Decidable (Always step ok s as) :=
  decidable_of_iff _ checks_iff

theorem Always.left {S A : Type} {step : S → A → Option S} {ok : S → A → Prop} {s : S}
    {as bs : List A} (h : Always step ok s (as ++ bs)) : Always step ok s as := by
  intro pre a post m has hm
  exact h pre a (post ++ bs) m (by rw [has, List.append_assoc]; rfl) hm

theorem Always.right {S A : Type} {step : S → A → Option S} {ok : S → A → Prop} {s m : S}
    {as bs : List A} (h : Always step ok s (as ++ bs)) (hm : run step s as = some m) :
    Always step ok m bs := by
  intro pre a post k hbs hk
  exact h (as ++ pre) a post k (by rw [hbs, List.append_assoc])
    (run_append.mpr ⟨m, hm, hk⟩)

/-- What the steps of one kind preserve, a run of such steps preserves. -/
theorem run_guarded {S A : Type} {step : S → A → Option S} {P : S → Prop} {ok : S → A → Prop}
    (hstep : ∀ {s a s'}, P s → ok s a → step s a = some s' → P s')
    {s s' : S} {as : List A} (hs : P s) (h : run step s as = some s')
    (hok : Always step ok s as) : P s' := by
  induction as generalizing s with
  | nil => cases h; exact hs
  | cons a as ih =>
    obtain ⟨m, hm, h⟩ := run_cons.mp h
    obtain ⟨ha, has⟩ := always_cons.mp hok
    exact ih (hstep hs ha hm) h (has m hm)

/-- Who waits for a turn waits on, or had that turn at one point of the run: the count
went up by what was due at that point, and never otherwise. -/
theorem run_turn {S A : Type} {step : S → A → Option S} (Inv waits : S → Prop)
    (turn : S → A → Prop) (count credit : S → Nat)
    (hinv : ∀ {s a s'}, Inv s → step s a = some s' → Inv s')
    (hturn : ∀ {s a s'}, Inv s → waits s → turn s a → step s a = some s' →
      ¬ waits s' ∧ count s' = count s + credit s)
    (hwait : ∀ {s a s'}, Inv s → waits s → ¬ turn s a → step s a = some s' →
      waits s' ∧ count s' = count s)
    (hdone : ∀ {s a s'}, Inv s → ¬ waits s → step s a = some s' →
      ¬ waits s' ∧ count s' = count s)
    {s s' : S} {as : List A} (hi : Inv s) (hw : waits s) (h : run step s as = some s') :
    (waits s' ∧ count s' = count s) ∨
    ∃ pre a post m, as = pre ++ a :: post ∧ run step s pre = some m ∧ turn m a ∧
      ¬ waits s' ∧ count s' = count s + credit m := by
  have hafter : ∀ {m s' : S} {as : List A}, Inv m → ¬ waits m → run step m as = some s' →
      ¬ waits s' ∧ count s' = count m := by
    intro m s' as hi hw h
    have hP := run_preserves (P := fun x => Inv x ∧ ¬ waits x ∧ count x = count m)
      (fun {x a x'} hx hstep =>
        ⟨hinv hx.1 hstep, (hdone hx.1 hx.2.1 hstep).1,
          (hdone hx.1 hx.2.1 hstep).2.trans hx.2.2⟩) ⟨hi, hw, rfl⟩ h
    exact hP.2
  induction as generalizing s with
  | nil =>
    cases h
    exact Or.inl ⟨hw, rfl⟩
  | cons a as ih =>
    obtain ⟨m, hm, h⟩ := run_cons.mp h
    by_cases ht : turn s a
    · obtain ⟨hgone, hcount⟩ := hturn hi hw ht hm
      obtain ⟨hend, heq⟩ := hafter (hinv hi hm) hgone h
      exact Or.inr ⟨[], a, as, s, rfl, rfl, ht, hend, heq.trans hcount⟩
    · obtain ⟨hstill, hcount⟩ := hwait hi hw ht hm
      rcases ih (hinv hi hm) hstill h with ⟨hend, heq⟩ | ⟨pre, b, post, k, rfl, hk, ht, hend, heq⟩
      · exact Or.inl ⟨hend, heq.trans hcount⟩
      · exact Or.inr ⟨a :: pre, b, post, k, rfl, run_cons.mpr ⟨m, hm, hk⟩, ht, hend,
          by rw [heq, hcount]⟩

/-- A loop that can take a turn while something is left to do comes to its end. -/
theorem run_drains {S A G : Type} {step : S → A → Option S} (turn : A) (left : S → List G)
    (hturn : ∀ {s g rest}, left s = g :: rest → ∃ s', step s turn = some s' ∧ left s' = rest)
    (s : S) : ∃ s', run step s (List.replicate (left s).length turn) = some s' ∧ left s' = [] := by
  generalize hleft : left s = gs
  induction gs generalizing s with
  | nil => exact ⟨s, rfl, hleft⟩
  | cons g rest ih =>
    obtain ⟨m, hm, hrest⟩ := hturn hleft
    obtain ⟨s', hs', hend⟩ := ih m hrest
    exact ⟨s', run_cons.mpr ⟨m, hm, hs'⟩, hend⟩

/-- What each step of one kind lowers, and none raises, bounds how many of them a run has. -/
theorem run_bounded {S A : Type} {step : S → A → Option S} (P : S → Prop) (kind : A → Bool)
    (μ : S → Nat) (hinv : ∀ {s a s'}, P s → step s a = some s' → P s')
    (hkind : ∀ {s a s'}, P s → step s a = some s' → kind a = true → μ s' < μ s)
    (hother : ∀ {s a s'}, P s → step s a = some s' → kind a = false → μ s' ≤ μ s)
    {s s' : S} {as : List A} (hs : P s) (h : run step s as = some s') :
    P s' ∧ as.countP kind + μ s' ≤ μ s := by
  induction as generalizing s with
  | nil =>
    cases h
    exact ⟨hs, by simp⟩
  | cons a as ih =>
    obtain ⟨m, hm, h⟩ := run_cons.mp h
    obtain ⟨hs', hle⟩ := ih (hinv hs hm) h
    refine ⟨hs', ?_⟩
    cases ha : kind a with
    | true =>
      have hlt := hkind hs hm ha
      rw [List.countP_cons_of_pos ha]
      omega
    | false =>
      have hstill := hother hs hm ha
      rw [List.countP_cons_of_neg (by simp [ha])]
      omega

def Reachable {S A : Type} (step : S → A → Option S) (init s : S) : Prop :=
  ∃ as, run step init as = some s

theorem Reachable.refl {S A : Type} (step : S → A → Option S) (s : S) :
    Reachable step s s := ⟨[], rfl⟩

theorem Reachable.run {S A : Type} {step : S → A → Option S} {init s s' : S}
    (h : Reachable step init s) {as : List A} (hr : run step s as = some s') :
    Reachable step init s' := by
  obtain ⟨bs, hb⟩ := h
  exact ⟨bs ++ as, run_append.mpr ⟨s, hb, hr⟩⟩

theorem Reachable.step {S A : Type} {step : S → A → Option S} {init s s' : S} {a : A}
    (h : Reachable step init s) (hs : step s a = some s') : Reachable step init s' :=
  h.run (run_one.mpr hs)

theorem Reachable.invariant {S A : Type} {step : S → A → Option S} {init s : S}
    {P : S → Prop} (h : Reachable step init s) (h0 : P init)
    (hstep : ∀ {s a s'}, P s → step s a = some s' → P s') : P s := by
  obtain ⟨as, ha⟩ := h
  exact run_preserves hstep h0 ha

theorem Reachable.invariant' {S A : Type} {step : S → A → Option S} {init s : S}
    {P : S → Prop} (h : Reachable step init s) (h0 : P init)
    (hstep : ∀ {s a s'}, Reachable step init s → P s → step s a = some s' → P s') : P s := by
  have hP := h.invariant (P := fun s => Reachable step init s ∧ P s)
    ⟨Reachable.refl step init, h0⟩
    (fun {s a s'} hs hstep' => ⟨hs.1.step hstep', hstep hs.1 hs.2 hstep'⟩)
  exact hP.2

/-- While the machine below takes a step, the one above takes a step or stands still. -/
def Simulates {S A T B : Type} (lower : S → A → Option S) (upper : T → B → Option T)
    (R : S → T → Prop) : Prop :=
  ∀ {s t a s'}, R s t → lower s a = some s' →
    ∃ t', R s' t' ∧ (t' = t ∨ ∃ b, upper t b = some t')

/-- What is reached below is an image of what is reached above. -/
theorem Simulates.reachable {S A T B : Type} {lower : S → A → Option S}
    {upper : T → B → Option T} {R : S → T → Prop} (h : Simulates lower upper R) {s0 s : S}
    {t0 : T} (h0 : R s0 t0) (hs : Reachable lower s0 s) :
    ∃ t, Reachable upper t0 t ∧ R s t := by
  refine hs.invariant (P := fun s => ∃ t, Reachable upper t0 t ∧ R s t)
    ⟨t0, Reachable.refl upper t0, h0⟩ ?_
  rintro s a s' ⟨t, ht, hR⟩ hstep
  obtain ⟨t', hR', rfl | ⟨b, hb⟩⟩ := h hR hstep
  · exact ⟨t', ht, hR'⟩
  · exact ⟨t', ht.step hb, hR'⟩

theorem Reachable.getD {S A : Type} {step : S → A → Option S} {init : S} {as : List A}
    (h : (Runs.run step init as).isSome = true) :
    Reachable step init ((Runs.run step init as).getD init) := by
  obtain ⟨s, hs⟩ := Option.isSome_iff_exists.mp h
  exact ⟨as, by rw [hs]; rfl⟩

end Runs
