import Mathlib.Data.List.TakeWhile
import Mathlib.Data.Nat.Digits.Lemmas

/-!
C strings: what the C library reads of a byte string, and `strtoull` with base 0. A literal
is a C unsigned integer without a suffix; `strtoull` also takes white space, a sign and
values that do not fit.
-/

set_option autoImplicit false

namespace CString

abbrev Bytes := List UInt8

def text (cs : List Char) : Bytes := cs.map Char.toUInt8

/-- What `c_str()` hands over: up to the first NUL. -/
def cstr (s : Bytes) : Bytes := s.takeWhile (· ≠ 0)

theorem cstr_of_no_nul {s : Bytes} (h : 0 ∉ s) : cstr s = s :=
  List.takeWhile_eq_self_iff.mpr fun _ hc => decide_eq_true fun h0 => h (h0 ▸ hc)

theorem nul_not_mem_cstr (s : Bytes) : 0 ∉ cstr s := by
  intro h
  simpa using List.mem_takeWhile_imp h

theorem cstr_append_nul {s : Bytes} (h : 0 ∉ s) (rest : Bytes) : cstr (s ++ 0 :: rest) = s := by
  have hs : ∀ c ∈ s, decide (c ≠ 0) = true := fun _ hc => decide_eq_true fun h0 => h (h0 ▸ hc)
  rw [cstr, List.takeWhile_append_of_pos hs]
  simp

theorem cstr_cases (s : Bytes) : s = cstr s ∨ ∃ rest, s = cstr s ++ 0 :: rest := by
  by_cases h : 0 ∈ s
  · obtain ⟨pre, rest, rfl, hpre⟩ := List.eq_append_cons_of_mem h
    exact .inr ⟨rest, by rw [cstr_append_nul hpre]⟩
  · exact .inl (cstr_of_no_nul h).symm

def isSpace (c : UInt8) : Bool := c = 32 || (9 ≤ c && c ≤ 13)

def digitVal (c : UInt8) : Option Nat :=
  if 48 ≤ c ∧ c ≤ 57 then some (c.toNat - 48)
  else if 65 ≤ c ∧ c ≤ 90 then some (c.toNat - 55)
  else if 97 ≤ c ∧ c ≤ 122 then some (c.toNat - 87)
  else none

def isDigit (base : Nat) (c : UInt8) : Bool := (digitVal c).any (· < base)

def value (base : Nat) (ds : Bytes) : Nat :=
  ds.foldl (fun n c => base * n + (digitVal c).getD 0) 0

def isX (c : UInt8) : Bool := c = 120 || c = 88

/-- The base that the prefix tells, and where its digits are. An octal zero is a digit
of its own; without a hexadecimal digit behind it an `x` is no prefix. -/
def prefixBase : Bytes → Nat × Bytes
  | 48 :: x :: d :: rest =>
    if isX x && isDigit 16 d then (16, d :: rest) else (8, 48 :: x :: d :: rest)
  | 48 :: rest => (8, 48 :: rest)
  | s => (10, s)

def scanUnsigned (s : Bytes) : Option (Nat × Bytes) :=
  let t := prefixBase s
  let ds := t.2.takeWhile (isDigit t.1)
  if ds.isEmpty then none else some (value t.1 ds, t.2.dropWhile (isDigit t.1))

inductive Sign where
  | none | plus | minus
  deriving DecidableEq, Repr

namespace Sign

def text : Sign → Bytes
  | none => []
  | plus => [43]
  | minus => [45]

/-- A value that does not fit becomes `ULLONG_MAX`, whatever the sign. -/
def apply (sg : Sign) (n : Nat) : UInt64 :=
  if n < 2 ^ 64 then (if sg = minus then -UInt64.ofNat n else UInt64.ofNat n)
  else 18446744073709551615

end Sign

def skipSign : Bytes → Sign × Bytes
  | 43 :: rest => (.plus, rest)
  | 45 :: rest => (.minus, rest)
  | s => (.none, s)

/-- `strtoull` with base 0: the value, and what `end_ptr` points to. Without a digit that is
the whole string. -/
def strtoull (s : Bytes) : UInt64 × Bytes :=
  let t := skipSign (s.dropWhile isSpace)
  match scanUnsigned t.2 with
  | none => (0, s)
  | some (n, rest) => (t.1.apply n, rest)

inductive Literal : Bytes → Nat → Prop
  | decimal {d : UInt8} {ds : Bytes} (hd : isDigit 10 d = true) (h0 : d ≠ 48)
      (hds : ∀ c ∈ ds, isDigit 10 c = true) : Literal (d :: ds) (value 10 (d :: ds))
  | octal {ds : Bytes} (hds : ∀ c ∈ ds, isDigit 8 c = true) :
      Literal (48 :: ds) (value 8 (48 :: ds))
  | hex {x : UInt8} {ds : Bytes} (hx : isX x = true) (hne : ds ≠ [])
      (hds : ∀ c ∈ ds, isDigit 16 c = true) : Literal (48 :: x :: ds) (value 16 ds)

theorem isDigit_eq_true {base : Nat} {c : UInt8} :
    isDigit base c = true ↔ ∃ d, digitVal c = some d ∧ d < base := by
  simp [isDigit, Option.any_eq_true]

theorem isDigit_mono {b b' : Nat} (hb : b ≤ b') {c : UInt8} (h : isDigit b c = true) :
    isDigit b' c = true := by
  obtain ⟨d, hd, hlt⟩ := isDigit_eq_true.mp h
  exact isDigit_eq_true.mpr ⟨d, hd, hlt.trans_le hb⟩

theorem isDigit_ten {c : UInt8} : isDigit 10 c = true ↔ 48 ≤ c ∧ c ≤ 57 := by
  simp only [isDigit, digitVal, UInt8.le_iff_toNat_le, UInt8.reduceToNat]
  split_ifs <;> simp <;> omega

theorem not_isX_of_isDigit {c : UInt8} (h : isDigit 10 c = true) : isX c = false := by
  rw [isDigit_ten] at h
  simp only [isX, Bool.or_eq_false_iff, decide_eq_false_iff_not]
  constructor <;> rintro rfl <;> exact absurd h (by decide)

theorem not_isSpace_of_isDigit {c : UInt8} (h : isDigit 10 c = true) : isSpace c = false := by
  rw [isDigit_ten, UInt8.le_iff_toNat_le] at h
  simp only [isSpace, Bool.or_eq_false_iff, Bool.and_eq_false_iff, decide_eq_false_iff_not,
    UInt8.le_iff_toNat_le, UInt8.reduceToNat, ← UInt8.toNat_inj]
  simp only [UInt8.reduceToNat] at h
  omega

theorem prefixBase_zero {ds : Bytes} (h : ∀ x ∈ ds.head?, isX x = false) :
    prefixBase (48 :: ds) = (8, 48 :: ds) := by
  match ds with
  | [] => rfl
  | [x] => rfl
  | x :: d :: rest => simp [prefixBase, h x (by simp)]

theorem prefixBase_decimal {d : UInt8} (h0 : d ≠ 48) (ds : Bytes) :
    prefixBase (d :: ds) = (10, d :: ds) := by
  rw [prefixBase]
  · rintro x d' rest ⟨rfl, -⟩
    exact h0 rfl
  · rintro rest ⟨rfl, -⟩
    exact h0 rfl

theorem prefixBase_hex {x d : UInt8} (hx : isX x = true) (hd : isDigit 16 d = true)
    (rest : Bytes) : prefixBase (48 :: x :: d :: rest) = (16, d :: rest) := by
  simp [prefixBase, hx, hd]

theorem scanUnsigned_of_digits {s ds : Bytes} {base : Nat} (hs : prefixBase s = (base, ds))
    (hne : ds ≠ []) (hds : ∀ c ∈ ds, isDigit base c = true) :
    scanUnsigned s = some (value base ds, []) := by
  have htake : ds.takeWhile (isDigit base) = ds := List.takeWhile_eq_self_iff.mpr hds
  have hdrop : ds.dropWhile (isDigit base) = [] := List.dropWhile_eq_nil_iff.mpr hds
  simp [scanUnsigned, hs, htake, hdrop, hne]

theorem digits_of_scanUnsigned {s ds : Bytes} {base n : Nat} (hs : prefixBase s = (base, ds))
    (h : scanUnsigned s = some (n, [])) :
    ds ≠ [] ∧ (∀ c ∈ ds, isDigit base c = true) ∧ n = value base ds := by
  simp only [scanUnsigned, hs] at h
  by_cases hempty : (ds.takeWhile (isDigit base)).isEmpty = true
  · simp [hempty] at h
  · rw [if_neg hempty, Option.some.injEq, Prod.mk.injEq, List.dropWhile_eq_nil_iff] at h
    obtain ⟨hvalue, hds⟩ := h
    rw [List.takeWhile_eq_self_iff.mpr hds] at hvalue hempty
    exact ⟨by simpa using hempty, hds, hvalue.symm⟩

theorem scanUnsigned_iff {s : Bytes} {n : Nat} :
    scanUnsigned s = some (n, []) ↔ Literal s n := by
  constructor
  · intro h
    match s with
    | [] => exact absurd (digits_of_scanUnsigned rfl h).1 (by simp)
    | d :: ds =>
      by_cases h0 : d = 48
      · subst h0
        by_cases hpre : ∃ x c rest, ds = x :: c :: rest ∧ isX x = true ∧ isDigit 16 c = true
        · obtain ⟨x, c, rest, rfl, hx, hc⟩ := hpre
          obtain ⟨hne, hds, rfl⟩ := digits_of_scanUnsigned (prefixBase_hex hx hc rest) h
          exact .hex hx hne hds
        · have hbase : prefixBase (48 :: ds) = (8, 48 :: ds) := by
            match ds, hpre with
            | [], _ => rfl
            | [x], _ => rfl
            | x :: c :: rest, hpre =>
              rw [prefixBase, if_neg]
              rw [Bool.and_eq_true]
              exact fun hxc => hpre ⟨x, c, rest, rfl, hxc⟩
          obtain ⟨-, hds, rfl⟩ := digits_of_scanUnsigned hbase h
          exact .octal fun c hc => hds c (List.mem_cons_of_mem _ hc)
      · obtain ⟨-, hds, rfl⟩ := digits_of_scanUnsigned (prefixBase_decimal h0 ds) h
        exact .decimal (hds d List.mem_cons_self) h0 fun c hc => hds c (List.mem_cons_of_mem _ hc)
  · rintro (⟨hd, h0, hds⟩ | ⟨hds⟩ | ⟨hx, hne, hds⟩)
    · exact scanUnsigned_of_digits (prefixBase_decimal h0 _) (by simp)
        (List.forall_mem_cons.mpr ⟨hd, hds⟩)
    · refine scanUnsigned_of_digits (prefixBase_zero fun x hx => ?_) (by simp)
        (List.forall_mem_cons.mpr ⟨by decide, hds⟩)
      exact not_isX_of_isDigit (isDigit_mono (by decide) (hds x (List.mem_of_mem_head? hx)))
    · obtain ⟨c, rest, rfl⟩ := List.exists_cons_of_ne_nil hne
      exact scanUnsigned_of_digits (prefixBase_hex hx (hds c List.mem_cons_self) rest) hne hds

instance (s : Bytes) (n : Nat) : Decidable (Literal s n) :=
  decidable_of_iff _ scanUnsigned_iff

theorem Literal.starts {s : Bytes} {n : Nat} (h : Literal s n) :
    ∃ c rest, s = c :: rest ∧ isDigit 10 c = true := by
  cases h with
  | decimal hd _ _ => exact ⟨_, _, rfl, hd⟩
  | octal _ => exact ⟨_, _, rfl, by decide⟩
  | hex _ _ _ => exact ⟨_, _, rfl, by decide⟩

theorem Literal.chars {s : Bytes} {n : Nat} (h : Literal s n) :
    ∀ c ∈ s, isX c = true ∨ isDigit 16 c = true := by
  cases h with
  | decimal hd _ hds =>
    rw [List.forall_mem_cons]
    exact ⟨.inr (isDigit_mono (by decide) hd),
      fun c hc => .inr (isDigit_mono (by decide) (hds c hc))⟩
  | octal hds =>
    rw [List.forall_mem_cons]
    exact ⟨.inr (by decide), fun c hc => .inr (isDigit_mono (by decide) (hds c hc))⟩
  | hex hx _ hds =>
    rw [List.forall_mem_cons, List.forall_mem_cons]
    exact ⟨.inr (by decide), .inl hx, fun c hc => .inr (hds c hc)⟩

theorem Literal.not_mem {s : Bytes} {n : Nat} (h : Literal s n) {c : UInt8}
    (hx : isX c = false) (hd : isDigit 16 c = false) : c ∉ s := by
  intro hc
  obtain hc | hc := h.chars c hc
  · rw [hx] at hc
    cases hc
  · rw [hd] at hc
    cases hc

theorem skipSign_append (sg : Sign) {s : Bytes} {c : UInt8} {rest : Bytes} (hs : s = c :: rest)
    (hc : isDigit 10 c = true) : skipSign (sg.text ++ s) = (sg, s) := by
  subst hs
  cases sg with
  | plus => rfl
  | minus => rfl
  | none =>
    rw [isDigit_ten] at hc
    simp only [Sign.text, List.nil_append]
    rw [skipSign]
    · rintro rest' ⟨rfl, -⟩
      exact absurd hc (by decide)
    · rintro rest' ⟨rfl, -⟩
      exact absurd hc (by decide)

theorem text_skipSign (s : Bytes) : (skipSign s).1.text ++ (skipSign s).2 = s := by
  fun_cases skipSign s <;> rfl

theorem dropWhile_isSpace {ws : Bytes} (hws : ∀ c ∈ ws, isSpace c = true) (sg : Sign)
    {s : Bytes} {c : UInt8} {rest : Bytes} (hs : s = c :: rest) (hc : isDigit 10 c = true) :
    (ws ++ sg.text ++ s).dropWhile isSpace = sg.text ++ s := by
  rw [List.append_assoc, List.dropWhile_append_of_pos hws]
  subst hs
  cases sg with
  | plus => rfl
  | minus => rfl
  | none => exact List.dropWhile_cons_of_neg (by simp [not_isSpace_of_isDigit hc])

/-- `strtoull` gets to the end of white space, a sign and a literal, of nothing, and of
nothing else. -/
theorem strtoull_iff {s : Bytes} {v : UInt64} :
    strtoull s = (v, []) ↔ (s = [] ∧ v = 0) ∨ ∃ ws sg lit n, s = ws ++ Sign.text sg ++ lit ∧
      (∀ c ∈ ws, isSpace c = true) ∧ Literal lit n ∧ v = sg.apply n := by
  constructor
  · intro h
    rw [strtoull] at h
    cases hscan : scanUnsigned (skipSign (s.dropWhile isSpace)).2 with
    | none =>
      simp only [hscan, Prod.mk.injEq] at h
      exact .inl ⟨h.2, h.1.symm⟩
    | some r =>
      obtain ⟨n, rest⟩ := r
      simp only [hscan, Prod.mk.injEq] at h
      obtain ⟨rfl, rfl⟩ := h
      refine .inr ⟨s.takeWhile isSpace, _, _, n, ?_, fun c hc => List.mem_takeWhile_imp hc,
        scanUnsigned_iff.mp hscan, rfl⟩
      rw [List.append_assoc, text_skipSign, List.takeWhile_append_dropWhile]
  · rintro (⟨rfl, rfl⟩ | ⟨ws, sg, lit, n, rfl, hws, hlit, rfl⟩)
    · rfl
    · obtain ⟨c, rest, hc, hdigit⟩ := hlit.starts
      simp only [strtoull, dropWhile_isSpace hws sg hc hdigit, skipSign_append sg hc hdigit,
        scanUnsigned_iff.mpr hlit]

theorem toNat_apply_none {n : Nat} (h : n < 2 ^ 64) : (Sign.none.apply n).toNat = n := by
  rw [Sign.apply, if_pos h, if_neg (by decide)]
  exact UInt64.toNat_ofNat_of_lt' h

theorem Literal.eq_of_append {ws lit : Bytes} {sg : Sign} {m : Nat}
    (hws : ∀ c ∈ ws, isSpace c = true) (h : Literal (ws ++ sg.text ++ lit) m) :
    ws = [] ∧ sg = .none := by
  obtain ⟨c, rest, hs, hc⟩ := h.starts
  cases ws with
  | cons w ws =>
    obtain ⟨rfl, -⟩ := List.cons_eq_cons.mp hs
    have hspace := hws w List.mem_cons_self
    rw [not_isSpace_of_isDigit hc] at hspace
    cases hspace
  | nil =>
    refine ⟨rfl, ?_⟩
    cases sg with
    | none => rfl
    | plus =>
      obtain ⟨rfl, -⟩ := List.cons_eq_cons.mp hs
      exact absurd hc (by decide)
    | minus =>
      obtain ⟨rfl, -⟩ := List.cons_eq_cons.mp hs
      exact absurd hc (by decide)

def decimal (n : Nat) : Bytes :=
  if n = 0 then [48] else (Nat.digits 10 n).reverse.map fun d => 48 + UInt8.ofNat d

theorem digitVal_ofNat {d : Nat} (h : d < 10) : digitVal (48 + UInt8.ofNat d) = some d := by
  interval_cases d <;> decide

theorem value_append (base : Nat) (ds : Bytes) (c : UInt8) :
    value base (ds ++ [c]) = base * value base ds + (digitVal c).getD 0 := by
  rw [value, List.foldl_append]
  rfl

theorem value_digits {ds : List Nat} (h : ∀ d ∈ ds, d < 10) :
    value 10 (ds.reverse.map fun d => 48 + UInt8.ofNat d) = Nat.ofDigits 10 ds := by
  induction ds with
  | nil => rfl
  | cons d ds ih =>
    obtain ⟨hd, hds⟩ := List.forall_mem_cons.mp h
    rw [List.reverse_cons, List.map_append, List.map_singleton, value_append, ih hds,
      digitVal_ofNat hd, Nat.ofDigits_cons, Option.getD_some, Nat.add_comm]

theorem decimal_eq {n : Nat} (h0 : n ≠ 0) :
    decimal n = (Nat.digits 10 n).reverse.map fun d => 48 + UInt8.ofNat d := if_neg h0

theorem isDigit_of_mem_decimal {n : Nat} {c : UInt8} (h : c ∈ decimal n) :
    isDigit 10 c = true := by
  by_cases h0 : n = 0
  · subst h0
    rw [List.mem_singleton.mp h]
    decide
  · rw [decimal_eq h0] at h
    obtain ⟨d, hd, rfl⟩ := List.mem_map.mp h
    have hlt := Nat.digits_lt_base (by decide) (List.mem_reverse.mp hd)
    exact isDigit_eq_true.mpr ⟨d, digitVal_ofNat hlt, hlt⟩

theorem value_decimal (n : Nat) : value 10 (decimal n) = n := by
  by_cases h0 : n = 0
  · subst h0
    rfl
  · rw [decimal_eq h0, value_digits fun d => Nat.digits_lt_base (by decide), Nat.ofDigits_digits]

theorem decimal_starts (n : Nat) :
    decimal n = [48] ∨ ∃ d ds, decimal n = d :: ds ∧ d ≠ 48 := by
  by_cases h0 : n = 0
  · exact .inl (if_pos h0)
  · have hne : Nat.digits 10 n ≠ [] := Nat.digits_ne_nil_iff_ne_zero.mpr h0
    refine .inr ⟨48 + UInt8.ofNat ((Nat.digits 10 n).getLast hne),
      (Nat.digits 10 n).dropLast.reverse.map fun d => 48 + UInt8.ofNat d, ?_, ?_⟩
    · conv_lhs => rw [decimal_eq h0, ← List.dropLast_append_getLast hne]
      simp
    · intro heq
      have hlt := Nat.digits_lt_base (by decide) (List.getLast_mem hne)
      have hzero := digitVal_ofNat hlt
      rw [heq] at hzero
      exact Nat.getLast_digit_ne_zero 10 h0 (Option.some.inj hzero).symm

theorem literal_decimal (n : Nat) : Literal (decimal n) n := by
  have hdigits : ∀ c ∈ decimal n, isDigit 10 c = true := fun c => isDigit_of_mem_decimal
  have hvalue := value_decimal n
  obtain heq | ⟨d, ds, heq, hd⟩ := decimal_starts n
  · rw [heq] at hvalue ⊢
    rw [← hvalue]
    exact .octal (by simp)
  · rw [heq] at hdigits hvalue ⊢
    obtain ⟨hfirst, hrest⟩ := List.forall_mem_cons.mp hdigits
    have hlit := Literal.decimal hfirst hd hrest
    rwa [hvalue] at hlit

end CString
