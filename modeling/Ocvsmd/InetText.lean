import Ocvsmd.SocketAddress

set_option autoImplicit false

namespace Ocvsmd.Io.InetText

open CString (Bytes isDigit value decimal)

def readParts (part : Bytes → Option Bytes) : List Bytes → Option Bytes
  | [] => some []
  | t :: ts => (part t).bind fun bs => (readParts part ts).map (bs ++ ·)

def readOctets (n : Nat) (sep : UInt8) (part : Bytes → Option Bytes) (t : Bytes) :
    Option (Octets n) :=
  (readParts part (t.splitOn sep)).bind fun bs => if h : bs.length = n then some ⟨bs, h⟩ else none

def readDecimal (t : Bytes) : Option Bytes :=
  if t ≠ [] ∧ t.all (isDigit 10) = true ∧ (t.head? = some 48 → t = [48]) ∧ value 10 t ≤ 255
  then some [UInt8.ofNat (value 10 t)] else none

def readGroup (t : Bytes) : Option Bytes :=
  if t ≠ [] ∧ t.all (isDigit 16) = true ∧ t.length ≤ 4
  then some [UInt8.ofNat (value 16 t / 256), UInt8.ofNat (value 16 t)] else none

def hexDigit (d : UInt8) : UInt8 := if d < 10 then 48 + d else 87 + d

def printGroup (hi lo : UInt8) : Bytes :=
  [hexDigit (hi / 16), hexDigit (hi % 16), hexDigit (lo / 16), hexDigit (lo % 16)]

def groups : Bytes → List Bytes
  | hi :: lo :: rest => printGroup hi lo :: groups rest
  | _ => []

def print (sep : UInt8) (parts : List Bytes) : Bytes := [sep].intercalate parts

theorem readParts_chars {part : Bytes → Option Bytes} {base : Nat}
    (hpart : ∀ t bs, part t = some bs → ∀ c ∈ t, isDigit base c = true) {ts : List Bytes}
    {bs : Bytes} (h : readParts part ts = some bs) : ∀ t ∈ ts, ∀ c ∈ t, isDigit base c = true := by
  induction ts generalizing bs with
  | nil => simp
  | cons t ts ih =>
    obtain ⟨_, ht, hrest⟩ := Option.bind_eq_some_iff.mp h
    obtain ⟨_, hts, -⟩ := Option.map_eq_some_iff.mp hrest
    exact List.forall_mem_cons.mpr ⟨hpart t _ ht, ih hts⟩

theorem mem_print {sep c : UInt8} {ts : List Bytes} (h : c ∈ print sep ts) :
    c = sep ∨ ∃ t ∈ ts, c ∈ t := by
  induction ts with
  | nil => simp [print] at h
  | cons t ts ih =>
    cases ts with
    | nil =>
      rw [print, List.intercalate_singleton] at h
      exact .inr ⟨t, List.mem_cons_self, h⟩
    | cons t' ts =>
      rw [print, List.intercalate_cons_cons, List.mem_append, List.mem_append,
        List.mem_singleton] at h
      obtain (hmem | heq) | hmem := h
      · exact .inr ⟨t, List.mem_cons_self, hmem⟩
      · exact .inl heq
      · obtain heq | ⟨u, hu, hmem⟩ := ih hmem
        · exact .inl heq
        · exact .inr ⟨u, List.mem_cons_of_mem _ hu, hmem⟩

theorem readOctets_chars {n base : Nat} {sep : UInt8} {part : Bytes → Option Bytes}
    (hpart : ∀ t bs, part t = some bs → ∀ c ∈ t, isDigit base c = true) {t : Bytes} {a : Octets n}
    (h : readOctets n sep part t = some a) : ∀ c ∈ t, c = sep ∨ isDigit base c = true := by
  intro c hc
  obtain ⟨bs, hparts, -⟩ := Option.bind_eq_some_iff.mp h
  rw [← @List.intercalate_splitOn _ t _ _ sep] at hc
  exact (mem_print hc).imp_right fun ⟨u, hu, hmem⟩ => readParts_chars hpart hparts u hu c hmem

theorem readOctets_print {n : Nat} {sep : UInt8} {part : Bytes → Option Bytes} {ts : List Bytes}
    (hne : ts ≠ []) (hsep : ∀ t ∈ ts, sep ∉ t) {a : Octets n} (h : readParts part ts = some a.val) :
    readOctets n sep part (print sep ts) = some a := by
  rw [readOctets, print, List.splitOn_intercalate sep hsep hne, h, Option.bind_some, dif_pos a.2]

theorem readDecimal_decimal (b : UInt8) : readDecimal (decimal b.toNat) = some [b] := by
  have hne : decimal b.toNat ≠ [] := by
    obtain heq | ⟨d, ds, heq, -⟩ := CString.decimal_starts b.toNat <;> simp [heq]
  have hzero : (decimal b.toNat).head? = some 48 → decimal b.toNat = [48] := by
    obtain heq | ⟨d, ds, heq, hd⟩ := CString.decimal_starts b.toNat
    · exact fun _ => heq
    · rw [heq]
      exact fun h => absurd (Option.some.inj h) hd
  rw [readDecimal, CString.value_decimal, if_pos, UInt8.ofNat_toNat]
  exact ⟨hne, List.all_eq_true.mpr fun _ => CString.isDigit_of_mem_decimal, hzero,
    Nat.le_of_lt_succ b.toNat_lt⟩

theorem digitVal_hexDigit {d : UInt8} (h : d.toNat < 16) :
    CString.digitVal (hexDigit d) = some d.toNat := by
  rw [← UInt8.ofNat_toNat (x := d)]
  generalize d.toNat = n at h ⊢
  interval_cases n <;> decide

theorem toNat_div_16 (b : UInt8) : (b / 16).toNat = b.toNat / 16 := UInt8.toNat_div _ _

theorem toNat_mod_16 (b : UInt8) : (b % 16).toNat = b.toNat % 16 := UInt8.toNat_mod _ _

theorem digitVal_nibbles (b : UInt8) :
    CString.digitVal (hexDigit (b / 16)) = some (b.toNat / 16) ∧
      CString.digitVal (hexDigit (b % 16)) = some (b.toNat % 16) := by
  have hb := b.toNat_lt
  rw [digitVal_hexDigit (by rw [toNat_div_16]; omega),
    digitVal_hexDigit (by rw [toNat_mod_16]; omega), toNat_div_16, toNat_mod_16]
  exact ⟨rfl, rfl⟩

theorem isDigit_nibbles (b : UInt8) :
    isDigit 16 (hexDigit (b / 16)) = true ∧ isDigit 16 (hexDigit (b % 16)) = true := by
  have hb := b.toNat_lt
  obtain ⟨hhigh, hlow⟩ := digitVal_nibbles b
  exact ⟨CString.isDigit_eq_true.mpr ⟨_, hhigh, by omega⟩,
    CString.isDigit_eq_true.mpr ⟨_, hlow, by omega⟩⟩

theorem isDigit_of_mem_printGroup {hi lo c : UInt8} (h : c ∈ printGroup hi lo) :
    isDigit 16 c = true := by
  simp only [printGroup, List.mem_cons, List.not_mem_nil, or_false] at h
  obtain rfl | rfl | rfl | rfl := h
  · exact (isDigit_nibbles hi).1
  · exact (isDigit_nibbles hi).2
  · exact (isDigit_nibbles lo).1
  · exact (isDigit_nibbles lo).2

theorem readGroup_printGroup (hi lo : UInt8) : readGroup (printGroup hi lo) = some [hi, lo] := by
  have hvalue : value 16 (printGroup hi lo) = 256 * hi.toNat + lo.toNat := by
    simp only [value, printGroup, List.foldl_cons, List.foldl_nil, digitVal_nibbles,
      Option.getD_some]
    omega
  have hhi : UInt8.ofNat ((256 * hi.toNat + lo.toNat) / 256) = hi := by
    rw [← UInt8.toNat_inj, UInt8.toNat_ofNat']
    have := hi.toNat_lt
    have := lo.toNat_lt
    omega
  have hlo : UInt8.ofNat (256 * hi.toNat + lo.toNat) = lo := by
    rw [← UInt8.toNat_inj, UInt8.toNat_ofNat']
    have := lo.toNat_lt
    omega
  have hdigits : (printGroup hi lo).all (isDigit 16) = true :=
    List.all_eq_true.mpr fun _ => isDigit_of_mem_printGroup
  rw [readGroup, if_pos ⟨List.cons_ne_nil _ _, hdigits, Nat.le_refl _⟩, hvalue, hhi, hlo]

theorem readParts_decimal (bs : Bytes) :
    readParts readDecimal (bs.map fun b => decimal b.toNat) = some bs := by
  induction bs with
  | nil => rfl
  | cons b bs ih =>
    rw [List.map_cons, readParts, readDecimal_decimal, ih]
    rfl

theorem readParts_groups {n : Nat} {bs : Bytes} (h : bs.length = 2 * n) :
    readParts readGroup (groups bs) = some bs := by
  induction n generalizing bs with
  | zero =>
    rw [List.length_eq_zero_iff.mp h]
    rfl
  | succ n ih =>
    match bs, h with
    | hi :: lo :: rest, h =>
      rw [groups, readParts, readGroup_printGroup, ih (by simpa [Nat.mul_succ] using h)]
      rfl

theorem isDigit_of_mem_groups {bs t : Bytes} (ht : t ∈ groups bs) {c : UInt8} (hc : c ∈ t) :
    isDigit 16 c = true := by
  fun_induction groups bs with
  | case1 hi lo rest ih =>
    obtain rfl | hrest := List.mem_cons.mp ht
    · exact isDigit_of_mem_printGroup hc
    · exact ih hrest
  | case2 => cases ht

theorem groups_ne_nil {bs : Bytes} (h : bs.length = 16) : groups bs ≠ [] := by
  match bs, h with
  | hi :: lo :: rest, _ => simp [groups]

end Ocvsmd.Io.InetText

namespace Ocvsmd.Io

open InetText in
/-- Dotted decimals and full groups. -/
def plainInet : Inet where
  pton4 := readOctets 4 46 readDecimal
  ntop4 a := print 46 (a.val.map fun b => CString.decimal b.toNat)
  pton6 := readOctets 16 58 readGroup
  ntop6 a := print 58 (groups a.val)
  pton4_ntop4 a := by
    refine readOctets_print ?_ ?_ (readParts_decimal a.val)
    · intro hnil
      have hlen := a.2
      rw [List.map_eq_nil_iff.mp hnil] at hlen
      cases hlen
    · intro t ht hdot
      obtain ⟨b, -, rfl⟩ := List.mem_map.mp ht
      exact absurd (CString.isDigit_of_mem_decimal hdot) (by decide)
  pton6_ntop6 a := readOctets_print (groups_ne_nil a.2)
    (fun t ht hcolon => absurd (isDigit_of_mem_groups ht hcolon) (by decide))
    (readParts_groups (n := 8) a.2)
  pton4_chars h := readOctets_chars (fun t bs ht => by
    rw [readDecimal] at ht
    split_ifs at ht with hd
    exact List.all_eq_true.mp hd.2.1) h
  pton6_chars h := fun c hc => (readOctets_chars (fun t bs ht => by
    rw [readGroup] at ht
    split_ifs at ht with hd
    exact List.all_eq_true.mp hd.2.1) h c hc).imp_right .inr

end Ocvsmd.Io
