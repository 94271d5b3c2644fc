import Mathlib.Data.FinEnum
import Mathlib.Data.W.Cardinal

/-!
TOML values. A table is a finite set of keys with a value for each, so that no key is twice
in it, and the order of the keys does not matter.
-/

set_option autoImplicit false

namespace Toml

abbrev Bytes := List UInt8

/-- What is not looked at is kept as it is written. -/
inductive Value where
  | boolean : Bool → Value
  | integer : Int64 → Value
  | string : Bytes → Value
  | other : Bytes → Value
  | array : (size : Nat) → (Fin size → Value) → Value
  | table : (keys : Finset Bytes) → ({k // k ∈ keys} → Value) → Value

structure Table where
  keys : Finset Bytes
  vals : {k // k ∈ keys} → Value

namespace Table

def value (t : Table) : Value := .table t.keys t.vals

def empty : Table := ⟨∅, fun k => absurd k.2 (Finset.notMem_empty _)⟩

def lookup (t : Table) (k : Bytes) : Option Value :=
  if h : k ∈ t.keys then some (t.vals ⟨k, h⟩) else none

def put (t : Table) (k : Bytes) (v : Value) : Table where
  keys := insert k t.keys
  vals := fun k' =>
    if h : k'.1 = k then v else t.vals ⟨k'.1, (Finset.mem_insert.mp k'.2).resolve_left h⟩

@[simp] theorem lookup_empty (k : Bytes) : empty.lookup k = none :=
  dif_neg (Finset.notMem_empty k)

theorem mem_put {t : Table} {k k' : Bytes} {v : Value} :
    k' ∈ (t.put k v).keys ↔ k' = k ∨ k' ∈ t.keys := Finset.mem_insert

@[simp] theorem lookup_put_self (t : Table) (k : Bytes) (v : Value) :
    (t.put k v).lookup k = some v := by
  rw [lookup, dif_pos (mem_put.mpr (Or.inl rfl))]
  exact congrArg some (dif_pos rfl)

theorem lookup_put_ne (t : Table) {k k' : Bytes} (h : k' ≠ k) (v : Value) :
    (t.put k v).lookup k' = t.lookup k' := by
  by_cases hk : k' ∈ t.keys
  · rw [lookup, dif_pos (mem_put.mpr (Or.inr hk)), lookup, dif_pos hk]
    exact congrArg some (dif_neg h)
  · have hput : k' ∉ (t.put k v).keys := fun hin => (mem_put.mp hin).elim h hk
    rw [lookup, dif_neg hput, lookup, dif_neg hk]

end Table

namespace Value

def find : List Bytes → Value → Option Value
  | [], v => some v
  | k :: ks, .table keys vals => ((⟨keys, vals⟩ : Table).lookup k).bind (find ks)
  | _ :: _, _ => none

/-- `operator[]`, once for each key, and an assignment. What is missing becomes a table;
anything else that is not a table throws. -/
def assign : List Bytes → Value → Value → Option Value
  | [], v, _ => some v
  | k :: ks, v, .table keys vals =>
    let t : Table := ⟨keys, vals⟩
    (assign ks v ((t.lookup k).getD Table.empty.value)).map fun w => (t.put k w).value
  | _ :: _, _, _ => none

theorem find_assign {path : List Bytes} {v w w' : Value} (h : assign path v w = some w') :
    find path w' = some v := by
  induction path generalizing w w' with
  | nil =>
    cases h
    rfl
  | cons k ks ih =>
    cases w with
    | table keys vals =>
      obtain ⟨u, hu, rfl⟩ := Option.map_eq_some_iff.mp h
      have hlookup := (⟨keys, vals⟩ : Table).lookup_put_self k u
      simp only [find, Table.value, hlookup, Option.bind_some]
      exact ih hu
    | _ => cases h

/-- Two paths that part before either ends. -/
def apart : List Bytes → List Bytes → Bool
  | k :: ks, k' :: ks' => k ≠ k' || apart ks ks'
  | _, _ => false

theorem find_empty {path path' : List Bytes} (h : apart path path' = true) :
    find path' Table.empty.value = none := by
  cases path' with
  | nil => cases path <;> cases h
  | cons k' ks' =>
    have hnone : Table.lookup Table.empty k' = none := Table.lookup_empty k'
    exact congrArg (Option.bind · (find ks')) hnone

/-- What is behind another path is not touched, nor is it made. -/
theorem find_assign_apart {path path' : List Bytes} {v w w' : Value}
    (hp : apart path path' = true) (h : assign path v w = some w') :
    find path' w' = find path' w := by
  induction path generalizing path' w w' with
  | nil => cases hp
  | cons k ks ih =>
    cases path' with
    | nil => cases hp
    | cons k' ks' =>
      cases w with
      | table keys vals =>
        obtain ⟨u, hu, rfl⟩ := Option.map_eq_some_iff.mp h
        have hget : find (k' :: ks') ((⟨keys, vals⟩ : Table).put k u).value =
            (((⟨keys, vals⟩ : Table).put k u).lookup k').bind (find ks') := rfl
        have hget' : find (k' :: ks') (.table keys vals) =
            ((⟨keys, vals⟩ : Table).lookup k').bind (find ks') := rfl
        rw [hget, hget']
        by_cases hk : k' = k
        · subst hk
          have hks : apart ks ks' = true := by simpa [apart] using hp
          rw [Table.lookup_put_self, Option.bind_some, ih hks hu]
          cases (⟨keys, vals⟩ : Table).lookup k' with
          | none => exact find_empty hks
          | some x => rfl
        · rw [Table.lookup_put_ne _ hk]
      | _ => cases h

theorem assign_empty (k : Bytes) (ks : List Bytes) (v : Value) :
    assign (k :: ks) v Table.empty.value =
      (assign ks v Table.empty.value).map fun w => (Table.empty.put k w).value := by
  have hnone : (Table.lookup Table.empty k).getD Table.empty.value = Table.empty.value := by
    rw [Table.lookup_empty, Option.getD_none]
  exact congrArg (fun u => (assign ks v u).map fun w => (Table.empty.put k w).value) hnone

def asInteger : Value → Option Int64
  | .integer i => some i
  | _ => none

def asString : Value → Option Bytes
  | .string s => some s
  | _ => none

def ofArray (bytes : Fin 16 → UInt8) : Value :=
  .array 16 fun i => .integer (bytes i).toUInt64.toInt64

/-- It throws if there are more or less elements, or if one is not an integer. -/
def toArray : Value → Option (Fin 16 → UInt8)
  | .array size elems =>
    if h : size = 16 ∧ ∀ i, (asInteger (elems i)).isSome then
      some fun i => ((asInteger (elems (i.cast h.1.symm))).getD 0).toUInt64.toUInt8
    else none
  | _ => none

/-- An integer is cut to 16 bits. -/
def toUInt16 (v : Value) : Option UInt16 := (asInteger v).map fun i => i.toUInt64.toUInt16

def ofStrings (strings : List Bytes) : Value :=
  .array strings.length fun i => .string strings[i]

def toStrings : Value → Option (List Bytes)
  | .array _ elems =>
    if ∀ i, (asString (elems i)).isSome then
      some (List.ofFn fun i => (asString (elems i)).getD [])
    else none
  | _ => none

theorem toArray_ofArray (bytes : Fin 16 → UInt8) : toArray (ofArray bytes) = some bytes := by
  have hall : (16 : Nat) = 16 ∧
      ∀ i : Fin 16, (asInteger (.integer (bytes i).toUInt64.toInt64)).isSome :=
    ⟨rfl, fun _ => rfl⟩
  rw [ofArray, toArray, dif_pos hall]
  exact congrArg some (funext fun i => by simp [asInteger])

theorem toStrings_ofStrings (strings : List Bytes) :
    toStrings (ofStrings strings) = some strings := by
  have hall : ∀ i : Fin strings.length, (asString (.string strings[i])).isSome := fun _ => rfl
  rw [ofStrings, toStrings, if_pos hall]
  exact congrArg some List.ofFn_getElem

end Value

namespace Table

def find (k : Bytes) (ks : List Bytes) (t : Table) : Option Value :=
  (t.lookup k).bind (Value.find ks)

def assign (k : Bytes) (ks : List Bytes) (v : Value) (t : Table) : Option Table :=
  (Value.assign ks v ((t.lookup k).getD empty.value)).map (t.put k)

theorem find_assign {k : Bytes} {ks : List Bytes} {v : Value} {t t' : Table}
    (h : t.assign k ks v = some t') : t'.find k ks = some v := by
  obtain ⟨w, hw, rfl⟩ := Option.map_eq_some_iff.mp h
  rw [find, lookup_put_self, Option.bind_some]
  exact Value.find_assign hw

theorem find_assign_apart {k k' : Bytes} {ks ks' : List Bytes} {v : Value} {t t' : Table}
    (hp : Value.apart (k :: ks) (k' :: ks') = true) (h : t.assign k ks v = some t') :
    t'.find k' ks' = t.find k' ks' := by
  have hv : Value.assign (k :: ks) v t.value = some t'.value := by
    have hmap : Value.assign (k :: ks) v t.value = (t.assign k ks v).map Table.value := by
      rw [assign, Option.map_map]
      rfl
    rw [hmap, h, Option.map_some]
  exact Value.find_assign_apart hp hv

theorem lookup_assign {k k' : Bytes} {ks : List Bytes} {v : Value} {t t' : Table}
    (h : t.assign k ks v = some t') (hne : k' ≠ k) : t'.lookup k' = t.lookup k' := by
  obtain ⟨w, -, rfl⟩ := Option.map_eq_some_iff.mp h
  exact lookup_put_ne t hne w

theorem assign_missing {k : Bytes} {t : Table} (h : t.lookup k = none) (ks : List Bytes)
    (v : Value) : t.assign k ks v = (Value.assign ks v empty.value).map (t.put k) := by
  rw [assign, h, Option.getD_none]

theorem find_congr {k : Bytes} {t t' : Table} (h : t'.lookup k = t.lookup k)
    (ks : List Bytes) : t'.find k ks = t.find k ks := by
  rw [find, h, find]

/-- There is nothing, or a table. -/
def HasRoom (t : Table) (k : Bytes) : Prop :=
  t.lookup k = none ∨ ∃ m : Table, t.lookup k = some m.value

theorem HasRoom.exists_assign {t : Table} {k : Bytes} (h : t.HasRoom k) (k' : Bytes)
    (v : Value) : ∃ t', t.assign k [k'] v = some t' ∧ t'.HasRoom k := by
  have hput : ∀ m : Table, (t.lookup k).getD empty.value = m.value →
      ∃ t', t.assign k [k'] v = some t' ∧ t'.HasRoom k := by
    intro m hm
    refine ⟨t.put k (m.put k' v).value, ?_, Or.inr ⟨_, lookup_put_self ..⟩⟩
    rw [assign, hm]
    rfl
  rcases h with hnone | ⟨m, hsome⟩
  · exact hput empty (by rw [hnone, Option.getD_none])
  · exact hput m (by rw [hsome, Option.getD_some])

end Table

/-- `format` and `parse`, each the other's inverse. -/
structure Codec where
  format : Table → Bytes
  parse : Bytes → Option Table
  parse_format : ∀ t, parse (format t) = some t

theorem Codec.parse_eq {toml : Codec} {t : Table} {text : Bytes} (h : toml.format t = text) :
    toml.parse text = some t := by
  rw [← h]
  exact toml.parse_format t

/-- What is used of toml11: its format and parser, what looks for a value and what assigns
one, and the conversions of the values that are looked for. -/
structure Library extends Codec where
  find : Table → Bytes → List Bytes → Option Value
  assign : Table → Bytes → List Bytes → Value → Option Table
  ofArray : (Fin 16 → UInt8) → Value
  toArray : Value → Option (Fin 16 → UInt8)
  ofStrings : List Bytes → Value
  toStrings : Value → Option (List Bytes)
  asString : Value → Option Bytes
  toUInt16 : Value → Option UInt16
  find_congr : ∀ {t t' k}, t'.lookup k = t.lookup k → ∀ ks, find t' k ks = find t k ks
  find_assign : ∀ {t k ks v t'}, assign t k ks v = some t' → find t' k ks = some v
  -- What is behind another path is not touched, nor is it made.
  find_assign_apart : ∀ {t k ks v t' k' ks'}, Value.apart (k :: ks) (k' :: ks') = true →
    assign t k ks v = some t' → find t' k' ks' = find t k' ks'
  lookup_assign : ∀ {t k ks v t' k'}, assign t k ks v = some t' → k' ≠ k →
    t'.lookup k' = t.lookup k'
  -- What is missing becomes a table, and a table can be written.
  exists_assign : ∀ {t k}, t.HasRoom k → ∀ k' v,
    ∃ t', assign t k [k'] v = some t' ∧ t'.HasRoom k
  toArray_ofArray : ∀ bytes, toArray (ofArray bytes) = some bytes

/-- As the documentation of toml11 has it. -/
def Codec.documented (toml : Codec) : Library where
  toCodec := toml
  find t k ks := t.find k ks
  assign t k ks v := t.assign k ks v
  ofArray := Value.ofArray
  toArray := Value.toArray
  ofStrings := Value.ofStrings
  toStrings := Value.toStrings
  asString := Value.asString
  toUInt16 := Value.toUInt16
  find_congr := Table.find_congr
  find_assign := Table.find_assign
  find_assign_apart := Table.find_assign_apart
  lookup_assign := Table.lookup_assign
  exists_assign := Table.HasRoom.exists_assign
  toArray_ofArray := Value.toArray_ofArray

theorem Codec.documented_find (toml : Codec) (t : Table) (k : Bytes) (ks : List Bytes) :
    toml.documented.find t k ks = t.find k ks := rfl

theorem Codec.documented_assign (toml : Codec) (t : Table) (k : Bytes) (ks : List Bytes)
    (v : Value) : toml.documented.assign t k ks v = t.assign k ks v := rfl

abbrev Shape := Bool ⊕ Int64 ⊕ Bytes ⊕ Bytes ⊕ Nat ⊕ Finset Bytes

def Place : Shape → Type
  | .inr (.inr (.inr (.inr (.inl size)))) => Fin size
  | .inr (.inr (.inr (.inr (.inr keys)))) => {k // k ∈ keys}
  | _ => Empty

instance : (shape : Shape) → Finite (Place shape)
  | .inl _ => inferInstanceAs (Finite Empty)
  | .inr (.inl _) => inferInstanceAs (Finite Empty)
  | .inr (.inr (.inl _)) => inferInstanceAs (Finite Empty)
  | .inr (.inr (.inr (.inl _))) => inferInstanceAs (Finite Empty)
  | .inr (.inr (.inr (.inr (.inl size)))) => inferInstanceAs (Finite (Fin size))
  | .inr (.inr (.inr (.inr (.inr keys)))) => inferInstanceAs (Finite {k // k ∈ keys})

def Value.tree : Value → WType Place
  | .boolean b => ⟨.inl b, Empty.elim⟩
  | .integer i => ⟨.inr (.inl i), Empty.elim⟩
  | .string s => ⟨.inr (.inr (.inl s)), Empty.elim⟩
  | .other s => ⟨.inr (.inr (.inr (.inl s))), Empty.elim⟩
  | .array size elems => ⟨.inr (.inr (.inr (.inr (.inl size)))), fun i => (elems i).tree⟩
  | .table keys vals => ⟨.inr (.inr (.inr (.inr (.inr keys)))), fun k => (vals k).tree⟩

theorem Value.tree_injective : Function.Injective Value.tree := by
  intro v
  induction v with
  | boolean x =>
    intro w h
    cases w with
    | boolean y =>
      cases (WType.mk.inj h).1
      rfl
    | _ => cases (WType.mk.inj h).1
  | integer x =>
    intro w h
    cases w with
    | integer y =>
      cases (WType.mk.inj h).1
      rfl
    | _ => cases (WType.mk.inj h).1
  | string x =>
    intro w h
    cases w with
    | string y =>
      cases (WType.mk.inj h).1
      rfl
    | _ => cases (WType.mk.inj h).1
  | other x =>
    intro w h
    cases w with
    | other y =>
      cases (WType.mk.inj h).1
      rfl
    | _ => cases (WType.mk.inj h).1
  | array size elems ih =>
    intro w h
    cases w with
    | array size' elems' =>
      obtain ⟨hs, hf⟩ := WType.mk.inj h
      cases hs
      exact congrArg (Value.array _) (funext fun i => ih i (congrFun (eq_of_heq hf) i))
    | _ => cases (WType.mk.inj h).1
  | table keys vals ih =>
    intro w h
    cases w with
    | table keys' vals' =>
      obtain ⟨hs, hf⟩ := WType.mk.inj h
      cases hs
      exact congrArg (Value.table _) (funext fun i => ih i (congrFun (eq_of_heq hf) i))
    | _ => cases (WType.mk.inj h).1

instance : Countable Value := by
  have hle : Cardinal.mk (WType Place) ≤ Cardinal.aleph0 :=
    (WType.cardinalMk_le_max_aleph0_of_finite).trans
      (max_le (Cardinal.mk_le_aleph0_iff.mpr inferInstance) le_rfl)
  have : Countable (WType Place) := Cardinal.mk_le_aleph0_iff.mp hle
  exact Value.tree_injective.countable

theorem Table.value_injective : Function.Injective Table.value := by
  rintro ⟨keys, vals⟩ ⟨keys', vals'⟩ h
  cases h
  rfl

/-- A codec may write some tables as it is told to, in texts that do not begin with zero. -/
theorem exists_codec (known : Table → Option Bytes)
    (hone : ∀ t t' text, known t = some text → known t' = some text → t = t')
    (hzero : ∀ t tail, known t ≠ some (0 :: tail)) :
    ∃ c : Codec, ∀ t text, known t = some text → c.format t = text := by
  classical
  have : Countable Table := Table.value_injective.countable
  obtain ⟨number, hnumber⟩ := exists_injective_nat Table
  let format : Table → Bytes := fun t =>
    (known t).getD (0 :: List.replicate (number t) 0)
  have hformat : Function.Injective format := by
    intro t t' h
    simp only [format] at h
    cases ht : known t with
    | some text =>
      cases ht' : known t' with
      | some text' =>
        rw [ht, ht', Option.getD_some, Option.getD_some] at h
        exact hone t t' text ht (h ▸ ht')
      | none =>
        rw [ht, ht', Option.getD_some, Option.getD_none] at h
        exact absurd (h ▸ ht) (hzero t _)
    | none =>
      cases ht' : known t' with
      | some text' =>
        rw [ht, ht', Option.getD_some, Option.getD_none] at h
        exact absurd (h ▸ ht') (hzero t' _)
      | none =>
        rw [ht, ht', Option.getD_none, Option.getD_none] at h
        have hlen := congrArg List.length h
        simp only [List.length_cons, List.length_replicate, Nat.add_right_cancel_iff] at hlen
        exact hnumber hlen
  refine ⟨⟨format, fun text => if h : ∃ t, format t = text then some h.choose else none,
    fun t => ?_⟩, fun t text h => ?_⟩
  · have hex : ∃ t', format t' = format t := ⟨t, rfl⟩
    rw [dif_pos hex]
    exact congrArg some (hformat hex.choose_spec)
  · simp only [format, h, Option.getD_some]

end Toml
