import Ocvsmd.Runs
import Ocvsmd.Toml

/-!
`ConfigImpl`: the configuration in memory, the flag that it has to be saved, and the file.
A stream that cannot open or write the file does not throw, and nothing asks for its state.
-/

set_option autoImplicit false

namespace Ocvsmd.Engine

open Toml (Value Table Codec Library)

abbrev UniqueId := Fin 16 → UInt8

def ascii (cs : List Char) : Toml.Bytes := cs.map fun c => UInt8.ofNat c.toNat

def metaKey : Toml.Bytes := ascii ['_', '_', 'm', 'e', 't', 'a', '_', '_']
def lastModifiedKey : Toml.Bytes :=
  ascii ['l', 'a', 's', 't', '_', 'm', 'o', 'd', 'i', 'f', 'i', 'e', 'd']
def cyphalKey : Toml.Bytes := ascii ['c', 'y', 'p', 'h', 'a', 'l']
def applicationKey : Toml.Bytes :=
  ascii ['a', 'p', 'p', 'l', 'i', 'c', 'a', 't', 'i', 'o', 'n']
def uniqueIdKey : Toml.Bytes := ascii ['u', 'n', 'i', 'q', 'u', 'e', '_', 'i', 'd']
def fileServerKey : Toml.Bytes :=
  ascii ['f', 'i', 'l', 'e', '_', 's', 'e', 'r', 'v', 'e', 'r']
def rootsKey : Toml.Bytes := ascii ['r', 'o', 'o', 't', 's']

structure ConfigImpl where
  root : Table
  isDirty : Bool := false

/-- How a stream gets on with the file: it cannot open it, it writes only so much, or it
writes everything. A file that is opened is emptied first. -/
inductive Outcome where
  | openFailed : Outcome
  | cut : Nat → Outcome
  | whole : Outcome

def Outcome.file (outcome : Outcome) (text : Toml.Bytes) (file : Option Toml.Bytes) :
    Option Toml.Bytes :=
  match outcome with
  | .openFailed => file
  | .cut n => some (text.take n)
  | .whole => some text

structure State where
  file : Option Toml.Bytes
  config : Option ConfigImpl := none

namespace ConfigImpl

/-- Nothing in the configuration changes when a value that is no table throws. -/
def setCyphalAppUniqueId (toml : Library) (uniqueId : UniqueId) (c : ConfigImpl) :
    Option ConfigImpl :=
  (toml.assign c.root cyphalKey [applicationKey, uniqueIdKey] (toml.ofArray uniqueId)).map
    fun root => ⟨root, true⟩

def getCyphalAppUniqueId (toml : Library) (c : ConfigImpl) : Option UniqueId :=
  (toml.find c.root cyphalKey [applicationKey, uniqueIdKey]).bind toml.toArray

def setFileServerRoots (toml : Library) (roots : List Toml.Bytes) (c : ConfigImpl) :
    Option ConfigImpl :=
  (toml.assign c.root fileServerKey [rootsKey] (toml.ofStrings roots)).map
    fun root => ⟨root, true⟩

/-- The time is as it is written. What throws is caught, and leaves the flag. -/
def save (toml : Library) (now : Toml.Bytes) (outcome : Outcome) (file : Option Toml.Bytes)
    (c : ConfigImpl) : State :=
  if c.isDirty then
    match toml.assign c.root metaKey [lastModifiedKey] (.other now) with
    | none => ⟨file, some c⟩
    | some root => ⟨outcome.file (toml.format root) file, some ⟨root, false⟩⟩
  else ⟨file, some c⟩

/-- `Engine::getUniqueId`, with the bytes that are drawn. It may throw as the setter does. -/
def getUniqueId (toml : Library) (drawn : UniqueId) (now : Toml.Bytes) (outcome : Outcome)
    (file : Option Toml.Bytes) (c : ConfigImpl) : Option UniqueId × State :=
  match c.getCyphalAppUniqueId toml with
  | some uniqueId => (some uniqueId, ⟨file, some c⟩)
  | none =>
    match c.setCyphalAppUniqueId toml drawn with
    | none => (none, ⟨file, some c⟩)
    | some c' => (some drawn, c'.save toml now outcome file)

end ConfigImpl

inductive Action where
  | load : Action
  | setCyphalAppUniqueId : UniqueId → Action
  | setFileServerRoots : List Toml.Bytes → Action
  | save : Toml.Bytes → Outcome → Action
  | getUniqueId : UniqueId → Toml.Bytes → Outcome → Action

/-- `Config::make`, which throws if the file cannot be read or parsed. -/
def State.load (toml : Library) (s : State) : State :=
  { s with config := (s.file.bind toml.parse).map fun root => ⟨root, false⟩ }

def step (toml : Library) (s : State) : Action → Option State
  | .load => some (s.load toml)
  | .setCyphalAppUniqueId uniqueId =>
    s.config.map fun c => { s with config := some ((c.setCyphalAppUniqueId toml uniqueId).getD c) }
  | .setFileServerRoots roots =>
    s.config.map fun c => { s with config := some ((c.setFileServerRoots toml roots).getD c) }
  | .save now outcome => s.config.map fun c => c.save toml now outcome s.file
  | .getUniqueId drawn now outcome =>
    s.config.map fun c => (c.getUniqueId toml drawn now outcome s.file).2

def SameValues (t t' : Table) : Prop := ∀ k, k ≠ metaKey → t'.lookup k = t.lookup k

/-- Unless something has to be saved, the file has what is in memory. -/
def Clean (toml : Library) (s : State) : Prop :=
  ∀ c, s.config = some c → c.isDirty = false →
    ∃ root, s.file.bind toml.parse = some root ∧ SameValues c.root root

/-- The stream fails in none of the saves. -/
def Writes (toml : Library) (s : State) : Action → Prop
  | .save _ outcome => (∃ c, s.config = some c ∧ c.isDirty = true) → outcome = .whole
  | .getUniqueId _ _ outcome =>
    (∃ c, s.config = some c ∧ c.getCyphalAppUniqueId toml = none) → outcome = .whole
  | _ => True

theorem uniqueId_congr (toml : Library) {t t' : Table}
    (h : t'.lookup cyphalKey = t.lookup cyphalKey) :
    (toml.find t' cyphalKey [applicationKey, uniqueIdKey]).bind toml.toArray =
      (toml.find t cyphalKey [applicationKey, uniqueIdKey]).bind toml.toArray := by
  rw [toml.find_congr h]

theorem cyphal_ne_meta : cyphalKey ≠ metaKey := by decide

theorem cyphal_ne_fileServer : cyphalKey ≠ fileServerKey := by decide

namespace ConfigImpl

theorem setCyphalAppUniqueId_eq {toml : Library} {uniqueId : UniqueId} {c c' : ConfigImpl}
    (h : c.setCyphalAppUniqueId toml uniqueId = some c') :
    c'.isDirty = true ∧ c'.getCyphalAppUniqueId toml = some uniqueId := by
  obtain ⟨root, hroot, rfl⟩ := Option.map_eq_some_iff.mp h
  refine ⟨rfl, ?_⟩
  rw [getCyphalAppUniqueId, toml.find_assign hroot, Option.bind_some, toml.toArray_ofArray]

theorem setFileServerRoots_eq {toml : Library} {roots : List Toml.Bytes} {c c' : ConfigImpl}
    (h : c.setFileServerRoots toml roots = some c') :
    c'.isDirty = true ∧ c'.getCyphalAppUniqueId toml = c.getCyphalAppUniqueId toml := by
  obtain ⟨root, hroot, rfl⟩ := Option.map_eq_some_iff.mp h
  exact ⟨rfl, uniqueId_congr toml (toml.lookup_assign hroot cyphal_ne_fileServer)⟩

theorem save_cases (toml : Library) (now : Toml.Bytes) (outcome : Outcome)
    (file : Option Toml.Bytes) (c : ConfigImpl) :
    c.save toml now outcome file = ⟨file, some c⟩ ∨
    ∃ root, c.isDirty = true ∧
      toml.assign c.root metaKey [lastModifiedKey] (.other now) = some root ∧
      c.save toml now outcome file =
        ⟨outcome.file (toml.format root) file, some ⟨root, false⟩⟩ := by
  unfold save
  cases hd : c.isDirty with
  | false => exact Or.inl rfl
  | true =>
    cases hroot : toml.assign c.root metaKey [lastModifiedKey] (.other now) with
    | none => exact Or.inl rfl
    | some root => exact Or.inr ⟨root, rfl, rfl, rfl⟩

end ConfigImpl

theorem clean_save {toml : Library} {file : Option Toml.Bytes} {c : ConfigImpl}
    (h : Clean toml ⟨file, some c⟩) (now : Toml.Bytes) {outcome : Outcome}
    (hok : c.isDirty = true → outcome = .whole) : Clean toml (c.save toml now outcome file) := by
  rcases c.save_cases toml now outcome file with heq | ⟨root, hd, -, heq⟩
  · rwa [heq]
  · rw [heq, hok hd]
    rintro c' hc' -
    cases hc'
    exact ⟨root, toml.parse_format root, fun k _ => rfl⟩

theorem clean_of_dirty {toml : Library} {file : Option Toml.Bytes} {c : ConfigImpl}
    (h : c.isDirty = true) : Clean toml ⟨file, some c⟩ := by
  intro c' hc' hclean
  cases hc'
  rw [h] at hclean
  cases hclean

theorem clean_set {toml : Library} {s s' : State} (h : Clean toml s)
    {set : ConfigImpl → Option ConfigImpl}
    (hset : ∀ c c', set c = some c' → c'.isDirty = true)
    (hs : (s.config.map fun c => { s with config := some ((set c).getD c) }) = some s') :
    Clean toml s' := by
  obtain ⟨c, hc, rfl⟩ := Option.map_eq_some_iff.mp hs
  cases hc' : set c with
  | none =>
    rw [Option.getD_none, ← hc]
    exact h
  | some c' => exact clean_of_dirty (hset c c' hc')

theorem clean_step {toml : Library} {s s' : State} {a : Action} (h : Clean toml s)
    (hok : Writes toml s a) (hs : step toml s a = some s') : Clean toml s' := by
  cases a with
  | load =>
    cases hs
    intro c hc _
    obtain ⟨root, hroot, rfl⟩ := Option.map_eq_some_iff.mp hc
    exact ⟨root, hroot, fun k _ => rfl⟩
  | setCyphalAppUniqueId uniqueId =>
    exact clean_set h (fun _ _ hset => (ConfigImpl.setCyphalAppUniqueId_eq hset).1) hs
  | setFileServerRoots roots =>
    exact clean_set h (fun _ _ hset => (ConfigImpl.setFileServerRoots_eq hset).1) hs
  | save now outcome =>
    obtain ⟨c, hc, rfl⟩ := Option.map_eq_some_iff.mp hs
    refine clean_save ?_ now fun hd => hok ⟨c, hc, hd⟩
    rw [← hc]
    exact h
  | getUniqueId drawn now outcome =>
    obtain ⟨c, hc, rfl⟩ := Option.map_eq_some_iff.mp hs
    have hsame : Clean toml ⟨s.file, some c⟩ := by
      rw [← hc]
      exact h
    unfold ConfigImpl.getUniqueId
    cases hid : c.getCyphalAppUniqueId toml with
    | some uniqueId => exact hsame
    | none =>
      cases hset : c.setCyphalAppUniqueId toml drawn with
      | none => exact hsame
      | some c' =>
        exact clean_save (clean_of_dirty (ConfigImpl.setCyphalAppUniqueId_eq hset).1) now
          fun _ => hok ⟨c, hc, hid⟩

structure Keeps (toml : Library) (uniqueId : UniqueId) (s : State) : Prop where
  running : ∀ c, s.config = some c → c.getCyphalAppUniqueId toml = some uniqueId
  saved : ∃ root, s.file.bind toml.parse = some root ∧
    (toml.find root cyphalKey [applicationKey, uniqueIdKey]).bind toml.toArray = some uniqueId

theorem keeps_save {toml : Library} {uniqueId : UniqueId} {file : Option Toml.Bytes}
    {c : ConfigImpl} (h : Keeps toml uniqueId ⟨file, some c⟩) (now : Toml.Bytes)
    {outcome : Outcome} (hok : c.isDirty = true → outcome = .whole) :
    Keeps toml uniqueId (c.save toml now outcome file) := by
  rcases c.save_cases toml now outcome file with heq | ⟨root, hd, hroot, heq⟩
  · rwa [heq]
  · have hid : (toml.find root cyphalKey [applicationKey, uniqueIdKey]).bind toml.toArray =
        some uniqueId :=
      (uniqueId_congr toml (toml.lookup_assign hroot cyphal_ne_meta)).trans (h.running c rfl)
    rw [heq, hok hd]
    refine ⟨?_, root, toml.parse_format root, hid⟩
    intro c' hc'
    cases hc'
    exact hid

theorem keeps_step {toml : Library} {uniqueId : UniqueId} {s s' : State} {a : Action}
    (h : Keeps toml uniqueId s) (hok : Writes toml s a)
    (hset : ∀ other, a ≠ .setCyphalAppUniqueId other) (hs : step toml s a = some s') :
    Keeps toml uniqueId s' := by
  obtain ⟨root, hroot, hid⟩ := h.saved
  cases a with
  | load =>
    cases hs
    refine ⟨?_, root, hroot, hid⟩
    intro c hc
    rw [State.load, hroot] at hc
    cases hc
    exact hid
  | setCyphalAppUniqueId other => exact absurd rfl (hset other)
  | setFileServerRoots roots =>
    obtain ⟨c, hc, rfl⟩ := Option.map_eq_some_iff.mp hs
    refine ⟨?_, root, hroot, hid⟩
    intro c' hc'
    cases hset' : c.setFileServerRoots toml roots with
    | none =>
      rw [hset', Option.getD_none] at hc'
      cases hc'
      exact h.running c hc
    | some c'' =>
      rw [hset', Option.getD_some] at hc'
      cases hc'
      exact (ConfigImpl.setFileServerRoots_eq hset').2.trans (h.running c hc)
  | save now outcome =>
    obtain ⟨c, hc, rfl⟩ := Option.map_eq_some_iff.mp hs
    refine keeps_save ?_ now fun hd => hok ⟨c, hc, hd⟩
    rw [← hc]
    exact h
  | getUniqueId drawn now outcome =>
    obtain ⟨c, hc, rfl⟩ := Option.map_eq_some_iff.mp hs
    rw [ConfigImpl.getUniqueId, h.running c hc, ← hc]
    exact h

/-- An id is drawn, as there is none yet, and there is nothing to save afterwards. -/
structure Generated (toml : Library) (m : State) (drawn : UniqueId) (now : Toml.Bytes)
    (outcome : Outcome) (m' : State) : Prop where
  missing : ∀ c, m.config = some c → c.getCyphalAppUniqueId toml = none
  returned : ∃ c, m.config = some c ∧
    c.getUniqueId toml drawn now outcome m.file = (some drawn, m')
  clean : ∀ c, m'.config = some c → c.isDirty = false

theorem keeps_generated {toml : Library} {m m' : State} {drawn : UniqueId} {now : Toml.Bytes}
    {outcome : Outcome} (h : Generated toml m drawn now outcome m') (hclean : Clean toml m') :
    Keeps toml drawn m' := by
  obtain ⟨c, hc, hret⟩ := h.returned
  rw [ConfigImpl.getUniqueId, h.missing c hc] at hret
  cases hset : c.setCyphalAppUniqueId toml drawn with
  | none =>
    rw [hset] at hret
    cases hret
  | some c' =>
    rw [hset] at hret
    obtain ⟨hdirty, hid⟩ := ConfigImpl.setCyphalAppUniqueId_eq hset
    obtain ⟨-, hm⟩ := Prod.mk.inj hret
    rcases c'.save_cases toml now outcome m.file with heq | ⟨root, -, hroot, heq⟩
    · have hstill := h.clean c' (by rw [← hm, heq])
      rw [hdirty] at hstill
      cases hstill
    · rw [heq] at hm
      obtain ⟨saved, hsaved, hsame⟩ := hclean ⟨root, false⟩ (by rw [← hm]) rfl
      have hroot' : (toml.find root cyphalKey [applicationKey, uniqueIdKey]).bind toml.toArray =
          some drawn :=
        (uniqueId_congr toml (toml.lookup_assign hroot cyphal_ne_meta)).trans hid
      refine ⟨?_, saved, hsaved, (uniqueId_congr toml (hsame _ cyphal_ne_meta)).trans hroot'⟩
      intro c'' hc''
      rw [← hm] at hc''
      cases hc''
      exact hroot'

/-- As long as the stream fails in no save: unless there is something to save, the file has
what is in memory. And an id that was generated and saved is returned from then on, after
any number of restarts, unless another one is set. -/
theorem clean_config_is_saved (toml : Library) (file : Option Toml.Bytes) {as : List Action}
    {s : State} (hrun : Runs.run (step toml) ⟨file, none⟩ as = some s)
    (hok : Runs.Always (step toml) (Writes toml) ⟨file, none⟩ as) :
    Clean toml s ∧
    ∀ pre drawn now outcome post m m',
      as = pre ++ .getUniqueId drawn now outcome :: post →
      Runs.run (step toml) ⟨file, none⟩ pre = some m →
      Generated toml m drawn now outcome m' →
      (∀ other, .setCyphalAppUniqueId other ∉ post) →
      ∀ c, s.config = some c → ∀ drawn' now' outcome',
        c.getUniqueId toml drawn' now' outcome' s.file = (some drawn, s) := by
  have hinit : Clean toml ⟨file, none⟩ := by
    intro c hc
    cases hc
  refine ⟨Runs.run_guarded clean_step hinit hrun hok, ?_⟩
  rintro pre drawn now outcome post m m' rfl hpre hgen hset c hc drawn' now' outcome'
  obtain ⟨m₁, hm₁, hrest⟩ := Runs.run_append.mp hrun
  obtain ⟨m₂, hm₂, hpost⟩ := Runs.run_cons.mp hrest
  cases hpre.symm.trans hm₁
  have hm' : m₂ = m' := by
    obtain ⟨c₁, hc₁, hret⟩ := hgen.returned
    obtain ⟨c₂, hc₂, rfl⟩ := Option.map_eq_some_iff.mp hm₂
    cases hc₁.symm.trans hc₂
    rw [hret]
  subst hm'
  have hclean : Clean toml m₂ :=
    clean_step (Runs.run_guarded clean_step hinit hm₁ hok.left)
      ((Runs.always_cons.mp (hok.right hm₁)).1) hm₂
  have hboth : Runs.Always (step toml)
      (fun s a => Writes toml s a ∧ ∀ other, a ≠ .setCyphalAppUniqueId other) m₂ post := by
    intro pre' a post' k hsplit hk
    refine ⟨(Runs.always_cons.mp (hok.right hm₁)).2 m₂ hm₂ pre' a post' k hsplit hk, ?_⟩
    rintro other rfl
    exact hset other (by rw [hsplit]; simp)
  have hkeeps : Keeps toml drawn s :=
    Runs.run_guarded (fun hk ha hs => keeps_step hk ha.1 ha.2 hs)
      (keeps_generated hgen hclean) hpost hboth
  rw [ConfigImpl.getUniqueId, hkeeps.running c hc, ← hc]

def sampleId : UniqueId := fun i => UInt8.ofNat i.val

def sampleNow : Toml.Bytes := "2025-03-01T12:00:00.000000Z".toUTF8.toList

def sampleRoot : Table :=
  (Table.empty.put cyphalKey (Table.empty.put applicationKey
    (Table.empty.put uniqueIdKey (Value.ofArray sampleId)).value).value).put metaKey
      (Table.empty.put lastModifiedKey (.other sampleNow)).value

def sampleText : Toml.Bytes := 91 :: ("cyphal]\n[cyphal.application]\nunique_id = " ++
  "[0x00, 0x01, 0x02, 0x03, 0x04, 0x05, 0x06, 0x07, 0x08, 0x09, 0x0A, 0x0B, 0x0C, 0x0D, " ++
  "0x0E, 0x0F]\n\n[__meta__]\nlast_modified = 2025-03-01T12:00:00.000000Z\n"
  ).toUTF8.toList

theorem sampleRoot_ne_empty : sampleRoot ≠ Table.empty := by
  intro h
  have hmeta := congrArg (Table.lookup · metaKey) h
  simp [sampleRoot] at hmeta

/-- An empty table is an empty file. -/
theorem exists_sample_codec : ∃ toml : Codec, toml.format Table.empty = [] ∧
    toml.format sampleRoot = sampleText := by
  classical
  let known : Table → Option Toml.Bytes := fun t =>
    if t = Table.empty then some [] else if t = sampleRoot then some sampleText else none
  have hone : ∀ t t' text, known t = some text → known t' = some text → t = t' := by
    intro t t' text h h'
    simp only [known] at h h'
    by_cases he : t = Table.empty
    · rw [if_pos he] at h
      cases h
      by_cases he' : t' = Table.empty
      · rw [he, he']
      · rw [if_neg he'] at h'
        split at h' <;> cases h'
    · rw [if_neg he] at h
      split at h
      · next hs =>
        cases h
        by_cases he' : t' = Table.empty
        · rw [if_pos he'] at h'
          cases h'
        · rw [if_neg he'] at h'
          split at h'
          · next hs' => rw [hs, hs']
          · cases h'
      · cases h
  have hzero : ∀ t tail, known t ≠ some (0 :: tail) := by
    intro t tail h
    simp only [known] at h
    split at h
    · cases h
    · split at h
      · cases h
      · cases h
  obtain ⟨toml, htoml⟩ := Toml.exists_codec known hone hzero
  refine ⟨toml, htoml _ _ (if_pos rfl), htoml _ _ ?_⟩
  simp [known, sampleRoot_ne_empty]

/-- A configuration file that is empty, an id that is generated and saved, and a restart. -/
theorem clean_config_is_saved_sample : ∃ (toml : Codec) (s : State) (c : ConfigImpl),
    toml.format sampleRoot = sampleText ∧
    Runs.run (step toml.documented) ⟨some [], none⟩
      [.load, .getUniqueId sampleId sampleNow .whole, .load] = some s ∧
    s.file = some sampleText ∧ s.config = some c ∧ Clean toml.documented s ∧
    ∀ drawn now outcome,
      c.getUniqueId toml.documented drawn now outcome s.file = (some sampleId, s) := by
  obtain ⟨toml, hempty, hsample⟩ := exists_sample_codec
  have hparse : toml.documented.parse [] = some Table.empty := Codec.parse_eq hempty
  have hparse' : toml.documented.parse sampleText = some sampleRoot := Codec.parse_eq hsample
  have hmissing : (⟨Table.empty, false⟩ : ConfigImpl).getCyphalAppUniqueId toml.documented =
      none := by
    rw [ConfigImpl.getCyphalAppUniqueId, Codec.documented_find, Table.find, Table.lookup_empty]
    rfl
  have hset : (⟨Table.empty, false⟩ : ConfigImpl).setCyphalAppUniqueId toml.documented
      sampleId = some ⟨Table.empty.put cyphalKey (Table.empty.put applicationKey
        (Table.empty.put uniqueIdKey (Value.ofArray sampleId)).value).value, true⟩ := by
    rw [ConfigImpl.setCyphalAppUniqueId, Codec.documented_assign,
      Table.assign_missing (Table.lookup_empty _), Value.assign_empty, Value.assign_empty]
    rfl
  have hassign : toml.documented.assign (Table.empty.put cyphalKey (Table.empty.put applicationKey
      (Table.empty.put uniqueIdKey (Value.ofArray sampleId)).value).value) metaKey
        [lastModifiedKey] (.other sampleNow) = some sampleRoot := by
    rw [Codec.documented_assign, Table.assign_missing, Value.assign_empty]
    · rfl
    · rw [Table.lookup_put_ne _ cyphal_ne_meta.symm, Table.lookup_empty]
  have hformat : toml.documented.format sampleRoot = sampleText := hsample
  have hload : step toml.documented ⟨some [], none⟩ .load =
      some ⟨some [], some ⟨Table.empty, false⟩⟩ := by
    simp only [step, State.load, Option.bind_some, hparse, Option.map_some]
  have hget : (⟨Table.empty, false⟩ : ConfigImpl).getUniqueId toml.documented sampleId sampleNow
      .whole (some []) = (some sampleId, ⟨some sampleText, some ⟨sampleRoot, false⟩⟩) := by
    simp only [ConfigImpl.getUniqueId, hmissing, hset, ConfigImpl.save, if_true, hassign,
      Outcome.file, hformat]
  have hstep : step toml.documented ⟨some [], some ⟨Table.empty, false⟩⟩
      (.getUniqueId sampleId sampleNow .whole) =
      some ⟨some sampleText, some ⟨sampleRoot, false⟩⟩ := by
    simp only [step, Option.map_some, hget]
  have hreload : step toml.documented ⟨some sampleText, some ⟨sampleRoot, false⟩⟩ .load =
      some ⟨some sampleText, some ⟨sampleRoot, false⟩⟩ := by
    simp only [step, State.load, Option.bind_some, hparse', Option.map_some]
  have hpre : Runs.run (step toml.documented) ⟨some [], none⟩ [.load] =
      some ⟨some [], some ⟨Table.empty, false⟩⟩ := Runs.run_one.mpr hload
  have hrun : Runs.run (step toml.documented) ⟨some [], none⟩
      [.load, .getUniqueId sampleId sampleNow .whole, .load] =
      some ⟨some sampleText, some ⟨sampleRoot, false⟩⟩ :=
    Runs.run_cons.mpr ⟨_, hload, Runs.run_cons.mpr ⟨_, hstep, Runs.run_one.mpr hreload⟩⟩
  have hok : Runs.Always (step toml.documented) (Writes toml.documented) ⟨some [], none⟩
      [.load, .getUniqueId sampleId sampleNow .whole, .load] := by
    refine Runs.always_cons.mpr ⟨trivial, fun m _ => ?_⟩
    refine Runs.always_cons.mpr ⟨fun _ => rfl, fun m _ => ?_⟩
    exact Runs.always_cons.mpr ⟨trivial, fun m _ => Runs.always_nil⟩
  obtain ⟨hclean, hids⟩ := clean_config_is_saved toml.documented (some []) hrun hok
  refine ⟨toml, _, _, hsample, hrun, rfl, rfl, hclean, ?_⟩
  refine hids [.load] sampleId sampleNow .whole [.load] _ _ rfl hpre
    ⟨?_, ⟨_, rfl, hget⟩, ?_⟩ (by simp) _ rfl
  · intro c hc
    cases hc
    exact hmissing
  · intro c hc
    cases hc
    rfl

/-- The file cannot be opened, and the update is lost: nothing is left to be saved, and the
file has not got it. -/
theorem failed_save_is_clean : ¬ ∀ (toml : Library) (file : Option Toml.Bytes)
    (as : List Action) (s : State), Runs.run (step toml) ⟨file, none⟩ as = some s →
    Clean toml s := by
  intro h
  obtain ⟨toml, hempty, -⟩ := exists_sample_codec
  have hparse : toml.documented.parse [] = some Table.empty := Codec.parse_eq hempty
  obtain ⟨root, hroot, -⟩ := toml.documented.exists_assign
    (Or.inl (Table.lookup_empty fileServerKey)) rootsKey
    (toml.documented.ofStrings [ascii ['/', 't', 'm', 'p']])
  have hmeta : root.HasRoom metaKey := by
    left
    rw [toml.documented.lookup_assign hroot (by decide), Table.lookup_empty]
  obtain ⟨root', hroot', -⟩ := toml.documented.exists_assign hmeta lastModifiedKey
    (.other sampleNow)
  have hrun : Runs.run (step toml.documented) ⟨some [], none⟩
      [.load, .setFileServerRoots [ascii ['/', 't', 'm', 'p']], .save sampleNow .openFailed] =
      some ⟨some [], some ⟨root', false⟩⟩ := by
    simp only [Runs.run, step, State.load, Option.bind_some, hparse, Option.map_some,
      ConfigImpl.setFileServerRoots, hroot, Option.getD_some, ConfigImpl.save, if_true,
      hroot', Outcome.file]
  obtain ⟨saved, hsaved, hsame⟩ := h toml.documented (some []) _ _ hrun ⟨root', false⟩ rfl rfl
  rw [Option.bind_some, hparse] at hsaved
  cases hsaved
  have hroots := hsame fileServerKey (by decide)
  rw [Table.lookup_empty, toml.documented.lookup_assign hroot' (by decide)] at hroots
  have hfound := toml.documented.find_assign hroot
  rw [Codec.documented_find, Table.find, ← hroots, Option.bind_none] at hfound
  cases hfound

end Ocvsmd.Engine
