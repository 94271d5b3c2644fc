import Ocvsmd.Config

set_option autoImplicit false

namespace Ocvsmd.Engine

open Toml (Value Table Codec Library)

def transportKey : Toml.Bytes := ascii ['t', 'r', 'a', 'n', 's', 'p', 'o', 'r', 't']
def interfacesKey : Toml.Bytes := ascii ['i', 'n', 't', 'e', 'r', 'f', 'a', 'c', 'e', 's']
def nodeIdKey : Toml.Bytes := ascii ['n', 'o', 'd', 'e', '_', 'i', 'd']
def ipcKey : Toml.Bytes := ascii ['i', 'p', 'c']
def connectionsKey : Toml.Bytes :=
  ascii ['c', 'o', 'n', 'n', 'e', 'c', 't', 'i', 'o', 'n', 's']
def loggingKey : Toml.Bytes := ascii ['l', 'o', 'g', 'g', 'i', 'n', 'g']
def fileKey : Toml.Bytes := ascii ['f', 'i', 'l', 'e']
def levelKey : Toml.Bytes := ascii ['l', 'e', 'v', 'e', 'l']
def flushLevelKey : Toml.Bytes :=
  ascii ['f', 'l', 'u', 's', 'h', '_', 'l', 'e', 'v', 'e', 'l']

namespace ConfigImpl

/-- `findImpl`: what throws is no value. -/
def findImpl (toml : Library) {T : Type} (convert : Value → Option T) (k : Toml.Bytes)
    (ks : List Toml.Bytes) (c : ConfigImpl) : Option T :=
  (toml.find c.root k ks).bind convert

def findStrings (toml : Library) (k : Toml.Bytes) (ks : List Toml.Bytes) (c : ConfigImpl) :
    List Toml.Bytes :=
  (c.findImpl toml toml.toStrings k ks).getD []

def getCyphalAppNodeId (toml : Library) (c : ConfigImpl) : Option UInt16 :=
  c.findImpl toml toml.toUInt16 cyphalKey [applicationKey, nodeIdKey]

def getCyphalTransportInterfaces (toml : Library) (c : ConfigImpl) : List Toml.Bytes :=
  c.findStrings toml cyphalKey [transportKey, interfacesKey]

def getFileServerRoots (toml : Library) (c : ConfigImpl) : List Toml.Bytes :=
  c.findStrings toml fileServerKey [rootsKey]

def getIpcConnections (toml : Library) (c : ConfigImpl) : List Toml.Bytes :=
  c.findStrings toml ipcKey [connectionsKey]

def getLoggingFile (toml : Library) (c : ConfigImpl) : Option Toml.Bytes :=
  c.findImpl toml toml.asString loggingKey [fileKey]

def getLoggingLevel (toml : Library) (c : ConfigImpl) : Option Toml.Bytes :=
  c.findImpl toml toml.asString loggingKey [levelKey]

def getLoggingFlushLevel (toml : Library) (c : ConfigImpl) : Option Toml.Bytes :=
  c.findImpl toml toml.asString loggingKey [flushLevelKey]

theorem getUniqueId_cases (toml : Library) (drawn : UniqueId) (now : Toml.Bytes)
    (outcome : Outcome) (file : Option Toml.Bytes) (c : ConfigImpl) :
    c.getUniqueId toml drawn now outcome file =
      (c.getCyphalAppUniqueId toml, ⟨file, some c⟩) ∨
    ∃ root, c.getCyphalAppUniqueId toml = none ∧
      toml.assign c.root cyphalKey [applicationKey, uniqueIdKey] (toml.ofArray drawn) =
        some root ∧
      c.getUniqueId toml drawn now outcome file =
        (some drawn, (⟨root, true⟩ : ConfigImpl).save toml now outcome file) := by
  unfold getUniqueId
  cases hid : c.getCyphalAppUniqueId toml with
  | some uniqueId => exact Or.inl rfl
  | none =>
    cases hset : c.setCyphalAppUniqueId toml drawn with
    | none => exact Or.inl rfl
    | some c' =>
      obtain ⟨root, hroot, rfl⟩ := Option.map_eq_some_iff.mp hset
      exact Or.inr ⟨root, rfl, hroot, rfl⟩

end ConfigImpl

/-- Where the daemon writes. -/
def writtenPaths : List (List Toml.Bytes) :=
  [[cyphalKey, applicationKey, uniqueIdKey], [fileServerKey, rootsKey],
    [metaKey, lastModifiedKey]]

/-- A path that parts from all of these. -/
def Untouched (k : Toml.Bytes) (ks : List Toml.Bytes) : Prop :=
  ∀ path ∈ writtenPaths, Value.apart path (k :: ks) = true

instance (k : Toml.Bytes) (ks : List Toml.Bytes) : Decidable (Untouched k ks) :=
  inferInstanceAs (Decidable (∀ path ∈ writtenPaths, Value.apart path (k :: ks) = true))

def SameSettings (toml : Library) (t t' : Table) : Prop :=
  ∀ k ks, Untouched k ks → toml.find t' k ks = toml.find t k ks

theorem SameSettings.refl (toml : Library) (t : Table) : SameSettings toml t t :=
  fun _ _ _ => rfl

theorem SameSettings.assign {toml : Library} {t t' t'' : Table} {k : Toml.Bytes}
    {ks : List Toml.Bytes} {v : Value} (h : SameSettings toml t t') (hpath : k :: ks ∈ writtenPaths)
    (ha : toml.assign t' k ks v = some t'') : SameSettings toml t t'' := by
  intro k' ks' hk
  rw [toml.find_assign_apart (hk _ hpath) ha]
  exact h k' ks' hk

/-- Nothing that is read of the configuration, but the id and the roots, is written. -/
theorem SameSettings.getters {toml : Library} {t t' : Table} (h : SameSettings toml t t')
    (dirty dirty' : Bool) :
    let c : ConfigImpl := ⟨t, dirty⟩
    let c' : ConfigImpl := ⟨t', dirty'⟩
    c'.getCyphalAppNodeId toml = c.getCyphalAppNodeId toml ∧
    c'.getCyphalTransportInterfaces toml = c.getCyphalTransportInterfaces toml ∧
    c'.getIpcConnections toml = c.getIpcConnections toml ∧
    c'.getLoggingFile toml = c.getLoggingFile toml ∧
    c'.getLoggingLevel toml = c.getLoggingLevel toml ∧
    c'.getLoggingFlushLevel toml = c.getLoggingFlushLevel toml := by
  have hfind : ∀ {T : Type} (convert : Value → Option T) {k : Toml.Bytes}
      {ks : List Toml.Bytes}, Untouched k ks →
      (⟨t', dirty'⟩ : ConfigImpl).findImpl toml convert k ks =
        (⟨t, dirty⟩ : ConfigImpl).findImpl toml convert k ks :=
    fun convert k ks hk => congrArg (Option.bind · convert) (h k ks hk)
  exact ⟨hfind _ (by decide), congrArg (Option.getD · []) (hfind _ (by decide)),
    congrArg (Option.getD · []) (hfind _ (by decide)), hfind _ (by decide),
    hfind _ (by decide), hfind _ (by decide)⟩

/-- What the file has parses to a table with a property, and so does what is in memory. -/
structure Throughout (toml : Library) (P : Table → Prop) (s : State) : Prop where
  file : ∃ root, s.file.bind toml.parse = some root ∧ P root
  config : ∀ c, s.config = some c → P c.root

/-- What is written leaves the property. -/
def Stable (toml : Library) (P : Table → Prop) : Prop :=
  ∀ {t t' k ks v}, k :: ks ∈ writtenPaths → toml.assign t k ks v = some t' → P t → P t'

namespace Throughout

variable {toml : Library} {P : Table → Prop}

theorem set {s s' : State} (h : Throughout toml P s) (hP : Stable toml P) {k : Toml.Bytes}
    {ks : List Toml.Bytes} {v : Value} (hpath : k :: ks ∈ writtenPaths)
    (hs : (s.config.map fun c => { s with
      config := some (((toml.assign c.root k ks v).map fun root => ⟨root, true⟩).getD c) }) =
        some s') : Throughout toml P s' := by
  obtain ⟨c, hc, rfl⟩ := Option.map_eq_some_iff.mp hs
  refine ⟨h.file, ?_⟩
  rintro c' ⟨⟩
  cases ha : toml.assign c.root k ks v with
  | none => exact h.config c hc
  | some root => exact hP hpath ha (h.config c hc)

theorem save {file : Option Toml.Bytes} {c : ConfigImpl} (h : Throughout toml P ⟨file, some c⟩)
    (hP : Stable toml P) (now : Toml.Bytes) {outcome : Outcome}
    (hok : c.isDirty = true → outcome = .whole) :
    Throughout toml P (c.save toml now outcome file) := by
  rcases c.save_cases toml now outcome file with heq | ⟨root, hd, hroot, heq⟩
  · rwa [heq]
  · have hsaved : P root := hP (by simp [writtenPaths]) hroot (h.config c rfl)
    rw [heq, hok hd]
    refine ⟨⟨root, toml.parse_format root, hsaved⟩, ?_⟩
    rintro c' ⟨⟩
    exact hsaved

theorem step {s s' : State} {a : Action} (h : Throughout toml P s) (hP : Stable toml P)
    (hok : Writes toml s a) (hs : Engine.step toml s a = some s') : Throughout toml P s' := by
  cases a with
  | load =>
    cases hs
    obtain ⟨root, hroot, hparsed⟩ := h.file
    refine ⟨⟨root, hroot, hparsed⟩, ?_⟩
    intro c hc
    rw [State.load, hroot] at hc
    cases hc
    exact hparsed
  | setCyphalAppUniqueId uniqueId =>
    exact h.set hP (v := toml.ofArray uniqueId) (by simp [writtenPaths]) hs
  | setFileServerRoots roots =>
    exact h.set hP (v := toml.ofStrings roots) (by simp [writtenPaths]) hs
  | save now outcome =>
    obtain ⟨c, hc, rfl⟩ := Option.map_eq_some_iff.mp hs
    refine Throughout.save ?_ hP now fun hd => hok ⟨c, hc, hd⟩
    rw [← hc]
    exact h
  | getUniqueId drawn now outcome =>
    obtain ⟨c, hc, rfl⟩ := Option.map_eq_some_iff.mp hs
    rcases c.getUniqueId_cases toml drawn now outcome s.file with
      heq | ⟨root, hid, hroot, heq⟩
    · rw [heq, ← hc]
      exact h
    · rw [heq]
      have hassigned : Throughout toml P ⟨s.file, some ⟨root, true⟩⟩ := by
        refine ⟨h.file, ?_⟩
        rintro c' ⟨⟩
        exact hP (by simp [writtenPaths]) hroot (h.config c hc)
      exact hassigned.save hP now fun _ => hok ⟨c, hc, hid⟩

end Throughout

structure Settled (toml : Library) (t : Table) (s : State) : Prop where
  file : ∃ root, s.file.bind toml.parse = some root ∧ SameSettings toml t root
  config : ∀ c, s.config = some c → SameSettings toml t c.root

theorem Settled.step {toml : Library} {t : Table} {s s' : State} {a : Action}
    (h : Settled toml t s) (hok : Writes toml s a) (hs : Engine.step toml s a = some s') :
    Settled toml t s' := by
  have hall : Throughout toml (SameSettings toml t) s := ⟨h.file, h.config⟩
  have hnext := hall.step (fun hpath ha hsame => hsame.assign hpath ha) hok hs
  exact ⟨hnext.file, hnext.config⟩

/-- What an operator has configured stays: at every point of a run, with any number of
restarts, all that is not behind one of the three paths that are written is as it was in the
file at first, in memory and in the file, as long as the stream fails in no save. -/
theorem operator_settings_stay (toml : Library) {file : Option Toml.Bytes} {root : Table}
    (hfile : file.bind toml.parse = some root) {as : List Action} {s : State}
    (hrun : Runs.run (step toml) ⟨file, none⟩ as = some s)
    (hok : Runs.Always (step toml) (Writes toml) ⟨file, none⟩ as) :
    Settled toml root s ∧
    ∀ c, s.config = some c →
      c.getCyphalAppNodeId toml = (⟨root, false⟩ : ConfigImpl).getCyphalAppNodeId toml ∧
      c.getCyphalTransportInterfaces toml =
        (⟨root, false⟩ : ConfigImpl).getCyphalTransportInterfaces toml ∧
      c.getIpcConnections toml = (⟨root, false⟩ : ConfigImpl).getIpcConnections toml ∧
      c.getLoggingFile toml = (⟨root, false⟩ : ConfigImpl).getLoggingFile toml ∧
      c.getLoggingLevel toml = (⟨root, false⟩ : ConfigImpl).getLoggingLevel toml ∧
      c.getLoggingFlushLevel toml = (⟨root, false⟩ : ConfigImpl).getLoggingFlushLevel toml := by
  have hinit : Settled toml root ⟨file, none⟩ := by
    refine ⟨⟨root, hfile, SameSettings.refl toml root⟩, ?_⟩
    intro c hc
    cases hc
  have hsettled := Runs.run_guarded Settled.step hinit hrun hok
  exact ⟨hsettled, fun c hc => (hsettled.config c hc).getters false c.isDirty⟩

def sampleConnection : Toml.Bytes := ascii "unix-abstract:org.opencyphal.ocvsmd.ipc".toList

def sampleSettings : Table :=
  Table.empty.put ipcKey
    (Table.empty.put connectionsKey (Value.ofStrings [sampleConnection])).value

theorem sampleSettings_connections (toml : Codec) (dirty : Bool) :
    (⟨sampleSettings, dirty⟩ : ConfigImpl).getIpcConnections toml.documented =
      [sampleConnection] := by
  have hfind : toml.documented.find sampleSettings ipcKey [connectionsKey] =
      some (Value.ofStrings [sampleConnection]) := by
    rw [Codec.documented_find, sampleSettings, Table.find, Table.lookup_put_self,
      Option.bind_some]
    exact congrArg (Option.bind · (Value.find [])) (Table.lookup_put_self _ _ _)
  rw [ConfigImpl.getIpcConnections, ConfigImpl.findStrings, ConfigImpl.findImpl, hfind,
    Option.bind_some]
  exact congrArg (Option.getD · []) (Value.toStrings_ofStrings [sampleConnection])

/-- Roots are set and saved, and the daemon is started anew. -/
theorem operator_settings_stay_sample : ∃ (toml : Codec) (s : State) (c : ConfigImpl),
    Runs.run (step toml.documented) ⟨some (toml.format sampleSettings), none⟩
      [.load, .setFileServerRoots [], .save sampleNow .whole, .load] = some s ∧
    s.config = some c ∧ Settled toml.documented sampleSettings s ∧
    c.getIpcConnections toml.documented = [sampleConnection] := by
  obtain ⟨codec, -⟩ := exists_sample_codec
  let toml := codec.documented
  have hfile : (some (toml.format sampleSettings)).bind toml.parse = some sampleSettings :=
    toml.parse_format sampleSettings
  have hroots : sampleSettings.HasRoom fileServerKey := by
    left
    rw [sampleSettings, Table.lookup_put_ne _ (by decide), Table.lookup_empty]
  obtain ⟨root, hroot, -⟩ := toml.exists_assign hroots rootsKey (toml.ofStrings [])
  have hmeta : root.HasRoom metaKey := by
    left
    rw [toml.lookup_assign hroot (by decide), sampleSettings, Table.lookup_put_ne _ (by decide),
      Table.lookup_empty]
  obtain ⟨root', hroot', -⟩ := toml.exists_assign hmeta lastModifiedKey (.other sampleNow)
  have hset : (⟨sampleSettings, false⟩ : ConfigImpl).setFileServerRoots toml [] =
      some ⟨root, true⟩ := by
    rw [ConfigImpl.setFileServerRoots, hroot, Option.map_some]
  have hrun : Runs.run (step toml) ⟨some (toml.format sampleSettings), none⟩
      [.load, .setFileServerRoots [], .save sampleNow .whole, .load] =
        some ⟨some (toml.format root'), some ⟨root', false⟩⟩ := by
    simp [Runs.run, step, State.load, toml.parse_format, hset, ConfigImpl.save, hroot',
      Outcome.file]
  have hok : Runs.Always (step toml) (Writes toml) ⟨some (toml.format sampleSettings), none⟩
      [.load, .setFileServerRoots [], .save sampleNow .whole, .load] := by
    refine Runs.always_cons.mpr ⟨trivial, fun _ _ => ?_⟩
    refine Runs.always_cons.mpr ⟨trivial, fun _ _ => ?_⟩
    refine Runs.always_cons.mpr ⟨fun _ => rfl, fun _ _ => ?_⟩
    exact Runs.always_cons.mpr ⟨trivial, fun _ _ => Runs.always_nil⟩
  obtain ⟨hsettled, hgetters⟩ := operator_settings_stay toml hfile hrun hok
  refine ⟨codec, _, _, hrun, rfl, hsettled, ?_⟩
  rw [(hgetters _ rfl).2.2.1, sampleSettings_connections]

end Ocvsmd.Engine
