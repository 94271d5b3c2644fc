import Ocvsmd.Settings
import Ocvsmd.MediaCollections
import Ocvsmd.AddressRoundTrip

/-!
`Engine::init`: the transport, the node and its unique id, and the address that the IPC is
served at. A daemon that is started anew is the same node at the same address.
-/

set_option autoImplicit false
set_option linter.dupNamespace false

namespace Ocvsmd.Engine

open Toml (Codec Library Table Value)
open Ipc (Bytes)
open CString (text)
open Io (SocketAddress Inet)

inductive AnyTransportBag where
  | udp : UdpMediaCollection → AnyTransportBag
  | can : CanMediaCollection → AnyTransportBag

/-- How it goes with what `init` makes: the two transports, the interfaces that are opened,
the node ids that the transport takes, the node, the bytes that are drawn and saved, and the
start of the router. -/
structure InitAnswers where
  udpTransport : Bool
  canTransport : Bool := false
  openings : Nat → Bytes → Opening := fun _ _ => (-19, -19)
  setLocalNodeId : UInt16 → Bool := fun _ => true
  node : Bool := true
  drawn : UniqueId
  now : Toml.Bytes
  outcome : Outcome := .whole
  routerStart : Int32 := 0

/-- A string that gets too long throws. -/
def UdpTransportBag.make (toml : Library) (a : InitAnswers) (c : ConfigImpl) :
    Option (Option AnyTransportBag) :=
  (joinIfaces udpPrefix (c.getCyphalTransportInterfaces toml)).bind fun udpIfaces =>
    (UdpMediaCollection.parse (udpIfaces.length + 2) udpIfaces {}).map fun media =>
      if count media.mediaIfaces ≠ 0 ∧ a.udpTransport then some (.udp media) else none

def CanTransportBag.make (toml : Library) (a : InitAnswers) (c : ConfigImpl) :
    Option (Option AnyTransportBag) :=
  (joinIfaces canPrefix (c.getCyphalTransportInterfaces toml)).bind fun canIfaces =>
    (CanMediaCollection.parse a.openings (canIfaces.length + 2) canIfaces {}).map fun media =>
      if count media.mediaIfaces ≠ 0 ∧ a.canTransport then some (.can media) else none

def makeTransport (toml : Library) (a : InitAnswers) (c : ConfigImpl) :
    Option (Option AnyTransportBag) :=
  (UdpTransportBag.make toml a c).bind fun udp =>
    match udp with
    | some bag => some (some bag)
    | none => CanTransportBag.make toml a c

/-- What `init` leaves. Nobody asks whether the transport has taken the node id. -/
structure Engine where
  transportBag : AnyTransportBag
  localNodeId : Option UInt16
  uniqueId : UniqueId
  socketAddress : SocketAddress

/-- The node id of the transport: it takes the one that is configured, or has none. -/
def localNodeIdOf (toml : Library) (a : InitAnswers) (c : ConfigImpl) : Option UInt16 :=
  (c.getCyphalAppNodeId toml).filter a.setLocalNodeId

/-- The text of a failure, or the engine; `none` if it throws. -/
def Engine.init (toml : Library) (inet : Inet) (a : InitAnswers) (file : Option Toml.Bytes)
    (c : ConfigImpl) : Option (Except Bytes Engine) × State :=
  match makeTransport toml a c with
  | none => (none, ⟨file, some c⟩)
  | some none =>
    (some (.error (text "Failed to create Cyphal transport.".toList)), ⟨file, some c⟩)
  | some (some transportBag) =>
    if a.node then
      match c.getUniqueId toml a.drawn a.now a.outcome file with
      | (none, s) => (none, s)
      | (some uniqueId, s) =>
        match (s.config.getD c).getIpcConnections toml with
        | [] => (some (.error (text "No IPC connections configured.".toList)), s)
        | connection :: _ =>
          match SocketAddress.parse inet connection 0 with
          | .error _ => (some (.error (text "Failed to parse IPC connection.".toList)), s)
          | .ok socketAddress =>
            if a.routerStart = 0 then
              (some (.ok ⟨transportBag, localNodeIdOf toml a c, uniqueId, socketAddress⟩), s)
            else (some (.error (text "Failed to start IPC router.".toList)), s)
    else (some (.error (text "Failed to create cyphal node.".toList)), ⟨file, some c⟩)

/-- The media that were selected are in the bag, and there is one at least. -/
def AnyTransportBag.Carries (bag : AnyTransportBag) (toml : Library) (a : InitAnswers)
    (c : ConfigImpl) : Prop :=
  match bag with
  | .udp media => media.Holds (selectedUdp (c.getCyphalTransportInterfaces toml)) ∧
      selectedUdp (c.getCyphalTransportInterfaces toml) ≠ []
  | .can media => media.Holds (selectedCan a.openings (c.getCyphalTransportInterfaces toml)) ∧
      selectedCan a.openings (c.getCyphalTransportInterfaces toml) ≠ []

theorem carries_udp {toml : Library} {a : InitAnswers} {c : ConfigImpl} {bag : AnyTransportBag}
    (h : UdpTransportBag.make toml a c = some (some bag)) : bag.Carries toml a c := by
  obtain ⟨udpIfaces, hjoin, hmake⟩ := Option.bind_eq_some_iff.mp h
  obtain ⟨media, hparse, hbag⟩ := Option.map_eq_some_iff.mp hmake
  obtain ⟨⟨hcount, -⟩, hsome⟩ := Option.ite_none_right_eq_some.mp hbag
  cases hsome
  obtain ⟨media', hparse', hholds⟩ := UdpMediaCollection.holds_parse hjoin {}
  have hmedia : media = media' := by
    rw [hparse' _ le_rfl] at hparse
    exact (Option.some.inj hparse).symm
  subst hmedia
  refine ⟨hholds, fun hnone => hcount ?_⟩
  rw [hholds.counted, hnone, List.length_nil]

theorem carries_can {toml : Library} {a : InitAnswers} {c : ConfigImpl} {bag : AnyTransportBag}
    (h : CanTransportBag.make toml a c = some (some bag)) : bag.Carries toml a c := by
  obtain ⟨canIfaces, hjoin, hmake⟩ := Option.bind_eq_some_iff.mp h
  obtain ⟨media, hparse, hbag⟩ := Option.map_eq_some_iff.mp hmake
  obtain ⟨⟨hcount, -⟩, hsome⟩ := Option.ite_none_right_eq_some.mp hbag
  cases hsome
  obtain ⟨media', hparse', hholds⟩ := CanMediaCollection.holds_parse a.openings hjoin {}
  have hmedia : media = media' := by
    rw [hparse' _ le_rfl] at hparse
    exact (Option.some.inj hparse).symm
  subst hmedia
  refine ⟨hholds, fun hnone => hcount ?_⟩
  rw [hholds.counted, hnone, List.length_nil]

theorem carries_makeTransport {toml : Library} {a : InitAnswers} {c : ConfigImpl}
    {bag : AnyTransportBag} (h : makeTransport toml a c = some (some bag)) :
    bag.Carries toml a c := by
  obtain ⟨udp, hudp, hmake⟩ := Option.bind_eq_some_iff.mp h
  cases udp with
  | some bag' =>
    cases hmake
    exact carries_udp hudp
  | none => exact carries_can hmake

structure Engine.Configured (e : Engine) (toml : Library) (inet : Inet) (a : InitAnswers)
    (c : ConfigImpl) : Prop where
  media : e.transportBag.Carries toml a c
  localNodeId : e.localNodeId = localNodeIdOf toml a c
  uniqueId : e.uniqueId = (c.getCyphalAppUniqueId toml).getD a.drawn
  address : ∃ connection, (c.getIpcConnections toml).head? = some connection ∧
    SocketAddress.parse inet connection 0 = .ok e.socketAddress

/-- Where the state after `init` comes from. It is the same whether `init` fails or not. -/
theorem Engine.init_state (toml : Library) (inet : Inet) (a : InitAnswers)
    (file : Option Toml.Bytes) (c : ConfigImpl) :
    (Engine.init toml inet a file c).2 = ⟨file, some c⟩ ∨
    (Engine.init toml inet a file c).2 =
      (c.getUniqueId toml a.drawn a.now a.outcome file).2 := by
  unfold Engine.init
  split
  · exact Or.inl rfl
  · exact Or.inl rfl
  · split
    · right
      split
      · next heq => rw [heq]
      · next heq =>
        rw [heq]
        split
        · rfl
        · split
          · rfl
          · split <;> rfl
    · exact Or.inl rfl

theorem ConfigImpl.getUniqueId_eq {toml : Library} {drawn uniqueId : UniqueId} {now : Toml.Bytes}
    {outcome : Outcome} {file : Option Toml.Bytes} {c : ConfigImpl} {s : State}
    (h : c.getUniqueId toml drawn now outcome file = (some uniqueId, s)) :
    uniqueId = (c.getCyphalAppUniqueId toml).getD drawn := by
  rcases c.getUniqueId_cases toml drawn now outcome file with heq | ⟨root, hid, -, heq⟩
  · rw [h] at heq
    rw [← (Prod.mk.inj heq).1]
    rfl
  · rw [h] at heq
    rw [hid]
    exact Option.some.inj (Prod.mk.inj heq).1

theorem ConfigImpl.getUniqueId_found {toml : Library} {uniqueId : UniqueId} {c : ConfigImpl}
    (h : c.getCyphalAppUniqueId toml = some uniqueId) (drawn : UniqueId)
    (now : Toml.Bytes) (outcome : Outcome) (file : Option Toml.Bytes) :
    c.getUniqueId toml drawn now outcome file = (some uniqueId, ⟨file, some c⟩) := by
  rw [ConfigImpl.getUniqueId, h]

theorem ConfigImpl.getUniqueId_settings (toml : Library) (drawn : UniqueId)
    (now : Toml.Bytes) (outcome : Outcome) (file : Option Toml.Bytes) (c : ConfigImpl) :
    ∃ c', (c.getUniqueId toml drawn now outcome file).2.config = some c' ∧
      SameSettings toml c.root c'.root := by
  rcases c.getUniqueId_cases toml drawn now outcome file with heq | ⟨root, -, hroot, heq⟩
  · exact ⟨c, by rw [heq], SameSettings.refl toml _⟩
  · have hsame : SameSettings toml c.root root :=
      (SameSettings.refl toml c.root).assign (by simp [writtenPaths]) hroot
    rcases ConfigImpl.save_cases toml now outcome file ⟨root, true⟩ with
      hsave | ⟨root', -, hroot', hsave⟩
    · exact ⟨⟨root, true⟩, by rw [heq, hsave], hsame⟩
    · exact ⟨⟨root', false⟩, by rw [heq, hsave],
        hsame.assign (by simp [writtenPaths]) hroot'⟩

theorem Engine.init_eq_ok {toml : Library} {inet : Inet} {a : InitAnswers}
    {file : Option Toml.Bytes} {c : ConfigImpl} {e : Engine} {s : State}
    (h : Engine.init toml inet a file c = (some (.ok e), s)) :
    makeTransport toml a c = some (some e.transportBag) ∧
    c.getUniqueId toml a.drawn a.now a.outcome file = (some e.uniqueId, s) ∧
    e.localNodeId = localNodeIdOf toml a c ∧
    ∃ connection, (c.getIpcConnections toml).head? = some connection ∧
      SocketAddress.parse inet connection 0 = .ok e.socketAddress := by
  unfold Engine.init at h
  split at h
  · cases h
  · cases h
  · next bag hbag =>
    split at h
    · split at h
      · cases h
      · next uniqueId s' hid =>
        obtain ⟨c', hc', hsame⟩ := c.getUniqueId_settings toml a.drawn a.now a.outcome file
        have hconn : (s'.config.getD c).getIpcConnections toml = c.getIpcConnections toml := by
          rw [hid] at hc'
          rw [hc', Option.getD_some]
          exact (hsame.getters c.isDirty c'.isDirty).2.2.1
        rw [hconn] at h
        split at h
        · cases h
        · next connection rest hconnections =>
          split at h
          · cases h
          · next socketAddress hparse =>
            split at h
            · cases h
              exact ⟨hbag, hid, rfl, connection, by rw [hconnections]; rfl, hparse⟩
            · cases h
    · cases h

/-- With a transport and a node, `init` comes to the unique id. -/
theorem Engine.init_uniqueId {toml : Library} {inet : Inet} {a : InitAnswers}
    {file : Option Toml.Bytes} {c : ConfigImpl} {bag : AnyTransportBag}
    (hbag : makeTransport toml a c = some (some bag)) (hnode : a.node = true) :
    (Engine.init toml inet a file c).2 =
      (c.getUniqueId toml a.drawn a.now a.outcome file).2 := by
  simp only [Engine.init, hbag, if_pos hnode]
  split
  · next heq => rw [heq]
  · next heq =>
    rw [heq]
    split
    · rfl
    · split
      · rfl
      · split <;> rfl

theorem Engine.configured_of_init {toml : Library} {inet : Inet} {a : InitAnswers}
    {file : Option Toml.Bytes} {c : ConfigImpl} {e : Engine} {s : State}
    (h : Engine.init toml inet a file c = (some (.ok e), s)) : e.Configured toml inet a c := by
  obtain ⟨hbag, hid, hnode, haddress⟩ := Engine.init_eq_ok h
  exact ⟨carries_makeTransport hbag, hnode, ConfigImpl.getUniqueId_eq hid, haddress⟩

theorem localNodeIdOf_taken {toml : Library} {a : InitAnswers} {c : ConfigImpl}
    (h : ∀ nodeId ∈ c.getCyphalAppNodeId toml, a.setLocalNodeId nodeId = true) :
    localNodeIdOf toml a c = c.getCyphalAppNodeId toml := by
  unfold localNodeIdOf
  cases hid : c.getCyphalAppNodeId toml with
  | none => rfl
  | some nodeId => simp [h nodeId hid]

theorem makeTransport_congr (toml : Library) (a : InitAnswers) {c c' : ConfigImpl}
    (h : c'.getCyphalTransportInterfaces toml = c.getCyphalTransportInterfaces toml) :
    makeTransport toml a c' = makeTransport toml a c := by
  simp only [makeTransport, UdpTransportBag.make, CanTransportBag.make, h]

theorem makeTransport_udp {toml : Library} {a : InitAnswers} {c : ConfigImpl} {udpIfaces : Bytes}
    (hjoin : joinIfaces udpPrefix (c.getCyphalTransportInterfaces toml) = some udpIfaces)
    (hselected : selectedUdp (c.getCyphalTransportInterfaces toml) ≠ [])
    (ha : a.udpTransport = true) :
    ∃ bag, makeTransport toml a c = some (some bag) := by
  obtain ⟨media, hparse, hholds⟩ := UdpMediaCollection.holds_parse hjoin {}
  have hcount : count media.mediaIfaces ≠ 0 := by
    rw [hholds.counted]
    exact fun h => hselected (List.length_eq_zero_iff.mp h)
  refine ⟨.udp media, ?_⟩
  rw [makeTransport, UdpTransportBag.make, hjoin, Option.bind_some, hparse _ le_rfl,
    Option.map_some, if_pos ⟨hcount, ha⟩]
  rfl

theorem Engine.init_succeeds {toml : Library} {inet : Inet} {a : InitAnswers}
    {file : Option Toml.Bytes} {c : ConfigImpl} {bag : AnyTransportBag} {uniqueId : UniqueId}
    {s : State} {connection : Toml.Bytes} {socketAddress : SocketAddress}
    (hbag : makeTransport toml a c = some (some bag)) (hnode : a.node = true)
    (hid : c.getUniqueId toml a.drawn a.now a.outcome file = (some uniqueId, s))
    (hhead : (c.getIpcConnections toml).head? = some connection)
    (hparse : SocketAddress.parse inet connection 0 = .ok socketAddress)
    (hstart : a.routerStart = 0) :
    Engine.init toml inet a file c =
      (some (.ok ⟨bag, localNodeIdOf toml a c, uniqueId, socketAddress⟩), s) := by
  obtain ⟨c', hc', hsame⟩ := c.getUniqueId_settings toml a.drawn a.now a.outcome file
  obtain ⟨rest, hconnections⟩ := List.head?_eq_some_iff.mp hhead
  have hconn : (s.config.getD c).getIpcConnections toml = connection :: rest := by
    rw [hid] at hc'
    rw [hc', Option.getD_some, ← hconnections]
    exact (hsame.getters c.isDirty c'.isDirty).2.2.1
  simp only [Engine.init, hbag, if_pos hnode, hid, hconn, hparse, if_pos hstart]

/-- The table of the saves is there or not, but nothing else is in its place. -/
def MetaReady (t : Table) : Prop := t.HasRoom metaKey

theorem MetaReady.assign {toml : Library} {t t' : Table} {k : Toml.Bytes} {ks : List Toml.Bytes}
    {v : Value} (h : MetaReady t) (hk : metaKey ≠ k) (ha : toml.assign t k ks v = some t') :
    MetaReady t' := by
  unfold MetaReady Table.HasRoom
  rw [toml.lookup_assign ha hk]
  exact h

theorem MetaReady.exists_assign {t : Table} (h : MetaReady t) (toml : Library) (v : Value) :
    ∃ t', toml.assign t metaKey [lastModifiedKey] v = some t' ∧ MetaReady t' :=
  toml.exists_assign h lastModifiedKey v

theorem MetaReady.stable (toml : Library) : Stable toml MetaReady := by
  intro t t' k ks v hpath ha hready
  by_cases hk : k = metaKey
  · have hks : ks = [lastModifiedKey] := by
      subst hk
      simpa [writtenPaths, show metaKey ≠ cyphalKey by decide,
        show metaKey ≠ fileServerKey by decide] using hpath
    subst hk hks
    obtain ⟨t'', ha', hready'⟩ := hready.exists_assign toml v
    cases ha.symm.trans ha'
    exact hready'
  · exact hready.assign (Ne.symm hk) ha

theorem keeps_getUniqueId {toml : Library} {drawn : UniqueId} {now : Toml.Bytes}
    {file : Option Toml.Bytes} {c : ConfigImpl} (hfile : file.bind toml.parse = some c.root)
    (hready : MetaReady c.root) {uniqueId : UniqueId} {s : State}
    (h : c.getUniqueId toml drawn now .whole file = (some uniqueId, s)) :
    Keeps toml uniqueId s := by
  rcases c.getUniqueId_cases toml drawn now .whole file with heq | ⟨root, -, hroot, heq⟩
  · obtain ⟨hid, rfl⟩ := Prod.mk.inj (h.symm.trans heq)
    refine ⟨?_, c.root, hfile, hid.symm⟩
    rintro c' ⟨⟩
    exact hid.symm
  · obtain ⟨root', hroot', -⟩ := (hready.assign (by decide) hroot).exists_assign toml (.other now)
    obtain ⟨hid, rfl⟩ := Prod.mk.inj (h.symm.trans heq)
    cases hid
    have hsave : (⟨root, true⟩ : ConfigImpl).save toml now .whole file =
        ⟨some (toml.format root'), some ⟨root', false⟩⟩ := by
      simp only [ConfigImpl.save, if_true, hroot', Outcome.file]
    have hfind : (toml.find root' cyphalKey [applicationKey, uniqueIdKey]).bind toml.toArray =
        some drawn := by
      rw [uniqueId_congr toml (toml.lookup_assign hroot' cyphal_ne_meta),
        toml.find_assign hroot, Option.bind_some, toml.toArray_ofArray]
    rw [hsave]
    refine ⟨?_, root', toml.parse_format root', hfind⟩
    rintro c' ⟨⟩
    exact hfind

structure Lifecycle where
  state : State
  engine : Option Engine := none

inductive LifecycleAction where
  | start : InitAnswers → LifecycleAction
  | stop : Toml.Bytes → Outcome → LifecycleAction
  | crash : LifecycleAction

/-- The stream does not fail in the save. -/
def LifecycleAction.Writes : LifecycleAction → Prop
  | .start a => a.outcome = .whole
  | .stop _ outcome => outcome = .whole
  | .crash => True

def LifecycleAction.TakesNodeId (toml : Library) (c : ConfigImpl) : LifecycleAction → Prop
  | .start a => ∀ nodeId ∈ c.getCyphalAppNodeId toml, a.setLocalNodeId nodeId = true
  | .stop _ _ => True
  | .crash => True

/-- What a start draws and keeps, if it comes to the unique id and there was none. -/
def LifecycleAction.drawn (toml : Library) (c : ConfigImpl) : LifecycleAction → Option UniqueId
  | .start a =>
    if (makeTransport toml a c).join.isSome ∧ a.node ∧
        (c.setCyphalAppUniqueId toml a.drawn).isSome then
      some a.drawn
    else none
  | .stop _ _ => none
  | .crash => none

/-- The id in the file, or else the one that is drawn first. -/
def firstUniqueId (toml : Library) (c : ConfigImpl) (as : List LifecycleAction) : Option UniqueId :=
  (c.getCyphalAppUniqueId toml).or (as.findSome? (·.drawn toml c))

structure InitAnswers.GoesWell (a : InitAnswers) (toml : Library) (c : ConfigImpl) : Prop where
  transport : (makeTransport toml a c).join.isSome = true
  nodeId : ∀ nodeId ∈ c.getCyphalAppNodeId toml, a.setLocalNodeId nodeId = true
  node : a.node = true
  routerStart : a.routerStart = 0

namespace Lifecycle

/-- What `main` does of it. A daemon that fails to start is gone. -/
def step (toml : Library) (inet : Inet) (l : Lifecycle) : LifecycleAction → Option Lifecycle
  | .start a =>
    if l.engine.isSome then none
    else
      let s := l.state.load toml
      match s.config with
      | none => some ⟨⟨s.file, none⟩, none⟩
      | some c =>
        match Engine.init toml inet a s.file c with
        | (some (.ok engine), s') => some ⟨s', some engine⟩
        | (_, s') => some ⟨⟨s'.file, none⟩, none⟩
  | .stop now outcome =>
    if l.engine.isSome then
      l.state.config.map fun c => ⟨⟨(c.save toml now outcome l.state.file).file, none⟩, none⟩
    else none
  | .crash => some ⟨⟨l.state.file, none⟩, none⟩

/-- What the steps of the configuration preserve, those of the daemon preserve. -/
theorem preserves {toml : Library} {inet : Inet} {P : State → Prop}
    (hstep : ∀ {s a s'}, P s → Writes toml s a → (∀ other, a ≠ .setCyphalAppUniqueId other) →
      Engine.step toml s a = some s' → P s')
    (hdrop : ∀ {s}, P s → P ⟨s.file, none⟩) {l l' : Lifecycle} {a : LifecycleAction}
    (h : P l.state) (hok : a.Writes) (hs : l.step toml inet a = some l') : P l'.state := by
  cases a with
  | start a =>
    obtain ⟨-, hstart⟩ := Option.ite_none_left_eq_some.mp hs
    have hload : P (l.state.load toml) := hstep h (a := .load) trivial (by simp) rfl
    generalize l.state.load toml = s at hload hstart
    cases hc : s.config with
    | none =>
      simp only [hc] at hstart
      cases hstart
      exact hdrop hload
    | some c =>
      simp only [hc] at hstart
      have hinit : P (Engine.init toml inet a s.file c).2 := by
        rcases Engine.init_state toml inet a s.file c with heq | heq
        · rw [heq, ← hc]
          exact hload
        · rw [heq]
          refine hstep hload (a := .getUniqueId a.drawn a.now a.outcome) (fun _ => hok)
            (by simp) ?_
          rw [Engine.step, hc, Option.map_some]
      split at hstart
      · next engine s' heq =>
        cases hstart
        rw [heq] at hinit
        exact hinit
      · next result s' _ heq =>
        cases hstart
        rw [heq] at hinit
        exact hdrop hinit
  | stop now outcome =>
    obtain ⟨-, hstop⟩ := Option.ite_none_right_eq_some.mp hs
    obtain ⟨c, hc, rfl⟩ := Option.map_eq_some_iff.mp hstop
    refine hdrop (hstep h (a := .save now outcome) (fun _ => hok) (by simp) ?_)
    rw [Engine.step, hc, Option.map_some]
  | crash =>
    cases hs
    exact hdrop h

theorem engine_cases {toml : Library} {inet : Inet} {l l' : Lifecycle} {a : LifecycleAction}
    {e : Engine} (hs : l.step toml inet a = some l') (he : l'.engine = some e) :
    ∃ answers root, a = .start answers ∧ l.state.file.bind toml.parse = some root ∧
      Engine.init toml inet answers l.state.file ⟨root, false⟩ = (some (.ok e), l'.state) := by
  cases a with
  | start a =>
    obtain ⟨-, hstart⟩ := Option.ite_none_left_eq_some.mp hs
    cases hroot : l.state.file.bind toml.parse with
    | none =>
      simp only [State.load, hroot, Option.map_none] at hstart
      cases hstart
      cases he
    | some root =>
      simp only [State.load, hroot, Option.map_some] at hstart
      refine ⟨a, root, rfl, rfl, ?_⟩
      split at hstart
      · next engine s' heq =>
        cases hstart
        cases he
        exact heq
      · cases hstart
        cases he
  | stop now outcome =>
    obtain ⟨-, hstop⟩ := Option.ite_none_right_eq_some.mp hs
    obtain ⟨c, hc, rfl⟩ := Option.map_eq_some_iff.mp hstop
    cases he
  | crash =>
    cases hs
    cases he

/-- The engine that is up is the node that the configuration says it is. -/
structure Identified (toml : Library) (inet : Inet) (root : Table) (l : Lifecycle) : Prop where
  settled : Settled toml root l.state
  ready : Throughout toml MetaReady l.state
  keeps : ∀ e, l.engine = some e → Keeps toml e.uniqueId l.state
  localNodeId : ∀ e, l.engine = some e →
    e.localNodeId = (⟨root, false⟩ : ConfigImpl).getCyphalAppNodeId toml
  address : ∀ e, l.engine = some e → ∃ connection,
    ((⟨root, false⟩ : ConfigImpl).getIpcConnections toml).head? = some connection ∧
      SocketAddress.parse inet connection 0 = .ok e.socketAddress

theorem Identified.step {toml : Library} {inet : Inet} {root : Table} {l l' : Lifecycle}
    {a : LifecycleAction} (h : Identified toml inet root l) (hok : a.Writes)
    (htakes : a.TakesNodeId toml ⟨root, false⟩) (hs : l.step toml inet a = some l') :
    Identified toml inet root l' := by
  have hsettled : Settled toml root l'.state :=
    preserves (fun hP hw _ hstep => hP.step hw hstep)
      (fun hP => ⟨hP.file, fun c hc => by cases hc⟩) h.settled hok hs
  have hready : Throughout toml MetaReady l'.state :=
    preserves (fun hP hw _ hstep => hP.step (MetaReady.stable toml) hw hstep)
      (fun hP => ⟨hP.file, fun c hc => by cases hc⟩) h.ready hok hs
  have hmade : ∀ e, l'.engine = some e →
      Keeps toml e.uniqueId l'.state ∧
      e.localNodeId = (⟨root, false⟩ : ConfigImpl).getCyphalAppNodeId toml ∧
      ∃ connection, ((⟨root, false⟩ : ConfigImpl).getIpcConnections toml).head? = some connection ∧
        SocketAddress.parse inet connection 0 = .ok e.socketAddress := by
    intro e he
    obtain ⟨answers, root', rfl, hroot', hinit⟩ := engine_cases hs he
    obtain ⟨root'', hroot'', hsame⟩ := h.settled.file
    cases hroot'.symm.trans hroot''
    have hgetters := hsame.getters false false
    obtain ⟨-, hid, hnode, connection, hhead, hparse⟩ := Engine.init_eq_ok hinit
    have hwhole : answers.outcome = .whole := hok
    rw [hwhole] at hid
    obtain ⟨ready, hparsed, hmeta⟩ := h.ready.file
    cases hroot'.symm.trans hparsed
    have hkeeps := keeps_getUniqueId hroot' hmeta hid
    have htaken : localNodeIdOf toml answers ⟨root', false⟩ =
        (⟨root, false⟩ : ConfigImpl).getCyphalAppNodeId toml := by
      have hsameId := hgetters.1
      rw [← hsameId]
      exact localNodeIdOf_taken (hsameId ▸ htakes)
    exact ⟨hkeeps, hnode.trans htaken, connection, by rw [← hgetters.2.2.1, hhead], hparse⟩
  exact ⟨hsettled, hready, fun e he => (hmade e he).1, fun e he => (hmade e he).2.1,
    fun e he => (hmade e he).2.2⟩

theorem identified_init {toml : Library} {inet : Inet} {file : Option Toml.Bytes} {root : Table}
    (hfile : file.bind toml.parse = some root) (hmeta : MetaReady root) :
    Identified toml inet root ⟨⟨file, none⟩, none⟩ where
  settled := ⟨⟨root, hfile, SameSettings.refl toml root⟩, fun c hc => by cases hc⟩
  ready := ⟨⟨root, hfile, hmeta⟩, fun c hc => by cases hc⟩
  keeps := fun _ he => by cases he
  localNodeId := fun _ he => by cases he
  address := fun _ he => by cases he

theorem keeps_preserved {toml : Library} {inet : Inet} {uniqueId : UniqueId}
    {l l' : Lifecycle} {a : LifecycleAction} (h : Keeps toml uniqueId l.state) (hok : a.Writes)
    (hs : l.step toml inet a = some l') : Keeps toml uniqueId l'.state :=
  preserves (fun hP hw hset hstep => keeps_step hP hw hset hstep)
    (fun hP => ⟨fun c hc => (by cases hc), hP.saved⟩) h hok hs

theorem always_writes {toml : Library} {inet : Inet} {P : LifecycleAction → Prop} {l : Lifecycle}
    {as : List LifecycleAction} (h : ∀ a ∈ as, P a) :
    Runs.Always (Lifecycle.step toml inet) (fun _ a => P a) l as := by
  intro before a after m hsplit _
  exact h a (by rw [hsplit]; simp)

theorem Keeps.run {toml : Library} {inet : Inet} {uniqueId : UniqueId} {l l' : Lifecycle}
    {as : List LifecycleAction} (h : Keeps toml uniqueId l.state) (hok : ∀ a ∈ as, a.Writes)
    (hrun : Runs.run (Lifecycle.step toml inet) l as = some l') : Keeps toml uniqueId l'.state :=
  Runs.run_guarded (P := fun l : Lifecycle => Keeps toml uniqueId l.state) keeps_preserved h hrun
    (always_writes hok)

def Bare (file : Option Toml.Bytes) (l : Lifecycle) : Prop := l = ⟨⟨file, none⟩, none⟩

theorem undrawn (toml : Library) (inet : Inet) {a : InitAnswers} (file : Option Toml.Bytes)
    {c : ConfigImpl} (hnone : c.getCyphalAppUniqueId toml = none)
    (hd : LifecycleAction.drawn toml c (.start a) = none) :
    (Engine.init toml inet a file c).2 = ⟨file, some c⟩ ∧
      ∀ e, (Engine.init toml inet a file c).1 ≠ some (.ok e) := by
  unfold Engine.init
  split
  · exact ⟨rfl, fun e h => by cases h⟩
  · exact ⟨rfl, fun e h => by cases h⟩
  · next bag hbag =>
    split
    · next hnode =>
      have hset : c.setCyphalAppUniqueId toml a.drawn = none := by
        simpa [LifecycleAction.drawn, hbag, hnode] using hd
      simp only [ConfigImpl.getUniqueId, hnone, hset]
      exact ⟨trivial, fun e h => by cases h⟩
    · exact ⟨rfl, fun e h => by cases h⟩

theorem drawn_kept {toml : Library} (inet : Inet) {a : InitAnswers} {file : Option Toml.Bytes}
    {root : Table} (hfile : file.bind toml.parse = some root) (hmeta : MetaReady root)
    (hnone : (⟨root, false⟩ : ConfigImpl).getCyphalAppUniqueId toml = none)
    (hwhole : a.outcome = .whole) {uniqueId : UniqueId}
    (hd : LifecycleAction.drawn toml ⟨root, false⟩ (.start a) = some uniqueId) :
    Keeps toml uniqueId (Engine.init toml inet a file ⟨root, false⟩).2 := by
  obtain ⟨⟨htransport, hnode, hset⟩, hdrawn⟩ := Option.ite_none_right_eq_some.mp hd
  cases hdrawn
  obtain ⟨bag, hbag⟩ := Option.isSome_iff_exists.mp htransport
  obtain ⟨c, hc⟩ := Option.isSome_iff_exists.mp hset
  rw [Engine.init_uniqueId (Option.join_eq_some_iff.mp hbag) hnode, hwhole]
  refine @keeps_getUniqueId toml a.drawn a.now file ⟨root, false⟩ hfile hmeta _ _ ?_
  simp only [ConfigImpl.getUniqueId, hnone, hc]

theorem Bare.step {toml : Library} {inet : Inet} {file : Option Toml.Bytes} {root : Table}
    (hfile : file.bind toml.parse = some root) (hmeta : MetaReady root)
    (hnone : (⟨root, false⟩ : ConfigImpl).getCyphalAppUniqueId toml = none) {l l' : Lifecycle}
    {a : LifecycleAction} (h : Bare file l) (hok : a.Writes) (hs : l.step toml inet a = some l') :
    (Bare file l' ∧ a.drawn toml ⟨root, false⟩ = none) ∨
      ∃ uniqueId, a.drawn toml ⟨root, false⟩ = some uniqueId ∧ Keeps toml uniqueId l'.state := by
  cases a with
  | crash =>
    subst h
    cases hs
    exact Or.inl ⟨rfl, rfl⟩
  | stop now outcome =>
    subst h
    cases hs
  | start a =>
    obtain ⟨-, hs⟩ := Option.ite_none_left_eq_some.mp hs
    subst h
    simp only [State.load, hfile, Option.map_some] at hs
    cases hd : LifecycleAction.drawn toml ⟨root, false⟩ (.start a) with
    | none =>
      obtain ⟨hstate, hfails⟩ := undrawn toml inet file hnone hd
      refine Or.inl ⟨?_, rfl⟩
      split at hs
      · next engine s' heq => exact absurd (congrArg Prod.fst heq) (hfails engine)
      · next result s' _ heq =>
        cases hs
        rw [heq] at hstate
        cases hstate
        rfl
    | some uniqueId =>
      have hkeeps := drawn_kept inet hfile hmeta hnone hok hd
      refine Or.inr ⟨uniqueId, rfl, ?_⟩
      split at hs
      · next engine s' heq =>
        cases hs
        rw [heq] at hkeeps
        exact hkeeps
      · next result s' _ heq =>
        cases hs
        rw [heq] at hkeeps
        exact ⟨fun c hc => (by cases hc), hkeeps.saved⟩

/-- As long as nothing is drawn the file is as it was, and what is drawn first stays. -/
theorem Bare.run {toml : Library} {inet : Inet} {file : Option Toml.Bytes} {root : Table}
    (hfile : file.bind toml.parse = some root) (hmeta : MetaReady root)
    (hnone : (⟨root, false⟩ : ConfigImpl).getCyphalAppUniqueId toml = none) {l l' : Lifecycle}
    {as : List LifecycleAction} (h : Bare file l) (hok : ∀ a ∈ as, a.Writes)
    (hrun : Runs.run (Lifecycle.step toml inet) l as = some l') :
    Bare file l' ∨ ∃ uniqueId, as.findSome? (·.drawn toml ⟨root, false⟩) = some uniqueId ∧
      Keeps toml uniqueId l'.state := by
  induction as generalizing l with
  | nil =>
    cases hrun
    exact Or.inl h
  | cons a as ih =>
    obtain ⟨m, hm, hrun⟩ := Runs.run_cons.mp hrun
    have hok' : ∀ a ∈ as, a.Writes := fun a ha => hok a (List.mem_cons_of_mem _ ha)
    rcases h.step hfile hmeta hnone (hok a List.mem_cons_self) hm with
      ⟨hbare, hdrawn⟩ | ⟨uniqueId, hdrawn, hkeeps⟩
    · rw [List.findSome?_cons, hdrawn]
      exact ih hbare hok' hrun
    · right
      rw [List.findSome?_cons, hdrawn]
      exact ⟨uniqueId, rfl, Keeps.run hkeeps hok' hrun⟩

/-- The node that a configuration describes, with the id that stands first. -/
structure IsNode (toml : Library) (inet : Inet) (c : ConfigImpl) (as : List LifecycleAction)
    (e : Engine) : Prop where
  uniqueId : some e.uniqueId = firstUniqueId toml c as
  localNodeId : e.localNodeId = c.getCyphalAppNodeId toml
  address : ∃ connection, (c.getIpcConnections toml).head? = some connection ∧
    SocketAddress.parse inet connection 0 = .ok e.socketAddress

structure SameNode (e e' : Engine) : Prop where
  uniqueId : e'.uniqueId = e.uniqueId
  localNodeId : e'.localNodeId = e.localNodeId
  socketAddress : e'.socketAddress = e.socketAddress

theorem Identified.isNode {toml : Library} {inet : Inet} {file : Option Toml.Bytes} {root : Table}
    (hfile : file.bind toml.parse = some root) (hmeta : MetaReady root)
    {as : List LifecycleAction} {l : Lifecycle} {e : Engine}
    (hrun : Runs.run (Lifecycle.step toml inet) ⟨⟨file, none⟩, none⟩ as = some l)
    (hok : ∀ a ∈ as, a.Writes) (h : Identified toml inet root l) (he : l.engine = some e) :
    IsNode toml inet ⟨root, false⟩ as e where
  localNodeId := h.localNodeId e he
  address := h.address e he
  uniqueId := by
    have hid : ∀ uniqueId, Keeps toml uniqueId l.state → e.uniqueId = uniqueId := by
      intro uniqueId hkeeps
      obtain ⟨saved, hsaved, hfirst⟩ := hkeeps.saved
      obtain ⟨saved', hsaved', hlast⟩ := (h.keeps e he).saved
      cases hsaved.symm.trans hsaved'
      exact Option.some.inj (hlast.symm.trans hfirst)
    unfold firstUniqueId
    cases hstored : (⟨root, false⟩ : ConfigImpl).getCyphalAppUniqueId toml with
    | some uniqueId =>
      have hkeeps : Keeps toml uniqueId (⟨file, none⟩ : State) :=
        ⟨fun c hc => (by cases hc), root, hfile, hstored⟩
      rw [hid uniqueId (Keeps.run hkeeps hok hrun), Option.some_or]
    | none =>
      rw [Option.none_or]
      rcases Bare.run hfile hmeta hstored rfl hok hrun with hbare | ⟨uniqueId, hdrawn, hkeeps⟩
      · rw [hbare] at he
        cases he
      · rw [hid uniqueId hkeeps, hdrawn]

theorem Identified.same {toml : Library} {inet : Inet} {root : Table} {m l : Lifecycle}
    {e e' : Engine} (hm : Identified toml inet root m) (hl : Identified toml inet root l)
    (he : m.engine = some e) (he' : l.engine = some e')
    (hkeeps : Keeps toml e.uniqueId l.state) : SameNode e e' := by
  obtain ⟨saved, hsaved, hid⟩ := hkeeps.saved
  obtain ⟨saved', hsaved', hid'⟩ := (hl.keeps e' he').saved
  cases hsaved.symm.trans hsaved'
  obtain ⟨connection, hhead, hparse⟩ := hm.address e he
  obtain ⟨connection', hhead', hparse'⟩ := hl.address e' he'
  cases hhead.symm.trans hhead'
  exact ⟨Option.some.inj (hid'.symm.trans hid),
    (hl.localNodeId e' he').trans (hm.localNodeId e he).symm,
    Except.ok.inj (hparse'.symm.trans hparse)⟩

/-- Where an engine has been up, one comes up again. -/
theorem Identified.starts_again {toml : Library} {inet : Inet} {root : Table} {l : Lifecycle}
    {e : Engine} {as : List LifecycleAction} (h : Identified toml inet root l)
    (hnode : IsNode toml inet ⟨root, false⟩ as e) (hkeeps : Keeps toml e.uniqueId l.state)
    (hdown : l.engine = none) {a : InitAnswers} (ha : a.GoesWell toml ⟨root, false⟩) :
    ∃ l' e', l.step toml inet (.start a) = some l' ∧ l'.engine = some e' ∧ SameNode e e' := by
  obtain ⟨root', hroot', hsame⟩ := h.settled.file
  have hgetters := hsame.getters false false
  obtain ⟨saved, hsaved, hid⟩ := hkeeps.saved
  cases hsaved.symm.trans hroot'
  obtain ⟨bag, hbag⟩ := Option.isSome_iff_exists.mp ha.transport
  rw [← makeTransport_congr toml a hgetters.2.1] at hbag
  obtain ⟨connection, hhead, hparse⟩ := hnode.address
  rw [← hgetters.2.2.1] at hhead
  have hfound := ConfigImpl.getUniqueId_found (c := ⟨root', false⟩) hid a.drawn a.now
    a.outcome l.state.file
  have hinit := Engine.init_succeeds (Option.join_eq_some_iff.mp hbag) ha.node hfound hhead
    hparse ha.routerStart
  have htaken : localNodeIdOf toml a ⟨root', false⟩ = e.localNodeId := by
    rw [hnode.localNodeId, ← hgetters.1]
    exact localNodeIdOf_taken (hgetters.1 ▸ ha.nodeId)
  let e' : Engine := ⟨bag, localNodeIdOf toml a ⟨root', false⟩, e.uniqueId, e.socketAddress⟩
  refine ⟨⟨⟨l.state.file, some ⟨root', false⟩⟩, some e'⟩, e', ?_, rfl, ⟨rfl, htaken, rfl⟩⟩
  simp only [Lifecycle.step, hdown, State.load, hroot', Option.map_some, hinit]
  rfl

/-- However often the daemon stops or crashes and is started anew, it is the same node, and
is found at the same address: the id that is stored or that the first start draws is that of
all the later ones, and a start where all goes well brings it up again. The stream fails in
no save, and the table of the saves can be written, as an id is drawn at each start
otherwise. -/
theorem same_node_after_restarts (toml : Library) (inet : Inet) {file : Option Toml.Bytes}
    {root : Table} (hfile : file.bind toml.parse = some root) (hmeta : MetaReady root)
    {pre post : List LifecycleAction} {m l : Lifecycle} {e : Engine}
    (hpre : Runs.run (Lifecycle.step toml inet) ⟨⟨file, none⟩, none⟩ pre = some m)
    (hpost : Runs.run (Lifecycle.step toml inet) m post = some l)
    (hok : ∀ a ∈ pre ++ post, a.Writes ∧ a.TakesNodeId toml ⟨root, false⟩)
    (he : m.engine = some e) :
    IsNode toml inet ⟨root, false⟩ pre e ∧
    (∀ e', l.engine = some e' → SameNode e e') ∧
    (l.engine = none → ∀ a : InitAnswers, a.GoesWell toml ⟨root, false⟩ →
      ∃ l' e', l.step toml inet (.start a) = some l' ∧ l'.engine = some e' ∧ SameNode e e') := by
  have hbefore : ∀ a ∈ pre, a.Writes ∧ a.TakesNodeId toml ⟨root, false⟩ :=
    fun a ha => hok a (List.mem_append_left _ ha)
  have hafter : ∀ a ∈ post, a.Writes ∧ a.TakesNodeId toml ⟨root, false⟩ :=
    fun a ha => hok a (List.mem_append_right _ ha)
  have hm : Identified toml inet root m :=
    Runs.run_guarded (fun h hw hs => h.step hw.1 hw.2 hs) (identified_init hfile hmeta) hpre
      (always_writes hbefore)
  have hl : Identified toml inet root l :=
    Runs.run_guarded (fun h hw hs => h.step hw.1 hw.2 hs) hm hpost (always_writes hafter)
  have hkeeps : Keeps toml e.uniqueId l.state :=
    Keeps.run (hm.keeps e he) (fun a ha => (hafter a ha).1) hpost
  have hnode := hm.isNode hfile hmeta hpre (fun a ha => (hbefore a ha).1) he
  exact ⟨hnode, fun e' he' => hm.same hl he he' hkeeps,
    fun hdown a ha => hl.starts_again hnode hkeeps hdown ha⟩

def sampleInterface : Toml.Bytes := ascii "udp://127.0.0.1".toList

def sampleNode : Table :=
  sampleSettings.put cyphalKey (Table.empty.put transportKey
    (Table.empty.put interfacesKey (Value.ofStrings [sampleInterface])).value).value

theorem sampleNode_interfaces (toml : Codec) (dirty : Bool) :
    (⟨sampleNode, dirty⟩ : ConfigImpl).getCyphalTransportInterfaces toml.documented =
      [sampleInterface] := by
  have hfind : toml.documented.find sampleNode cyphalKey [transportKey, interfacesKey] =
      some (Value.ofStrings [sampleInterface]) := by
    rw [Codec.documented_find, sampleNode, Table.find, Table.lookup_put_self, Option.bind_some]
    have hinner := Table.lookup_put_self Table.empty interfacesKey
      (Value.ofStrings [sampleInterface])
    have houter := Table.lookup_put_self Table.empty transportKey
      (Table.empty.put interfacesKey (Value.ofStrings [sampleInterface])).value
    exact (congrArg (Option.bind · (Value.find [interfacesKey])) houter).trans
      (congrArg (Option.bind · (Value.find [])) hinner)
  rw [ConfigImpl.getCyphalTransportInterfaces, ConfigImpl.findStrings, ConfigImpl.findImpl,
    hfind, Option.bind_some]
  exact congrArg (Option.getD · []) (Value.toStrings_ofStrings [sampleInterface])

theorem sampleNode_meta : MetaReady sampleNode := by
  left
  rw [sampleNode, Table.lookup_put_ne _ (by decide), sampleSettings,
    Table.lookup_put_ne _ (by decide), Table.lookup_empty]

def sampleAnswers (drawn : UniqueId) : InitAnswers :=
  { udpTransport := true, drawn, now := sampleNow }

theorem sampleNode_noId (toml : Codec) (dirty : Bool) :
    (⟨sampleNode, dirty⟩ : ConfigImpl).getCyphalAppUniqueId toml.documented = none := by
  rw [ConfigImpl.getCyphalAppUniqueId, Codec.documented_find, sampleNode, Table.find,
    Table.lookup_put_self, Option.bind_some]
  have hnone : (Table.empty.put transportKey
      (Table.empty.put interfacesKey (Value.ofStrings [sampleInterface])).value).lookup
        applicationKey = none := by
    rw [Table.lookup_put_ne _ (by decide), Table.lookup_empty]
  exact congrArg (fun v => (v.bind (Value.find [uniqueIdKey])).bind Value.toArray) hnone

theorem sampleNode_starts {toml : Codec} {file : Option Toml.Bytes} {root : Table}
    (hfile : file.bind toml.documented.parse = some root)
    (hsame : SameSettings toml.documented sampleNode root)
    {drawn uniqueId : UniqueId} {s : State}
    (hid : (⟨root, false⟩ : ConfigImpl).getUniqueId toml.documented drawn sampleNow .whole file =
      (some uniqueId, s)) :
    ∃ e : Engine, e.uniqueId = uniqueId ∧
      Lifecycle.step toml.documented Io.plainInet ⟨⟨file, none⟩, none⟩
        (.start (sampleAnswers drawn)) = some ⟨s, some e⟩ := by
  have hgetters := hsame.getters false false
  have hinterfaces : (⟨root, false⟩ : ConfigImpl).getCyphalTransportInterfaces toml.documented =
      [sampleInterface] := hgetters.2.1.trans (sampleNode_interfaces toml false)
  have hconnections : (⟨sampleNode, false⟩ : ConfigImpl).getIpcConnections toml.documented =
      [sampleConnection] := by
    have hlookup : sampleNode.lookup ipcKey = sampleSettings.lookup ipcKey :=
      Table.lookup_put_ne _ (by decide) _
    have hfind := congrArg (fun v => (v.bind Value.toStrings).getD [])
      (Table.find_congr hlookup [connectionsKey])
    exact Eq.trans hfind (sampleSettings_connections toml false)
  obtain ⟨udpIfaces, hjoin⟩ : ∃ s, joinIfaces udpPrefix [sampleInterface] = some s :=
    Option.isSome_iff_exists.mp (by decide)
  rw [← hinterfaces] at hjoin
  obtain ⟨bag, hbag⟩ := makeTransport_udp (a := sampleAnswers drawn) hjoin
    (by rw [hinterfaces]; decide) rfl
  have hhead : ((⟨root, false⟩ : ConfigImpl).getIpcConnections toml.documented).head? =
      some sampleConnection := by
    rw [hgetters.2.2.1, hconnections]
    rfl
  have hparse := SocketAddress.parse_abstract Io.plainInet
    (text "org.opencyphal.ocvsmd.ipc".toList) 0
  have hconnection : SocketAddress.abstractPrefix ++ text "org.opencyphal.ocvsmd.ipc".toList =
      sampleConnection := by decide
  rw [if_pos (by decide), hconnection] at hparse
  refine ⟨⟨bag, localNodeIdOf toml.documented (sampleAnswers drawn) ⟨root, false⟩, uniqueId,
    SocketAddress.ofAbstract (text "org.opencyphal.ocvsmd.ipc".toList)⟩, rfl, ?_⟩
  simp only [Lifecycle.step, State.load, hfile, Option.map_some]
  rw [Engine.init_succeeds hbag rfl hid hhead hparse rfl]
  rfl

/-- A first start, a crash, and a second start that would draw something else. -/
theorem same_node_after_restarts_sample : ∃ (toml : Codec) (l : Lifecycle) (e : Engine),
    Runs.run (Lifecycle.step toml.documented Io.plainInet)
      ⟨⟨some (toml.format sampleNode), none⟩, none⟩
      [.start (sampleAnswers sampleId), .crash, .start (sampleAnswers fun _ => 0)] = some l ∧
    l.engine = some e ∧ e.uniqueId = sampleId := by
  obtain ⟨codec, -⟩ := exists_sample_codec
  let toml := codec.documented
  have hfile : (some (toml.format sampleNode)).bind toml.parse = some sampleNode :=
    toml.parse_format sampleNode
  obtain ⟨root, hroot⟩ : ∃ root, toml.assign sampleNode cyphalKey [applicationKey, uniqueIdKey]
      (toml.ofArray sampleId) = some root := by
    rw [Codec.documented_assign, sampleNode, Table.assign, Table.lookup_put_self,
      Option.getD_some]
    exact ⟨_, rfl⟩
  have hdrawn : (⟨sampleNode, false⟩ : ConfigImpl).getUniqueId toml sampleId sampleNow .whole
      (some (toml.format sampleNode)) =
        (some sampleId, (⟨root, true⟩ : ConfigImpl).save toml sampleNow .whole
          (some (toml.format sampleNode))) := by
    simp only [ConfigImpl.getUniqueId, toml, sampleNode_noId, ConfigImpl.setCyphalAppUniqueId,
      hroot, Option.map_some]
  generalize (⟨root, true⟩ : ConfigImpl).save toml sampleNow .whole
    (some (toml.format sampleNode)) = s at hdrawn
  obtain ⟨e, heid, hstart⟩ := sampleNode_starts hfile (SameSettings.refl toml _) hdrawn
  have hwrites : (LifecycleAction.start (sampleAnswers sampleId)).Writes := rfl
  have htakes : ∀ drawn : UniqueId,
      (LifecycleAction.start (sampleAnswers drawn)).TakesNodeId toml ⟨sampleNode, false⟩ :=
    fun _ _ _ => rfl
  have hsettled := (Identified.step (identified_init hfile sampleNode_meta) hwrites
    (htakes sampleId) hstart).settled
  obtain ⟨saved, hsaved, hid⟩ :=
    (keeps_getUniqueId (c := ⟨sampleNode, false⟩) hfile sampleNode_meta hdrawn).saved
  obtain ⟨saved', hsaved', hsame⟩ := hsettled.file
  cases hsaved.symm.trans hsaved'
  have hfound : (⟨saved, false⟩ : ConfigImpl).getCyphalAppUniqueId toml = some sampleId := hid
  obtain ⟨e', heid', hrestart⟩ := sampleNode_starts hsaved hsame
    (ConfigImpl.getUniqueId_found hfound (fun _ => 0) sampleNow .whole s.file)
  have hcrash : Lifecycle.step toml Io.plainInet ⟨s, some e⟩ .crash =
      some ⟨⟨s.file, none⟩, none⟩ := rfl
  have hpost := Runs.run_cons.mpr ⟨_, hcrash, Runs.run_one.mpr hrestart⟩
  have hok : ∀ a ∈ [LifecycleAction.start (sampleAnswers sampleId)] ++
      [.crash, .start (sampleAnswers fun _ => 0)],
      a.Writes ∧ a.TakesNodeId toml ⟨sampleNode, false⟩ := by
    intro a ha
    simp only [List.cons_append, List.nil_append, List.mem_cons, List.not_mem_nil, or_false] at ha
    rcases ha with rfl | rfl | rfl
    · exact ⟨rfl, htakes sampleId⟩
    · exact ⟨trivial, trivial⟩
    · exact ⟨rfl, htakes fun _ => 0⟩
  obtain ⟨-, hsame', -⟩ := same_node_after_restarts toml Io.plainInet hfile sampleNode_meta
    (Runs.run_one.mpr hstart) hpost hok rfl
  exact ⟨codec, _, e', Runs.run_cons.mpr ⟨_, hstart, hpost⟩, rfl,
    (hsame' e' rfl).uniqueId.trans heid⟩

end Lifecycle

end Ocvsmd.Engine
