import Ocvsmd.MediaSockets

set_option autoImplicit false

namespace Ocvsmd.Engine

open Holdings (Balanced)
open Io (Kernel OwnFd WatchedFd Inet)
open Toml (Library)

def resetCallbacks : List WatchedFd → Kernel → List WatchedFd × Kernel
  | [], k => ([], k)
  | w :: ws, k =>
    let reset := w.resetCallback k
    let rest := resetCallbacks ws reset.2
    (reset.1 :: rest.1, rest.2)

def closeSockets (ws : List WatchedFd) (k : Kernel) : Kernel :=
  ws.foldl (fun k w => w.destroy k) k

theorem balanced_resetCallbacks {ws : List WatchedFd} {k : Kernel} {rest : List (Nat × Bool)}
    (hco : ∀ w ∈ ws, w.Coherent) (h : Balanced k (held ws ++ rest)) :
    Balanced (resetCallbacks ws k).2 (held (resetCallbacks ws k).1 ++ rest) ∧
      ∀ w ∈ (resetCallbacks ws k).1, w.callback = none := by
  induction ws generalizing k rest with
  | nil => exact ⟨h, fun w hw => by cases hw⟩
  | cons w ws ih =>
    rw [held, List.flatMap_cons, List.append_assoc] at h
    obtain ⟨hreset, hb⟩ := WatchedFd.balanced_resetCallback (hco w (by simp)) h
    have hb' := hb.perm (List.perm_append_comm_assoc (w.fd.holds false) (held ws) rest)
    obtain ⟨hrest, hnone⟩ := ih (fun v hv => hco v (List.mem_cons_of_mem _ hv)) hb'
    refine ⟨?_, ?_⟩
    · simp only [resetCallbacks, hreset, held, List.flatMap_cons, List.append_assoc]
      exact hrest.perm (List.perm_append_comm_assoc _ _ _)
    · intro v hv
      rcases List.mem_cons.mp hv with rfl | hv
      · rw [hreset]
      · exact hnone v hv

theorem balanced_closeSockets {ws : List WatchedFd} {k : Kernel} {rest : List (Nat × Bool)}
    (hco : ∀ w ∈ ws, w.Coherent) (h : Balanced k (held ws ++ rest)) :
    Balanced (closeSockets ws k) rest := by
  induction ws generalizing k with
  | nil => exact h
  | cons w ws ih =>
    rw [held, List.flatMap_cons, List.append_assoc] at h
    have hb := WatchedFd.balanced_destroy (hco w (by simp)) h
    exact ih (fun v hv => hco v (List.mem_cons_of_mem _ hv)) hb

theorem coherent_of_none {w : WatchedFd} (h : w.callback = none) : w.Coherent := by
  intro fd hfd
  rw [h] at hfd
  cases hfd

theorem held_at {ws : List WatchedFd} {i : Nat} {w : WatchedFd} (h : ws[i]? = some w) :
    (held ws).Perm (w.holdings ++ held (ws.eraseIdx i)) := by
  obtain ⟨hi, rfl⟩ := List.getElem?_eq_some_iff.mp h
  have hperm := (List.getElem_cons_eraseIdx_perm hi).symm.flatMap_right WatchedFd.holdings
  rwa [List.flatMap_cons] at hperm

theorem held_set {ws : List WatchedFd} {i : Nat} (hi : i < ws.length) (w : WatchedFd) :
    (held (ws.set i w)).Perm (w.holdings ++ held (ws.eraseIdx i)) := by
  have hperm := (List.set_perm_cons_eraseIdx hi w).flatMap_right WatchedFd.holdings
  rwa [List.flatMap_cons] at hperm

structure MediaProcess where
  kernel : Kernel := {}
  transportBag : Option AnyTransportBag := none
  sockets : List WatchedFd := []
  others : List Nat := []

/-- A callback is registered and dropped by the transport, which has one for a socket at most.
A socket for UDP is its own. -/
inductive MediaAction where
  | makeTransport : (Nat → CanOpenAnswers × CanOpenAnswers) → InitAnswers → ConfigImpl →
      MediaAction
  | makeTxSocket : Fin MaxMedia → UdpTxAnswers → Bool → MediaAction
  | makeRxSocket : Fin MaxMedia → UInt32 → UInt16 → UdpRxAnswers → Bool → MediaAction
  | registerCallback : Nat → MediaAction
  | resetCallback : Nat → MediaAction
  | destroySocket : Nat → MediaAction
  | destroyTransportBag : MediaAction
  | otherOpens : Nat → MediaAction
  | otherCloses : Nat → MediaAction

/-- Without a transport the media are closed again. -/
def CanTransportBag.makeOn (toml : Library) (answers : Nat → CanOpenAnswers × CanOpenAnswers)
    (a : InitAnswers) (c : ConfigImpl) (k : Kernel) :
    Option (Option AnyTransportBag × List WatchedFd × Kernel) :=
  (joinIfaces canPrefix (c.getCyphalTransportInterfaces toml)).bind fun canIfaces =>
    (CanMediaCollection.parseOn answers (canIfaces.length + 2) canIfaces k).map fun parsed =>
      if count parsed.1.mediaIfaces ≠ 0 ∧ a.canTransport then
        (some (.can parsed.1), parsed.1.sockets, parsed.2)
      else (none, [], closeSockets parsed.1.sockets parsed.2)

/-- Nothing is opened for UDP before the transport asks for it. -/
def makeTransportOn (toml : Library) (answers : Nat → CanOpenAnswers × CanOpenAnswers)
    (a : InitAnswers) (c : ConfigImpl) (k : Kernel) :
    Option (Option AnyTransportBag × List WatchedFd × Kernel) :=
  (UdpTransportBag.make toml a c).bind fun udp =>
    match udp with
    | some bag => some (some bag, [], k)
    | none => CanTransportBag.makeOn toml answers a c k

theorem CanMediaCollection.coherent_sockets (c : CanMediaCollection) :
    ∀ w ∈ c.sockets, w.Coherent := by
  intro w hw
  obtain ⟨media, -, hw⟩ := List.mem_flatMap.mp hw
  obtain ⟨m, -, hw⟩ := List.mem_flatMap.mp hw
  rcases List.mem_cons.mp hw with rfl | hw
  · exact coherent_of_none rfl
  · rw [List.mem_singleton.mp hw]
    exact coherent_of_none rfl

/-- The transport is that of the interfaces that could be opened, and what is open for it is
what it has. -/
theorem makeTransportOn_spec {toml : Library}
    {answers : Nat → CanOpenAnswers × CanOpenAnswers} {a : InitAnswers} {c : ConfigImpl}
    {k k' : Kernel} {bag : Option AnyTransportBag} {ws : List WatchedFd}
    {rest : List (Nat × Bool)} (h : Balanced k rest)
    (hs : makeTransportOn toml answers a c k = some (bag, ws, k')) :
    makeTransport toml { a with openings := fun n => openingOf (answers n) } c = some bag ∧
      Balanced k' (held ws ++ rest) ∧ ∀ w ∈ ws, w.Coherent := by
  obtain ⟨udp, hudp, hs⟩ := Option.bind_eq_some_iff.mp hs
  have hmake : UdpTransportBag.make toml { a with openings := fun n => openingOf (answers n) } c =
      some udp := hudp
  rw [makeTransport, hmake, Option.bind_some]
  cases udp with
  | some bag =>
    cases hs
    exact ⟨rfl, h, fun w hw => by cases hw⟩
  | none =>
    obtain ⟨canIfaces, hjoin, hs⟩ := Option.bind_eq_some_iff.mp hs
    obtain ⟨⟨media, k1⟩, hparse, hs⟩ := Option.map_eq_some_iff.mp hs
    obtain ⟨hmedia, hb⟩ := CanMediaCollection.parseOn_spec h hparse
    have hco := media.coherent_sockets
    simp only [CanTransportBag.make, hjoin, hmedia, Option.bind_some, Option.map_some]
    simp only at hs
    split at hs
    · next hmade =>
      cases hs
      rw [if_pos hmade]
      exact ⟨rfl, hb, hco⟩
    · next hfailed =>
      cases hs
      rw [if_neg hfailed]
      exact ⟨rfl, balanced_closeSockets hco hb, fun w hw => by cases hw⟩

theorem makeTransportOn_sockets {toml : Library}
    {answers : Nat → CanOpenAnswers × CanOpenAnswers} {a : InitAnswers} {c : ConfigImpl}
    {k k' : Kernel} {bag : Option AnyTransportBag} {ws : List WatchedFd}
    (hs : makeTransportOn toml answers a c k = some (bag, ws, k')) :
    (bag = none → ws = []) ∧ ∀ media, bag = some (.can media) → ws = media.sockets := by
  obtain ⟨udp, hudp, hs⟩ := Option.bind_eq_some_iff.mp hs
  cases udp with
  | some udp =>
    cases hs
    refine ⟨fun hnone => (by cases hnone), fun media hbag => ?_⟩
    cases hbag
    obtain ⟨ifaces, -, hudp⟩ := Option.bind_eq_some_iff.mp hudp
    obtain ⟨parsed, -, hudp⟩ := Option.map_eq_some_iff.mp hudp
    split at hudp
    · cases hudp
    · cases hudp
  | none =>
    obtain ⟨canIfaces, -, hs⟩ := Option.bind_eq_some_iff.mp hs
    obtain ⟨parsed, -, hs⟩ := Option.map_eq_some_iff.mp hs
    split at hs
    · cases hs
      refine ⟨fun hnone => (by cases hnone), fun media hbag => ?_⟩
      cases hbag
      rfl
    · cases hs
      exact ⟨fun _ => rfl, fun media hbag => by cases hbag⟩

namespace MediaProcess

def makeTransport (toml : Library) (answers : Nat → CanOpenAnswers × CanOpenAnswers)
    (a : InitAnswers) (c : ConfigImpl) (p : MediaProcess) : Option MediaProcess :=
  if p.transportBag.isNone then
    (makeTransportOn toml answers a c p.kernel).map fun made =>
      { p with transportBag := made.1, sockets := made.2.1, kernel := made.2.2 }
  else none

def udpMedia (p : MediaProcess) (i : Fin MaxMedia) : Option UdpMedia :=
  match p.transportBag with
  | some (.udp media) => (media.mediaIfaces.get i).map media.mediaArray.get
  | _ => none

def keepSocket (p : MediaProcess) (made : Except MakeFailure WatchedFd × Kernel) : MediaProcess :=
  { p with sockets := made.1.toOption.toList ++ p.sockets, kernel := made.2 }

/-- It is asserted that there is a descriptor to be watched. -/
def registerCallback (p : MediaProcess) (i : Nat) : Option MediaProcess :=
  (p.sockets[i]?).bind fun w =>
    if 0 ≤ w.fd.fd ∧ w.callback = none then
      let registered := w.register p.kernel
      some { p with sockets := p.sockets.set i registered.1, kernel := registered.2 }
    else none

def resetCallback (p : MediaProcess) (i : Nat) : Option MediaProcess :=
  (p.sockets[i]?).map fun w =>
    let reset := w.resetCallback p.kernel
    { p with sockets := p.sockets.set i reset.1, kernel := reset.2 }

/-- The sockets of the CAN media stay as long as the media do. That libcyphal drops the
callback of a socket before the socket is an assumption. -/
def destroySocket (p : MediaProcess) (i : Nat) : Option MediaProcess :=
  match p.transportBag with
  | some (.udp _) =>
    (p.sockets[i]?).map fun w =>
      { p with sockets := p.sockets.eraseIdx i, kernel := w.destroy p.kernel }
  | _ => none

/-- The transport is the last member, so that it goes first. That libcyphal drops all its
callbacks with it is an assumption. -/
def destroyTransportBag (p : MediaProcess) : MediaProcess :=
  let reset := resetCallbacks p.sockets p.kernel
  { p with transportBag := none, sockets := [], kernel := closeSockets reset.1 reset.2 }

def step (toml : Library) (inet : Inet) (p : MediaProcess) : MediaAction → Option MediaProcess
  | .makeTransport answers a c => p.makeTransport toml answers a c
  | .makeTxSocket i a allocated =>
    (p.udpMedia i).bind fun m =>
      (UdpTxSocket.make inet m.ifaceAddress a allocated p.kernel).map p.keepSocket
  | .makeRxSocket i ipAddress udpPort a allocated =>
    (p.udpMedia i).bind fun m =>
      (UdpRxSocket.make inet m.ifaceAddress ipAddress udpPort a allocated p.kernel).map p.keepSocket
  | .registerCallback i => p.registerCallback i
  | .resetCallback i => p.resetCallback i
  | .destroySocket i => p.destroySocket i
  | .destroyTransportBag => some p.destroyTransportBag
  | .otherOpens fd =>
    (p.kernel.acquire fd).map fun kernel => { p with others := fd :: p.others, kernel }
  | .otherCloses fd =>
    if fd ∈ p.others then
      some { p with others := p.others.erase fd, kernel := p.kernel.release fd }
    else none

def Reachable (toml : Library) (inet : Inet) (p : MediaProcess) : Prop :=
  Runs.Reachable (step toml inet) {} p

def besides (p : MediaProcess) : List (Nat × Bool) := p.others.map fun fd => (fd, false)

/-- A process without a transport has no sockets, and a CAN transport has those of its media. -/
structure Accounted (p : MediaProcess) : Prop where
  balanced : Balanced p.kernel (held p.sockets ++ p.besides)
  coherent : ∀ w ∈ p.sockets, w.Coherent
  idle : p.transportBag = none → p.sockets = []
  can : ∀ media, p.transportBag = some (.can media) →
    p.sockets.map (·.fd) = media.sockets.map (·.fd)

theorem Accounted.makeTransport {toml : Library} {p p' : MediaProcess}
    {answers : Nat → CanOpenAnswers × CanOpenAnswers} {a : InitAnswers} {c : ConfigImpl}
    (h : p.Accounted) (hs : p.makeTransport toml answers a c = some p') : p'.Accounted := by
  obtain ⟨hnone, hs⟩ := Option.ite_none_right_eq_some.mp hs
  obtain ⟨⟨bag, ws, k⟩, hmade, rfl⟩ := Option.map_eq_some_iff.mp hs
  have hb := h.balanced
  rw [h.idle (Option.isNone_iff_eq_none.mp hnone)] at hb
  obtain ⟨-, hbal, hco⟩ := makeTransportOn_spec hb hmade
  obtain ⟨hidle, hcan⟩ := makeTransportOn_sockets hmade
  refine ⟨hbal, hco, hidle, fun media hbag => ?_⟩
  rw [hcan media hbag]

theorem Accounted.keepSocket {p : MediaProcess} (h : p.Accounted) {i : Fin MaxMedia}
    {m : UdpMedia} (hm : p.udpMedia i = some m) {made : Except MakeFailure WatchedFd × Kernel}
    (hb : Balanced made.2 (held made.1.toOption.toList ++ (held p.sockets ++ p.besides)))
    (hco : ∀ w ∈ made.1.toOption, w.callback = none) : (p.keepSocket made).Accounted := by
  refine ⟨?_, ?_, fun hnone => ?_, fun media hcan => ?_⟩
  · rw [MediaProcess.keepSocket, held_append, List.append_assoc]
    exact hb
  · intro w hw
    rcases List.mem_append.mp hw with hnew | hold
    · exact coherent_of_none (hco w (Option.mem_toList.mp hnew))
    · exact h.coherent w hold
  · have hbag : p.transportBag = none := hnone
    rw [udpMedia, hbag] at hm
    cases hm
  · have hbag : p.transportBag = some (.can media) := hcan
    rw [udpMedia, hbag] at hm
    cases hm

theorem Accounted.set {p : MediaProcess} (h : p.Accounted) {i : Nat} {w w' : WatchedFd}
    (hw : p.sockets[i]? = some w) (hco : w'.Coherent) (hfd : w'.fd = w.fd) {kernel : Kernel}
    (hb : Balanced kernel (w'.holdings ++ (held (p.sockets.eraseIdx i) ++ p.besides))) :
    ({ p with sockets := p.sockets.set i w', kernel } : MediaProcess).Accounted := by
  obtain ⟨hi, hget⟩ := List.getElem?_eq_some_iff.mp hw
  have hsame : (p.sockets.set i w').map (·.fd) = p.sockets.map (·.fd) := by
    rw [List.map_set, hfd, ← hget]
    have hmap : i < (p.sockets.map (·.fd)).length := by simpa using hi
    rw [← List.getElem_map (fun s : WatchedFd => s.fd) (h := hmap)]
    exact List.set_getElem_self hmap
  refine ⟨?_, ?_, fun hnone => ?_, fun media hcan => hsame.trans (h.can media hcan)⟩
  · rw [← List.append_assoc] at hb
    exact hb.perm ((held_set hi w').symm.append_right _)
  · intro v hv
    rcases List.mem_or_eq_of_mem_set hv with hold | rfl
    · exact h.coherent v hold
    · exact hco
  · rw [h.idle hnone] at hi
    exact absurd hi (Nat.not_lt_zero i)

theorem Accounted.at {p : MediaProcess} (h : p.Accounted) {i : Nat} {w : WatchedFd}
    (hw : p.sockets[i]? = some w) :
    Balanced p.kernel (w.holdings ++ (held (p.sockets.eraseIdx i) ++ p.besides)) ∧ w.Coherent := by
  refine ⟨?_, h.coherent w (List.mem_of_getElem? hw)⟩
  rw [← List.append_assoc]
  exact h.balanced.perm ((held_at hw).append_right _)

theorem Accounted.registerCallback {p p' : MediaProcess} {i : Nat} (h : p.Accounted)
    (hs : p.registerCallback i = some p') : p'.Accounted := by
  obtain ⟨w, hw, hs⟩ := Option.bind_eq_some_iff.mp hs
  obtain ⟨⟨hfd, hnone⟩, hs⟩ := Option.ite_none_right_eq_some.mp hs
  cases hs
  obtain ⟨fd, heq⟩ := Int.eq_ofNat_of_zero_le hfd
  have hwatched : w = ⟨⟨fd⟩, none⟩ := by
    cases w
    cases hnone
    exact congrArg (WatchedFd.mk · none) (congrArg OwnFd.mk heq)
  obtain ⟨hb, -⟩ := h.at hw
  have hheld : w.holdings = [(fd, false)] := by
    rw [hwatched]
    simp [WatchedFd.holdings]
  rw [hheld] at hb
  obtain ⟨hreg, hco⟩ := WatchedFd.balanced_register hb
  rw [← hwatched] at hreg hco
  exact h.set hw hco rfl hreg

theorem Accounted.resetCallback {p p' : MediaProcess} {i : Nat} (h : p.Accounted)
    (hs : p.resetCallback i = some p') : p'.Accounted := by
  obtain ⟨w, hw, rfl⟩ := Option.map_eq_some_iff.mp hs
  obtain ⟨hb, hco⟩ := h.at hw
  obtain ⟨hreset, hb'⟩ := WatchedFd.balanced_resetCallback hco hb
  have hset := @Accounted.set p h i w { fd := w.fd } hw (coherent_of_none rfl) rfl _ hb'
  rwa [← hreset] at hset

theorem Accounted.destroySocket {p p' : MediaProcess} {i : Nat} (h : p.Accounted)
    (hs : p.destroySocket i = some p') : p'.Accounted := by
  unfold MediaProcess.destroySocket at hs
  split at hs
  · next media hbag =>
    obtain ⟨w, hw, rfl⟩ := Option.map_eq_some_iff.mp hs
    obtain ⟨hb, hco⟩ := h.at hw
    refine ⟨WatchedFd.balanced_destroy hco hb, ?_, fun hnone => ?_, fun m hcan => ?_⟩
    · intro v hv
      exact h.coherent v (List.mem_of_mem_eraseIdx hv)
    · exact absurd (hbag.symm.trans hnone) (by simp)
    · exact absurd (hbag.symm.trans hcan) (by simp)
  · cases hs

theorem Accounted.destroyTransportBag {p : MediaProcess} (h : p.Accounted) :
    p.destroyTransportBag.Accounted := by
  obtain ⟨hb, hnone⟩ := balanced_resetCallbacks h.coherent h.balanced
  exact {
    balanced := balanced_closeSockets (fun w hw => coherent_of_none (hnone w hw)) hb
    coherent := fun w hw => by cases hw
    idle := fun _ => rfl
    can := fun media hcan => by cases hcan }

theorem Accounted.step {toml : Library} {inet : Inet} {p p' : MediaProcess} {a : MediaAction}
    (h : p.Accounted) (hs : p.step toml inet a = some p') : p'.Accounted := by
  cases a with
  | makeTransport answers a c => exact h.makeTransport hs
  | makeTxSocket i a allocated =>
    obtain ⟨m, hm, hs⟩ := Option.bind_eq_some_iff.mp hs
    obtain ⟨made, hmade, rfl⟩ := Option.map_eq_some_iff.mp hs
    obtain ⟨hb, hnone⟩ := makeSocket_spec (fun _ _ => rfl) h.balanced hmade
    exact h.keepSocket hm hb hnone
  | makeRxSocket i ipAddress udpPort a allocated =>
    obtain ⟨m, hm, hs⟩ := Option.bind_eq_some_iff.mp hs
    obtain ⟨made, hmade, rfl⟩ := Option.map_eq_some_iff.mp hs
    obtain ⟨hb, hnone⟩ := makeSocket_spec (fun _ _ => rfl) h.balanced hmade
    exact h.keepSocket hm hb hnone
  | registerCallback i => exact h.registerCallback hs
  | resetCallback i => exact h.resetCallback hs
  | destroySocket i => exact h.destroySocket hs
  | destroyTransportBag =>
    cases hs
    exact h.destroyTransportBag
  | otherOpens fd =>
    obtain ⟨kernel, hk, rfl⟩ := Option.map_eq_some_iff.mp hs
    exact { h with balanced := (h.balanced.acquire hk).perm List.perm_middle.symm }
  | otherCloses fd =>
    obtain ⟨hfd, hs⟩ := Option.ite_none_right_eq_some.mp hs
    cases hs
    have hrest := (List.perm_cons_erase hfd).map fun fd => (fd, false)
    have hperm := hrest.append_left (held p.sockets)
    have hbal := h.balanced.perm (hperm.trans List.perm_middle)
    exact { h with balanced := hbal.release }

theorem accounted_init : ({} : MediaProcess).Accounted where
  balanced := Holdings.balanced_init
  coherent := fun w hw => by cases hw
  idle := fun _ => rfl
  can := fun media hcan => by cases hcan

/-- In every run each descriptor that is open has one owner, whichever calls fail while the
sockets of the media are made; none is closed twice or while it is watched, and once the
transport is gone nothing is left open of it, or watched. -/
theorem media_accounted {toml : Library} {inet : Inet} {p : MediaProcess}
    (h : Reachable toml inet p) :
    p.Accounted ∧
    p.destroyTransportBag.kernel.opened.Perm p.others ∧
    p.destroyTransportBag.kernel.watched = [] ∧
    p.destroyTransportBag.kernel.faults = 0 := by
  have ha := Runs.Reachable.invariant h accounted_init fun ha hs => ha.step hs
  have hbal : Balanced p.destroyTransportBag.kernel p.besides := ha.destroyTransportBag.balanced
  refine ⟨ha, ?_, ?_, hbal.faults⟩
  · simpa [besides, Function.comp_def] using hbal.opened
  · have hw := hbal.watched
    simpa [besides, List.filter_map, Function.comp_def] using hw

def sampleCanNode : Toml.Table :=
  Toml.Table.empty.put cyphalKey (Toml.Table.empty.put transportKey
    (Toml.Table.empty.put interfacesKey
      (Toml.Value.ofStrings
        [ascii "socketcan:vcan0".toList, ascii "socketcan:vcan1".toList])).value).value

/-- The second socket of the first CAN interface is not opened, and one of a transport over UDP
is not bound. -/
def sampleRun : List MediaAction :=
  let failed : CanOpenAnswers := { socket := .error .EINTR }
  let opened : Nat → CanOpenAnswers := fun fd => { socket := .done fd }
  let a : InitAnswers := Lifecycle.sampleAnswers fun _ => 0
  [.otherOpens 0,
   .makeTransport (fun n => if n = 0 then (opened 3, failed) else (opened 3, opened 4))
     { a with canTransport := true } ⟨sampleCanNode, false⟩,
   .registerCallback 1,
   .destroyTransportBag,
   .makeTransport (fun _ => (failed, failed)) a ⟨Lifecycle.sampleNode, false⟩,
   .makeTxSocket ⟨0, by decide⟩ { socket := .done 3 } true,
   .makeRxSocket ⟨0, by decide⟩ 0xEF000001 9382
     { socket := .done 4, bind := .error .EINTR } true,
   .makeRxSocket ⟨0, by decide⟩ 0xEF000001 9382 { socket := .done 4 } true,
   .registerCallback 0]

theorem media_accounted_sample : ∃ (toml : Toml.Codec) (p : MediaProcess),
    Reachable toml.documented Io.plainInet p ∧
    p.kernel.opened = [4, 3, 0] ∧ p.kernel.watched = [4] ∧ p.Accounted ∧
    p.destroyTransportBag.kernel.opened.Perm [0] := by
  obtain ⟨toml, -⟩ := exists_sample_codec
  have hends : (Runs.run (step toml.documented Io.plainInet) {} sampleRun).any
      (fun p => p.kernel.opened = [4, 3, 0] ∧ p.kernel.watched = [4] ∧ p.others = [0]) := rfl
  obtain ⟨p, hrun, hp⟩ := (Option.any_eq_true _ _).mp hends
  obtain ⟨hopened, hwatched, hothers⟩ := of_decide_eq_true hp
  have hreach : Reachable toml.documented Io.plainInet p := ⟨sampleRun, hrun⟩
  obtain ⟨ha, hdestroyed, -, -⟩ := media_accounted hreach
  rw [hothers] at hdestroyed
  exact ⟨toml, p, hreach, hopened, hwatched, ha, hdestroyed⟩

end MediaProcess

end Ocvsmd.Engine
