import Ocvsmd.FrameReceive
import Ocvsmd.ServerRouter

/-!
`SocketServer` and `SocketClient`, and the events that they raise. Where an event handler
returns to code that is not done, its return is an action of its own; what the handler does
before are the actions in between.
-/

set_option autoImplicit false

namespace Ocvsmd.Ipc.Pipe

open SocketBase (State Socket Taken receiveMessage)

inductive Event where
  | connected : Event
  | message : Bytes → Event
  | disconnected : Event
  deriving DecidableEq, Repr

/-- The descriptor stands for the connection: it is its position among all that were ever
accepted. The callback of the connection lives and dies with its context. -/
structure ClientContext where
  fd : Nat
  state : State := {}

structure SocketServer where
  uniqueClientIdCounter : ClientId := 0
  clientIdToContext : AList fun _ : ClientId => ClientContext := ∅
  written : List Bytes := []
  events : List (ClientId × Event) := []
  handling : Option ClientId := none

inductive SocketServerAction where
  | handleAccept : SocketServerAction
  | handleClientRequest : ClientId → Socket → SocketServerAction
  | handlerReturns : Int32 → SocketServerAction
  | send : ClientId → List Bytes → List (Syscall Taken) → SocketServerAction

namespace SocketServer

def raise (s : SocketServer) (clientId : ClientId) (e : Event) : SocketServer :=
  { s with events := s.events ++ [(clientId, e)] }

def setContext (s : SocketServer) (clientId : ClientId) (context : ClientContext) :
    SocketServer :=
  { s with clientIdToContext := s.clientIdToContext.insert clientId context }

/-- There is no context any more when the handler hears of it. -/
def disconnect (s : SocketServer) (clientId : ClientId) : SocketServer :=
  { s with clientIdToContext := s.clientIdToContext.erase clientId }.raise clientId .disconnected

def write (s : SocketServer) (fd : Nat) (bytes : Bytes) : SocketServer :=
  { s with written := s.written.modify fd (· ++ bytes) }

def handleAccept (s : SocketServer) : SocketServer :=
  let newClientId := s.uniqueClientIdCounter + 1
  ({ s with
      uniqueClientIdCounter := newClientId
      written := s.written ++ [[]] }.setContext newClientId { fd := s.written.length }).raise
    newClientId .connected

/-- Up to the call of the event handler, if there is a message for it. -/
def handleClientRequest (s : SocketServer) (clientId : ClientId) (k : Socket) :
    Option SocketServer :=
  (s.clientIdToContext.lookup clientId).map fun context =>
    let r := receiveMessage SocketBase.accept context.state k
    let received := s.setContext clientId { context with state := r.state }
    match r.payload with
    | some payload =>
      { received.raise clientId (.message payload) with handling := some clientId }
    | none => if r.code ≠ 0 then received.disconnect clientId else received

def handlerReturns (s : SocketServer) (err : Int32) : Option SocketServer :=
  s.handling.map fun clientId =>
    let handled := { s with handling := none }
    if err ≠ 0 then handled.disconnect clientId else handled

def send (s : SocketServer) (clientId : ClientId) (payloads : List Bytes)
    (answers : List (Syscall Taken)) : SocketServer × Int32 :=
  match s.clientIdToContext.lookup clientId with
  | some context =>
    let sent := SocketBase.send payloads answers
    (s.write context.fd sent.written, sent.code)
  | none => (s, EINVAL)

/-- The executor runs one callback at a time. Ids are 64-bit numbers, and less than 2^64
connections are accepted. -/
def step (s : SocketServer) : SocketServerAction → Option SocketServer
  | .handleAccept =>
    if s.handling = none ∧ s.uniqueClientIdCounter + 1 < 2^64 then some s.handleAccept else none
  | .handleClientRequest clientId k =>
    if s.handling = none then s.handleClientRequest clientId k else none
  | .handlerReturns err => s.handlerReturns err
  | .send clientId payloads answers => some (s.send clientId payloads answers).1

def Reachable (s : SocketServer) : Prop := Runs.Reachable step {} s

end SocketServer

theorem receiveMessage_action (action : Bytes → Int32) (s : State) (k : Socket) :
    receiveMessage action s k = { receiveMessage SocketBase.accept s k with
      code := match (receiveMessage SocketBase.accept s k).payload with
        | some payload => action payload
        | none => (receiveMessage SocketBase.accept s k).code } := by
  have hread : ∀ s k heap, SocketBase.readAndAct action s k heap =
      { SocketBase.readAndAct SocketBase.accept s k heap with
        code := match (SocketBase.readAndAct SocketBase.accept s k heap).payload with
          | some payload => action payload
          | none => (SocketBase.readAndAct SocketBase.accept s k heap).code } := by
    intro s k heap
    unfold SocketBase.readAndAct
    split
    · rfl
    · split <;> rfl
  obtain ⟨size, phase⟩ := s
  cases phase with
  | payload =>
    simp only [receiveMessage, SocketBase.readPayload_eq]
    exact hread _ _ _
  | header =>
    simp only [receiveMessage]
    split
    · rfl
    · split
      · rfl
      · split
        · rfl
        · simp only [SocketBase.readPayload_eq]
          exact hread _ _ _

def about (clientId : ClientId) (events : List (ClientId × Event)) : List Event :=
  events.filterMap fun e => if e.1 = clientId then some e.2 else none

/-- Connected, then messages, then disconnected, as far as it has come. -/
def LifeCycle (events : List Event) : Prop :=
  ∃ messages : List Bytes,
    events <+: .connected :: (messages.map .message ++ [.disconnected])

def Live (events : List Event) : Prop :=
  ∃ messages : List Bytes, events = .connected :: messages.map .message

def Over (events : List Event) : Prop :=
  events = [] ∨ ∃ messages : List Bytes,
    events = .connected :: (messages.map .message ++ [.disconnected])

theorem Live.lifeCycle {events : List Event} (h : Live events) : LifeCycle events := by
  obtain ⟨messages, rfl⟩ := h
  exact ⟨messages, (List.prefix_cons_inj _).mpr (List.prefix_append _ _)⟩

theorem Over.lifeCycle {events : List Event} (h : Over events) : LifeCycle events := by
  rcases h with rfl | ⟨messages, rfl⟩
  · exact ⟨[], List.nil_prefix⟩
  · exact ⟨messages, List.prefix_refl _⟩

theorem Live.message {events : List Event} (h : Live events) (payload : Bytes) :
    Live (events ++ [.message payload]) := by
  obtain ⟨messages, rfl⟩ := h
  exact ⟨messages ++ [payload], by simp⟩

theorem Live.disconnected {events : List Event} (h : Live events) :
    Over (events ++ [.disconnected]) := by
  obtain ⟨messages, rfl⟩ := h
  exact Or.inr ⟨messages, rfl⟩

theorem Live.open {events : List Event} (h : Live events) :
    .connected ∈ events ∧ .disconnected ∉ events := by
  obtain ⟨messages, rfl⟩ := h
  simp

theorem Over.closed {events : List Event} (h : Over events) :
    ¬ (.connected ∈ events ∧ .disconnected ∉ events) := by
  rcases h with rfl | ⟨messages, rfl⟩ <;> simp

@[simp] theorem about_append (c : ClientId) (l r : List (ClientId × Event)) :
    about c (l ++ r) = about c l ++ about c r := List.filterMap_append

theorem about_self (c : ClientId) (e : Event) : about c [(c, e)] = [e] := by
  simp [about]

theorem about_concat_ne {c c' : ClientId} (h : c' ≠ c) (events : List (ClientId × Event))
    (e : Event) : about c' (events ++ [(c, e)]) = about c' events := by
  simp [about, Ne.symm h]

def announced (events : List (ClientId × Event)) : List ClientId :=
  events.filterMap fun e => if e.2 = .connected then some e.1 else none

@[simp] theorem announced_append (l r : List (ClientId × Event)) :
    announced (l ++ r) = announced l ++ announced r := List.filterMap_append

namespace SocketServer

/-- The contexts are those of the connections that are there, each with its own descriptor,
and the ids are counted up. -/
structure Inv (s : SocketServer) : Prop where
  count : s.uniqueClientIdCounter = s.written.length
  fds : ∀ c context, s.clientIdToContext.lookup c = some context →
    context.fd + 1 = c ∧ c ≤ s.uniqueClientIdCounter
  handling : ∀ c, s.handling = some c → c ∈ s.clientIdToContext
  live : ∀ c, c ∈ s.clientIdToContext → Live (about c s.events)
  ended : ∀ c, c ∉ s.clientIdToContext → Over (about c s.events)
  fresh : ∀ c, s.uniqueClientIdCounter < c → about c s.events = []
  ids : announced s.events = (List.range s.uniqueClientIdCounter).map (· + 1)

theorem inv_init : ({} : SocketServer).Inv where
  count := rfl
  fds := fun c context h => by simp at h
  handling := fun c h => by cases h
  live := fun c h => absurd h (AList.notMem_empty c)
  ended := fun c _ => Or.inl rfl
  fresh := fun c _ => rfl
  ids := rfl

theorem mem_of_lookup {s : SocketServer} {c : ClientId} {context : ClientContext}
    (h : s.clientIdToContext.lookup c = some context) : c ∈ s.clientIdToContext :=
  AList.lookup_isSome.mp (by rw [h]; rfl)

theorem Inv.setContext {s : SocketServer} (h : s.Inv) {c : ClientId} {context : ClientContext}
    (hc : s.clientIdToContext.lookup c = some context) (state : State) :
    (s.setContext c { context with state := state }).Inv := by
  have hmem : ∀ c', c' ∈ s.clientIdToContext.insert c { context with state := state } ↔
      c' ∈ s.clientIdToContext := by
    intro c'
    rw [AList.mem_insert]
    constructor
    · rintro (rfl | h')
      · exact mem_of_lookup hc
      · exact h'
    · exact Or.inr
  constructor
  · exact h.count
  · intro c' context' hl
    by_cases he : c' = c
    · subst he
      simp only [SocketServer.setContext, AList.lookup_insert, Option.some.injEq] at hl
      subst hl
      exact h.fds c' context hc
    · exact h.fds c' context' (by simpa [SocketServer.setContext, he] using hl)
  · exact fun c' hh => (hmem c').mpr (h.handling c' hh)
  · exact fun c' hh => h.live c' ((hmem c').mp hh)
  · exact fun c' hh => h.ended c' fun hin => hh ((hmem c').mpr hin)
  · exact h.fresh
  · exact h.ids

theorem Inv.message {s : SocketServer} (h : s.Inv) {c : ClientId}
    (hc : c ∈ s.clientIdToContext) (payload : Bytes) :
    { s.raise c (.message payload) with handling := some c }.Inv := by
  constructor
  · exact h.count
  · exact h.fds
  · rintro c' ⟨⟩
    exact hc
  · intro c' hc'
    by_cases he : c' = c
    · subst he
      simp only [raise, about_append, about_self]
      exact (h.live c' hc').message payload
    · simp only [raise, about_concat_ne he]
      exact h.live c' hc'
  · intro c' hc'
    have hne : c' ≠ c := fun he => hc' (he ▸ hc)
    simp only [raise, about_concat_ne hne]
    exact h.ended c' hc'
  · intro c' hlt
    obtain ⟨context, hl⟩ := Option.isSome_iff_exists.mp (AList.lookup_isSome.mpr hc)
    have hle := (h.fds c context hl).2
    have hne : c' ≠ c := fun he => absurd hle (Nat.not_le.mpr (he ▸ hlt))
    simp only [raise, about_concat_ne hne]
    exact h.fresh c' hlt
  · simp only [raise, announced_append, h.ids]
    exact List.append_nil _

theorem Inv.disconnect {s : SocketServer} (h : s.Inv) {c : ClientId}
    (hc : c ∈ s.clientIdToContext) (hh : s.handling = none) : (s.disconnect c).Inv := by
  constructor
  · exact h.count
  · intro c' context hl
    by_cases he : c' = c
    · subst he
      simp [SocketServer.disconnect, raise] at hl
    · exact h.fds c' context (by
        simpa [SocketServer.disconnect, raise, AList.lookup_erase_ne he] using hl)
  · intro c' hh'
    have hnone : s.handling = some c' := hh'
    rw [hh] at hnone
    cases hnone
  · intro c' hc'
    have hc' : c' ≠ c ∧ c' ∈ s.clientIdToContext := AList.mem_erase.mp hc'
    simp only [SocketServer.disconnect, raise, about_concat_ne hc'.1]
    exact h.live c' hc'.2
  · intro c' hc'
    by_cases he : c' = c
    · subst he
      simp only [SocketServer.disconnect, raise, about_append, about_self]
      exact (h.live c' hc).disconnected
    · simp only [SocketServer.disconnect, raise, about_concat_ne he]
      exact h.ended c' fun hin => hc' (AList.mem_erase.mpr ⟨he, hin⟩)
  · intro c' hlt
    obtain ⟨context, hl⟩ := Option.isSome_iff_exists.mp (AList.lookup_isSome.mpr hc)
    have hle := (h.fds c context hl).2
    have hne : c' ≠ c := fun he => absurd hle (Nat.not_le.mpr (he ▸ hlt))
    simp only [SocketServer.disconnect, raise, about_concat_ne hne]
    exact h.fresh c' hlt
  · simp only [SocketServer.disconnect, raise, announced_append, h.ids]
    exact List.append_nil _

theorem Inv.handleAccept {s : SocketServer} (h : s.Inv) : s.handleAccept.Inv := by
  have hnew : about (s.uniqueClientIdCounter + 1) s.events = [] := h.fresh _ (Nat.lt_succ_self _)
  constructor
  · simp [SocketServer.handleAccept, SocketServer.setContext, raise, h.count]
  · intro c' context hl
    by_cases he : c' = s.uniqueClientIdCounter + 1
    · subst he
      simp only [SocketServer.handleAccept, SocketServer.setContext, raise, AList.lookup_insert,
        Option.some.injEq] at hl
      subst hl
      exact ⟨by rw [h.count], Nat.le_refl _⟩
    · obtain ⟨hfd, hle⟩ := h.fds c' context (by
        simpa [SocketServer.handleAccept, SocketServer.setContext, raise, he] using hl)
      exact ⟨hfd, Nat.le_succ_of_le hle⟩
  · intro c' hh
    exact AList.mem_insert _ |>.mpr (Or.inr (h.handling c' hh))
  · intro c' hc'
    by_cases he : c' = s.uniqueClientIdCounter + 1
    · subst he
      simp only [SocketServer.handleAccept, SocketServer.setContext, raise, about_append, hnew,
        about_self, List.nil_append]
      exact ⟨[], rfl⟩
    · simp only [SocketServer.handleAccept, SocketServer.setContext, raise, about_concat_ne he]
      rcases (AList.mem_insert _).mp hc' with heq | hin
      · exact absurd heq he
      · exact h.live c' hin
  · intro c' hc'
    have hne : c' ≠ s.uniqueClientIdCounter + 1 := fun he =>
      hc' ((AList.mem_insert _).mpr (Or.inl he))
    simp only [SocketServer.handleAccept, SocketServer.setContext, raise, about_concat_ne hne]
    exact h.ended c' fun hin => hc' ((AList.mem_insert _).mpr (Or.inr hin))
  · intro c' hlt
    have hlt' : s.uniqueClientIdCounter + 1 < c' := hlt
    simp only [SocketServer.handleAccept, SocketServer.setContext, raise,
      about_concat_ne (Nat.ne_of_gt hlt')]
    exact h.fresh c' (Nat.lt_of_succ_lt hlt')
  · simp only [SocketServer.handleAccept, SocketServer.setContext, raise, announced_append, h.ids]
    rw [List.range_succ, List.map_append]
    rfl

theorem Inv.handleClientRequest {s s' : SocketServer} (h : s.Inv) (hh : s.handling = none)
    {c : ClientId} {k : Socket} (hs : s.handleClientRequest c k = some s') : s'.Inv := by
  obtain ⟨context, hc, rfl⟩ := Option.map_eq_some_iff.mp hs
  have hread := h.setContext hc (receiveMessage SocketBase.accept context.state k).state
  have hmem : c ∈ (s.setContext c { context with
      state := (receiveMessage SocketBase.accept context.state k).state }).clientIdToContext :=
    (AList.mem_insert _).mpr (Or.inl rfl)
  simp only
  split
  · exact hread.message hmem _
  · split
    · exact hread.disconnect hmem hh
    · exact hread

theorem Inv.handlerReturns {s s' : SocketServer} (h : s.Inv) {err : Int32}
    (hs : s.handlerReturns err = some s') : s'.Inv := by
  obtain ⟨c, hc, rfl⟩ := Option.map_eq_some_iff.mp hs
  have hdone : { s with handling := none }.Inv := { h with handling := fun c' hc' => by cases hc' }
  simp only
  split
  · exact hdone.disconnect (h.handling c hc) rfl
  · exact hdone

theorem Inv.send {s : SocketServer} (h : s.Inv) (c : ClientId) (payloads : List Bytes)
    (answers : List (Syscall Taken)) : (s.send c payloads answers).1.Inv := by
  unfold SocketServer.send
  split
  · exact { h with count := by simpa [write] using h.count }
  · exact h

theorem Inv.step {s s' : SocketServer} {a : SocketServerAction} (h : s.Inv)
    (hs : s.step a = some s') : s'.Inv := by
  cases a with
  | handleAccept =>
    simp only [SocketServer.step] at hs
    split at hs
    · cases hs
      exact h.handleAccept
    · cases hs
  | handleClientRequest c k =>
    simp only [SocketServer.step] at hs
    split at hs
    · next hh => exact h.handleClientRequest hh hs
    · cases hs
  | handlerReturns err => exact h.handlerReturns hs
  | send c payloads answers =>
    cases hs
    exact h.send c payloads answers

theorem Reachable.inv {s : SocketServer} (h : s.Reachable) : s.Inv :=
  Runs.Reachable.invariant h inv_init fun hi hs => hi.step hs

def concerns (s : SocketServer) : SocketServerAction → Option ClientId
  | .handleAccept => some (s.uniqueClientIdCounter + 1)
  | .handleClientRequest clientId _ => some clientId
  | .handlerReturns _ => s.handling
  | .send _ _ _ => none

/-- A step raises events for the connection that it is about, leaves the others as they are,
and writes nothing unless it is a `send`. -/
structure Confined (s : SocketServer) (a : SocketServerAction) (s' : SocketServer) : Prop where
  events : ∃ new, s'.events = s.events ++ new ∧ ∀ e ∈ new, s.concerns a = some e.1
  contexts : ∀ c, s.concerns a ≠ some c →
    s'.clientIdToContext.lookup c = s.clientIdToContext.lookup c
  written : (∀ c payloads answers, a ≠ .send c payloads answers) →
    s'.written = s.written ∨ s'.written = s.written ++ [[]]

theorem confined_setContext {s : SocketServer} {a : SocketServerAction} {c : ClientId}
    (ha : s.concerns a = some c) (context : ClientContext) :
    Confined s a (s.setContext c context) where
  events := ⟨[], (List.append_nil _).symm, fun e he => by cases he⟩
  contexts := fun c' hc' => by
    have hne : c' ≠ c := fun he => hc' (he ▸ ha)
    simp [setContext, hne]
  written := fun _ => Or.inl rfl

theorem Confined.raise {s s' : SocketServer} {a : SocketServerAction} {c : ClientId}
    (h : Confined s a s') (ha : s.concerns a = some c) (e : Event) :
    Confined s a (s'.raise c e) where
  events := by
    obtain ⟨new, hnew, hall⟩ := h.events
    refine ⟨new ++ [(c, e)], by simp [SocketServer.raise, hnew], fun x hx => ?_⟩
    rcases List.mem_append.mp hx with hx | hx
    · exact hall x hx
    · rw [List.mem_singleton.mp hx]
      exact ha
  contexts := h.contexts
  written := h.written

theorem Confined.disconnect {s s' : SocketServer} {a : SocketServerAction} {c : ClientId}
    (h : Confined s a s') (ha : s.concerns a = some c) : Confined s a (s'.disconnect c) := by
  have herased : Confined s a { s' with clientIdToContext := s'.clientIdToContext.erase c } := {
    events := h.events
    contexts := fun c' hc' => by
      have hne : c' ≠ c := fun he => hc' (he ▸ ha)
      rw [AList.lookup_erase_ne hne]
      exact h.contexts c' hc'
    written := h.written }
  exact herased.raise ha .disconnected

theorem Confined.handling {s s' : SocketServer} {a : SocketServerAction} (h : Confined s a s')
    (handling : Option ClientId) : Confined s a { s' with handling := handling } where
  events := h.events
  contexts := h.contexts
  written := h.written

theorem confined_refl (s : SocketServer) (a : SocketServerAction) : Confined s a s where
  events := ⟨[], (List.append_nil _).symm, fun e he => by cases he⟩
  contexts := fun _ _ => rfl
  written := fun _ => Or.inl rfl

theorem confined_step {s s' : SocketServer} {a : SocketServerAction} (hs : s.step a = some s') :
    Confined s a s' := by
  cases a with
  | handleAccept =>
    simp only [step] at hs
    split at hs
    · cases hs
      have hset := confined_setContext (s := s) (a := .handleAccept) rfl { fd := s.written.length }
      have hraised := hset.raise rfl .connected
      exact ⟨hraised.events, hraised.contexts, fun _ => Or.inr rfl⟩
    · cases hs
  | handleClientRequest c k =>
    simp only [step] at hs
    split at hs
    · obtain ⟨context, hc, rfl⟩ := Option.map_eq_some_iff.mp hs
      have hread := confined_setContext (s := s) (a := .handleClientRequest c k) rfl
        { context with state := (receiveMessage SocketBase.accept context.state k).state }
      simp only
      split
      · exact (hread.raise rfl _).handling _
      · split
        · exact hread.disconnect rfl
        · exact hread
    · cases hs
  | handlerReturns err =>
    obtain ⟨c, hc, rfl⟩ := Option.map_eq_some_iff.mp hs
    have hdone := (confined_refl s (.handlerReturns err)).handling none
    simp only
    split
    · exact hdone.disconnect hc
    · exact hdone
  | send c payloads answers =>
    cases hs
    unfold send
    split
    · exact ⟨⟨[], (List.append_nil _).symm, fun e he => by cases he⟩, fun _ _ => rfl,
        fun ha => absurd rfl (ha c payloads answers)⟩
    · exact confined_refl _ _

def Between (s : SocketServer) (clientId : ClientId) : Prop :=
  .connected ∈ about clientId s.events ∧ .disconnected ∉ about clientId s.events

theorem Inv.between {s : SocketServer} (h : s.Inv) (c : ClientId) :
    s.Between c ↔ c ∈ s.clientIdToContext := by
  by_cases hc : c ∈ s.clientIdToContext
  · exact iff_of_true (h.live c hc).open hc
  · exact iff_of_false (h.ended c hc).closed hc

theorem Inv.send_between {s : SocketServer} (h : s.Inv) {c : ClientId} (hc : s.Between c)
    (payloads : List Bytes) (answers : List (Syscall Taken)) :
    ∃ fd old, fd + 1 = c ∧ s.written[fd]? = some old ∧
      s.send c payloads answers =
        ({ s with
            written := s.written.set fd (old ++ (SocketBase.send payloads answers).written) },
          (SocketBase.send payloads answers).code) := by
  obtain ⟨context, hl⟩ :=
    Option.isSome_iff_exists.mp (AList.lookup_isSome.mpr ((h.between c).mp hc))
  obtain ⟨hfd, hle⟩ := h.fds c context hl
  have hlt : context.fd < s.written.length := by
    rw [← h.count]
    exact Nat.lt_of_succ_le (hfd.trans_le hle)
  refine ⟨context.fd, s.written[context.fd], hfd, List.getElem?_eq_getElem hlt, ?_⟩
  simp only [SocketServer.send, hl, write]
  rw [List.modify_eq_set_get _ hlt]
  rfl

theorem Inv.send_outside {s : SocketServer} (h : s.Inv) {c : ClientId} (hc : ¬ s.Between c)
    (payloads : List Bytes) (answers : List (Syscall Taken)) :
    s.send c payloads answers = (s, EINVAL) := by
  have hl : s.clientIdToContext.lookup c = none :=
    AList.lookup_eq_none.mpr fun hin => hc ((h.between c).mpr hin)
  simp only [SocketServer.send, hl]

theorem Inv.written_send {s : SocketServer} (h : s.Inv) (c : ClientId) (payloads : List Bytes)
    (answers : List (Syscall Taken)) (i : Nat) :
    (s.Between c ∧ i + 1 = c → ∃ old, s.written[i]? = some old ∧
      (s.send c payloads answers).1.written[i]? =
        some (old ++ (SocketBase.send payloads answers).written)) ∧
    (¬ (s.Between c ∧ i + 1 = c) →
      (s.send c payloads answers).1.written[i]? = s.written[i]?) := by
  by_cases hc : s.Between c
  · obtain ⟨fd, old, hfd, hold, hsend⟩ := h.send_between hc payloads answers
    rw [hsend]
    refine ⟨fun hi => ?_, fun hi => ?_⟩
    · obtain rfl : i = fd := Nat.succ_injective (hi.2.trans hfd.symm)
      have hlt := (List.getElem?_eq_some_iff.mp hold).1
      exact ⟨old, hold, List.getElem?_set_self hlt⟩
    · have hne : fd ≠ i := fun heq => hi ⟨hc, by rw [← heq, hfd]⟩
      exact List.getElem?_set_ne hne
  · rw [h.send_outside hc]
    exact ⟨fun hi => absurd hi.1 hc, fun _ => rfl⟩

theorem events_handleClientRequest {s s' : SocketServer} {c : ClientId} {k : Socket}
    {context : ClientContext} (hc : s.clientIdToContext.lookup c = some context)
    (hs : s.handleClientRequest c k = some s')
    (hp : (receiveMessage SocketBase.accept context.state k).payload = none)
    (hcode : (receiveMessage SocketBase.accept context.state k).code ≠ 0) :
    s'.events = s.events ++ [(c, .disconnected)] := by
  simp only [handleClientRequest, hc, Option.map_some, hp] at hs
  rw [if_pos hcode] at hs
  cases hs
  rfl

theorem events_handlerReturns {s s' : SocketServer} {err : Int32}
    (hs : s.handlerReturns err = some s') :
    ∃ c, s.handling = some c ∧
      s'.events = s.events ++ if err ≠ 0 then [(c, .disconnected)] else [] := by
  obtain ⟨c, hc, rfl⟩ := Option.map_eq_some_iff.mp hs
  refine ⟨c, hc, ?_⟩
  simp only
  split
  · rfl
  · exact (List.append_nil _).symm

/-- When its handler has returned, the callback has done what a failed or a successful call of
`receiveMessage` with that handler asks for. -/
theorem handlerReturns_handleClientRequest {s : SocketServer} {c : ClientId} {k : Socket}
    {context : ClientContext} (hc : s.clientIdToContext.lookup c = some context)
    {payload : Bytes}
    (hp : (receiveMessage SocketBase.accept context.state k).payload = some payload)
    (action : Bytes → Int32) :
    ((s.handleClientRequest c k).bind (·.handlerReturns (action payload))).map (·.events) =
      some (s.events ++ (c, .message payload) ::
        if (receiveMessage action context.state k).code ≠ 0 then [(c, .disconnected)] else []) := by
  have hcode : (receiveMessage action context.state k).code = action payload := by
    rw [receiveMessage_action]
    simp only [hp]
  rw [hcode]
  simp only [handleClientRequest, hc, Option.map_some, hp, Option.bind_some, handlerReturns]
  by_cases h : action payload = 0
  · simp [h, raise, setContext]
  · simp [h, raise, setContext, disconnect]

/-- What the router may rely on. -/
structure Reliable (s : SocketServer) : Prop where
  lifeCycle : ∀ c, LifeCycle (about c s.events)
  announced : announced s.events = (List.range s.uniqueClientIdCounter).map (· + 1)
  confined : ∀ a s', s.step a = some s' → Confined s a s'
  received : ∀ c k context s', s.clientIdToContext.lookup c = some context →
    s.handleClientRequest c k = some s' →
    (receiveMessage SocketBase.accept context.state k).payload = none →
    (receiveMessage SocketBase.accept context.state k).code ≠ 0 →
      s'.events = s.events ++ [(c, .disconnected)]
  failed : ∀ c err s', s.handling = some c → s.handlerReturns err = some s' → err ≠ 0 →
    s'.events = s.events ++ [(c, .disconnected)]
  served : ∀ c k context payload action, s.clientIdToContext.lookup c = some context →
    (receiveMessage SocketBase.accept context.state k).payload = some payload →
      ((s.handleClientRequest c k).bind (·.handlerReturns (action payload))).map (·.events) =
        some (s.events ++ (c, .message payload) ::
          if (receiveMessage action context.state k).code ≠ 0 then [(c, .disconnected)] else [])
  sent : ∀ c payloads answers, s.Between c → ∃ fd old, fd + 1 = c ∧
    s.written[fd]? = some old ∧ s.send c payloads answers =
      ({ s with written := s.written.set fd (old ++ (SocketBase.send payloads answers).written) },
        (SocketBase.send payloads answers).code)
  written : ∀ c payloads answers (i : Nat),
    (s.Between c ∧ i + 1 = c → ∃ old, s.written[i]? = some old ∧
      (s.send c payloads answers).1.written[i]? =
        some (old ++ (SocketBase.send payloads answers).written)) ∧
    (¬ (s.Between c ∧ i + 1 = c) →
      (s.send c payloads answers).1.written[i]? = s.written[i]?)
  refused : ∀ c payloads answers, ¬ s.Between c → s.send c payloads answers = (s, EINVAL)

theorem Inv.reliable {s : SocketServer} (h : s.Inv) : s.Reliable where
  lifeCycle := fun c => by
    by_cases hc : c ∈ s.clientIdToContext
    · exact (h.live c hc).lifeCycle
    · exact (h.ended c hc).lifeCycle
  announced := h.ids
  confined := fun a s' hs => confined_step hs
  received := fun c k context s' hc hs hp hcode => events_handleClientRequest hc hs hp hcode
  failed := fun c err s' hc hs herr => by
    obtain ⟨c', hc', hevents⟩ := events_handlerReturns hs
    rw [hc] at hc'
    cases hc'
    rwa [if_pos herr] at hevents
  served := fun c k context payload action hc hp =>
    handlerReturns_handleClientRequest hc hp action
  written := fun c payloads answers i => h.written_send c payloads answers i
  sent := fun c payloads answers hc => h.send_between hc payloads answers
  refused := fun c payloads answers hc => h.send_outside hc payloads answers

end SocketServer

inductive SocketCallback where
  | connect : SocketCallback
  | receive : SocketCallback
  deriving DecidableEq, Repr

/-- A client after `start`. If `start` has failed there is no callback. -/
structure SocketClient where
  socketCallback : Option SocketCallback := none
  state : State := {}
  events : List Event := []
  handling : Bool := false

inductive SocketClientAction where
  | handleConnect : Int32 → SocketClientAction
  | handleReceive : Socket → SocketClientAction
  | handlerReturns : Int32 → SocketClientAction

namespace SocketClient

def start (err : Int32) : SocketClient :=
  if err ≠ 0 then {} else { socketCallback := some .connect }

def handleDisconnect (s : SocketClient) : SocketClient :=
  { s with
    socketCallback := none
    state := { s.state with readPhase := .header }
    events := s.events ++ [.disconnected] }

def handleConnect (s : SocketClient) (soError : Int32) : SocketClient :=
  let reset := { s with socketCallback := none }
  if soError ≠ 0 then reset.handleDisconnect
  else { reset with
    socketCallback := some .receive
    state := { s.state with readPhase := .header }
    events := s.events ++ [.connected] }

/-- Up to the call of the event handler, if there is a message for it. -/
def handleReceive (s : SocketClient) (k : Socket) : SocketClient :=
  let r := receiveMessage SocketBase.accept s.state k
  let received := { s with state := r.state }
  match r.payload with
  | some payload => { received with events := s.events ++ [.message payload], handling := true }
  | none => if r.code ≠ 0 then received.handleDisconnect else received

def handlerReturns (s : SocketClient) (err : Int32) : SocketClient :=
  let handled := { s with handling := false }
  if err ≠ 0 then handled.handleDisconnect else handled

def step (s : SocketClient) : SocketClientAction → Option SocketClient
  | .handleConnect soError =>
    if s.socketCallback = some .connect ∧ s.handling = false then some (s.handleConnect soError)
    else none
  | .handleReceive k =>
    if s.socketCallback = some .receive ∧ s.handling = false then some (s.handleReceive k)
    else none
  | .handlerReturns err => if s.handling then some (s.handlerReturns err) else none

def Reachable (s : SocketClient) : Prop := ∃ err, Runs.Reachable step (start err) s

structure Inv (s : SocketClient) : Prop where
  connecting : s.socketCallback = some .connect → s.events = []
  receiving : s.socketCallback = some .receive → Live s.events
  done : s.socketCallback = none → Over s.events ∨ s.events = [.disconnected]
  handling : s.handling = true → s.socketCallback = some .receive

theorem inv_start (err : Int32) : (start err).Inv := by
  unfold start
  split
  · constructor
    · intro h; cases h
    · intro h; cases h
    · exact fun _ => Or.inl (Or.inl rfl)
    · intro h; cases h
  · constructor
    · exact fun _ => rfl
    · intro h; cases h
    · intro h; cases h
    · intro h; cases h

theorem inv_handleDisconnect {s : SocketClient} (hh : s.handling = false)
    (h : Live s.events ∨ s.events = []) : s.handleDisconnect.Inv where
  connecting := fun hc => by cases hc
  receiving := fun hc => by cases hc
  done := fun _ => by
    rcases h with h | h
    · exact Or.inl h.disconnected
    · simp [handleDisconnect, h]
  handling := fun hc => by
    have hc' : s.handling = true := hc
    rw [hh] at hc'
    cases hc'

theorem Inv.step {s s' : SocketClient} {a : SocketClientAction} (h : s.Inv)
    (hs : s.step a = some s') : s'.Inv := by
  cases a with
  | handleConnect soError =>
    simp only [SocketClient.step] at hs
    split at hs
    · next hready =>
      cases hs
      have hnil := h.connecting hready.1
      unfold handleConnect
      simp only
      split
      · exact inv_handleDisconnect hready.2 (Or.inr hnil)
      · constructor
        · intro hc; cases hc
        · exact fun _ => ⟨[], by simp [hnil]⟩
        · intro hc; cases hc
        · exact fun _ => rfl
    · cases hs
  | handleReceive k =>
    simp only [SocketClient.step] at hs
    split at hs
    · next hready =>
      cases hs
      have hlive := h.receiving hready.1
      unfold handleReceive
      simp only
      split
      · constructor
        · intro hc
          rw [hready.1] at hc
          cases hc
        · exact fun _ => hlive.message _
        · intro hc
          rw [hready.1] at hc
          cases hc
        · exact fun _ => hready.1
      · split
        · exact inv_handleDisconnect hready.2 (Or.inl hlive)
        · exact ⟨h.connecting, h.receiving, h.done, h.handling⟩
    · cases hs
  | handlerReturns err =>
    simp only [SocketClient.step] at hs
    split at hs
    · next hh =>
      cases hs
      unfold handlerReturns
      simp only
      split
      · exact inv_handleDisconnect rfl (Or.inl (h.receiving (h.handling hh)))
      · exact ⟨h.connecting, h.receiving, h.done, fun hc => by cases hc⟩
    · cases hs

theorem Reachable.inv {s : SocketClient} (h : s.Reachable) : s.Inv := by
  obtain ⟨err, h⟩ := h
  exact Runs.Reachable.invariant h (inv_start err) fun hi hs => hi.step hs

end SocketClient

/-- The events of a pipe come in the order that the routers rely on, whatever is accepted,
read and returned; and a server sends to a client only while it is there. -/
theorem pipe_life_cycle :
    (∀ s : SocketServer, s.Reachable → s.Reliable) ∧
    (∀ s : SocketClient, s.Reachable → LifeCycle s.events ∨ s.events = [.disconnected]) := by
  constructor
  · intro s hr
    exact hr.inv.reliable
  · intro s hr
    have hi := hr.inv
    cases hc : s.socketCallback with
    | none => exact (hi.done hc).imp_left Over.lifeCycle
    | some callback =>
      cases callback with
      | connect =>
        rw [hi.connecting hc]
        exact Or.inl ⟨[], List.nil_prefix⟩
      | receive => exact Or.inl (hi.receiving hc).lifeCycle

def servedOnce : SocketServer :=
  (Runs.run SocketServer.step {}
    [.handleAccept, .handleClientRequest 1 (SocketBase.socketOf (SocketBase.frame [[7]])
      [some 7, some 0]), .handlerReturns 5]).getD {}

def twoAccepted : SocketServer :=
  (Runs.run SocketServer.step {} [.handleAccept, .handleAccept]).getD {}

theorem pipe_life_cycle_served :
    servedOnce.events = [(1, .connected), (1, .message [7]), (1, .disconnected)] ∧
    servedOnce.send 1 [[9]] [] = (servedOnce, EINVAL) ∧
    LifeCycle (about 1 servedOnce.events) ∧
    (LifeCycle (SocketClient.start 111).events ∨
      (SocketClient.start 111).events = [.disconnected]) ∧
    (twoAccepted.send 2 [[9]] [.done .all, .done .all]).1.written[0]? = some [] ∧
    (twoAccepted.send 2 [[9]] [.done .all, .done .all]).1.written[1]? =
      some (SocketBase.frame [[9]]) := by
  have hserver : servedOnce.Reachable := Runs.Reachable.getD (by decide +kernel)
  have htwo : twoAccepted.Reachable := Runs.Reachable.getD (by decide +kernel)
  have hclient : (SocketClient.start 111).Reachable := ⟨111, Runs.Reachable.refl _ _⟩
  have hreliable := pipe_life_cycle.1 servedOnce hserver
  have hwritten := (pipe_life_cycle.1 twoAccepted htwo).written 2 [[9]] [.done .all, .done .all]
  have hevents : servedOnce.events = [(1, .connected), (1, .message [7]), (1, .disconnected)] := by
    decide +kernel
  have hbetween : twoAccepted.Between 2 := by
    have htold : twoAccepted.events = [(1, .connected), (2, .connected)] := by decide +kernel
    unfold SocketServer.Between
    rw [htold]
    exact ⟨by decide, by decide⟩
  refine ⟨hevents, hreliable.refused 1 [[9]] [] ?_, hreliable.lifeCycle 1,
    pipe_life_cycle.2 _ hclient, ?_, ?_⟩
  · rintro ⟨_, hopen⟩
    rw [hevents] at hopen
    exact hopen (by decide)
  · rw [(hwritten 0).2 (by simp)]
    decide +kernel
  · obtain ⟨old, hold, hnew⟩ := (hwritten 1).1 ⟨hbetween, rfl⟩
    have hempty : twoAccepted.written[1]? = some [] := by decide +kernel
    cases hold.symm.trans hempty
    rw [hnew]
    decide +kernel

end Ocvsmd.Ipc.Pipe
