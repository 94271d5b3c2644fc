import Ocvsmd.ClientEvents
import Ocvsmd.ExecCmdSpec
import Ocvsmd.Partners

set_option autoImplicit false

namespace Ocvsmd.Svc

open Ipc
open FifoSession (payloads)

inductive ExecCmdResult where
  | success : (AList fun _ : NodeId => NodeResponse) → ExecCmdResult
  | failure : Int32 → ExecCmdResult

/-- A call of the handler of a client: which receiver it had by then, the event, and the
code that the pipe would return. -/
structure Handled where
  receiver : Nat
  event : Event
  outcome : Int32

/-- `receiver_` is the last of the receivers that were submitted, and is known by their
number. The results are those of all of them. -/
structure ExecCmdClient where
  channel : GatewayId
  request : Request
  receiver : Nat := 0
  nodeIdToResponse : AList fun _ : NodeId => NodeResponse := ∅
  results : List (Nat × ExecCmdResult) := []
  handled : List Handled := []

namespace ExecCmdClient

def input (spec : ExecCmdSpec) : Decoder := fun payload =>
  (spec.deserializeResponse payload).isSome

def receive (result : ExecCmdResult) (x : ExecCmdClient) : ExecCmdClient :=
  { x with results := x.results ++ [(x.receiver, result)] }

def submitted (x : ExecCmdClient) : ExecCmdClient := { x with receiver := x.receiver + 1 }

def handleConnected (code : Int32) (x : ExecCmdClient) : ExecCmdClient :=
  if code ≠ 0 then x.receive (.failure code) else x

def handleInput (response : Response) (x : ExecCmdClient) : ExecCmdClient :=
  { x with nodeIdToResponse := emplace x.nodeIdToResponse response.nodeId response.payload }

def handleCompleted (errorCode : Int32) (x : ExecCmdClient) : ExecCmdClient :=
  if errorCode ≠ 0 then x.receive (.failure errorCode)
  else x.receive (.success x.nodeIdToResponse)

def handleEvent (spec : ExecCmdSpec) (e : Event) (code outcome : Int32) (x : ExecCmdClient) :
    ExecCmdClient :=
  let x := { x with handled := x.handled ++ [⟨x.receiver, e, outcome⟩] }
  match e with
  | .connected => x.handleConnected code
  | .message _ payload =>
    match spec.deserializeResponse payload with
    | some response => x.handleInput response
    | none => x
  | .completed errorCode => x.handleCompleted errorCode

def send (κ : RouteCodec) (spec : ExecCmdSpec) (r : ClientRouter) (gw : GatewayImpl Tag)
    (outcome : Int32) (x : ExecCmdClient) : Reply ClientRouter :=
  match spec.serializeRequest x.request with
  | none => { router := r, code := EINVAL }
  | some payload => r.send κ x.channel gw spec.serviceId payload outcome

end ExecCmdClient

/-- All the clients that were ever made. One that is gone has let go of its channel. -/
structure Sdk where
  router : ClientRouter := {}
  clients : List ExecCmdClient := []

/-- The `Int32` is the code that the pipe returns if something is sent. -/
inductive SdkAction where
  | make : Request → SdkAction
  | submit : Nat → Int32 → SdkAction
  | destroy : Nat → Int32 → SdkAction
  | router : ClientAction → Int32 → SdkAction

namespace Sdk

def clientOf (clients : List ExecCmdClient) (channel : GatewayId) : Option Nat :=
  clients.findIdx? fun x => x.channel = channel

/-- The handler of a client is called. `none` is undefined behaviour: a handler that has
outlived its client. -/
def handle (κ : RouteCodec) (spec : ExecCmdSpec) (r : ClientRouter)
    (clients : List ExecCmdClient) (id : Nat) (e : Event) (outcome : Int32) : Option Sdk :=
  (clients[id]?).bind fun x => (r.channel x.channel).map fun gw =>
    match e with
    | .connected =>
      let reply := x.send κ spec r gw outcome
      ⟨reply.router, clients.set id (x.handleEvent spec e reply.code outcome)⟩
    | e => ⟨r, clients.set id (x.handleEvent spec e 0 outcome)⟩

def dispatch (κ : RouteCodec) (spec : ExecCmdSpec) (clients : List ExecCmdClient)
    (outcome : Int32) (reply : Reply ClientRouter) : Option Sdk :=
  match reply.call with
  | some (.event g e) =>
    match clientOf clients g with
    | some id => handle κ spec reply.router clients id e outcome
    | none => some ⟨reply.router, clients⟩
  | _ => some ⟨reply.router, clients⟩

def make (κ : RouteCodec) (request : Request) (s : Sdk) : Option Sdk :=
  (s.router.perform κ .makeGateway).map fun reply =>
    ⟨reply.router, s.clients ++ [{ channel := s.router.gateways.length, request := request }]⟩

def submit (κ : RouteCodec) (spec : ExecCmdSpec) (id : Nat) (outcome : Int32) (s : Sdk) :
    Option Sdk :=
  (s.clients[id]?).bind fun x =>
    (s.router.perform κ (.subscribe x.channel (some (ExecCmdClient.input spec)))).bind
      (dispatch κ spec (s.clients.set id x.submitted) outcome)

def destroy (κ : RouteCodec) (id : Nat) (outcome : Int32) (s : Sdk) : Option Sdk :=
  (s.clients[id]?).bind fun x =>
    (s.router.perform κ (.release x.channel outcome)).map fun reply =>
      { s with router := reply.router }

def isForeign (s : Sdk) (a : ClientAction) : Bool :=
  s.clients.all fun x => a.asker ≠ some x.channel

def step (κ : RouteCodec) (spec : ExecCmdSpec) (s : Sdk) : SdkAction → Option Sdk
  | .make request => s.make κ request
  | .submit id outcome => s.submit κ spec id outcome
  | .destroy id outcome => s.destroy κ id outcome
  | .router a outcome =>
    if s.isForeign a then (s.router.perform κ a).bind (dispatch κ spec s.clients outcome)
    else none

def Reachable (κ : RouteCodec) (spec : ExecCmdSpec) (s : Sdk) : Prop :=
  Runs.Reachable (step κ spec) {} s

end Sdk

namespace ExecCmdClient

def asks (spec : ExecCmdSpec) (x : ExecCmdClient) : Event → Option Bytes
  | .connected => spec.serializeRequest x.request
  | _ => none

def sendCode (spec : ExecCmdSpec) (x : ExecCmdClient) (outcome : Int32) : Int32 :=
  if (spec.serializeRequest x.request).isSome then outcome else EINVAL

def answered (spec : ExecCmdSpec) (x : ExecCmdClient) (e : Event) (outcome : Int32)
    (gw : GatewayImpl Tag) : GatewayImpl Tag :=
  match x.asks spec e with
  | some payload => gw.advance.post (.msg gw.nextSequence.toNat payload) outcome
  | none => gw

/-- What a step does to a client and its gateway, apart from a submission. -/
inductive Heard (spec : ExecCmdSpec) (x : ExecCmdClient) (gw : GatewayImpl Tag) :
    ExecCmdClient → GatewayImpl Tag → Prop where
  | nothing {gw' : GatewayImpl Tag} (framed : Framed gw gw') (events : gw'.events = gw.events) :
      Heard spec x gw x gw'
  | ignored {gw' : GatewayImpl Tag} (framed : Framed gw gw') (e : Event)
      (events : gw'.events = gw.events ++ [e]) (unended : ∀ c, .completed c ∉ gw.events)
      (unhandled : gw'.handles e = false) : Heard spec x gw x gw'
  | told {gw' : GatewayImpl Tag} (framed : Framed gw gw') (e : Event)
      (events : gw'.events = gw.events ++ [e]) (unended : ∀ c, .completed c ∉ gw.events)
      (handled : gw'.handles e = true) (outcome : Int32) :
      Heard spec x gw (x.handleEvent spec e (x.sendCode spec outcome) outcome)
        (x.answered spec e outcome gw')

inductive Moved (spec : ExecCmdSpec) (x : ExecCmdClient) (gw : GatewayImpl Tag)
    (x' : ExecCmdClient) (gw' : GatewayImpl Tag) : Prop where
  | heard (h : Heard spec x gw x' gw')
  | submitted (h : Heard spec x.submitted (gw.subscribe (some (input spec))) x' gw')

structure Fresh (x : ExecCmdClient) (gw : GatewayImpl Tag) : Prop where
  receiver : x.receiver = 0
  collected : x.nodeIdToResponse = ∅
  results : x.results = []
  handled : x.handled = []
  handler : gw.eventHandler = none
  sequence : gw.nextSequence = 0
  posts : gw.posts = []
  events : gw.events = []

@[simp] theorem events_answered (spec : ExecCmdSpec) (x : ExecCmdClient) (e : Event)
    (outcome : Int32) (gw : GatewayImpl Tag) :
    (x.answered spec e outcome gw).events = gw.events := by
  unfold answered
  split <;> rfl

theorem channel_handleEvent (spec : ExecCmdSpec) (e : Event) (code outcome : Int32)
    (x : ExecCmdClient) : (x.handleEvent spec e code outcome).channel = x.channel := by
  cases e with
  | connected =>
    simp only [handleEvent, handleConnected]
    split <;> rfl
  | message sequence payload =>
    simp only [handleEvent]
    split <;> rfl
  | completed errorCode =>
    simp only [handleEvent, handleCompleted]
    split <;> rfl

theorem send_eq {κ : RouteCodec} {r : ClientRouter} {g : GatewayId} {gw : GatewayImpl Tag}
    (hc : r.isConnected = true) (hr : r.isRegisteredGateway gw.endpoint = true)
    (serviceId : ServiceId) (payload : Bytes) (outcome : Int32) :
    (r.send κ g gw serviceId payload outcome).code = outcome ∧
    (r.send κ g gw serviceId payload outcome).router.gateways = r.gateways.modify g fun x =>
      x.advance.post (.msg gw.nextSequence.toNat payload) outcome := by
  unfold ClientRouter.send
  simp [hc, hr]

end ExecCmdClient

namespace Sdk

open ExecCmdClient

theorem clientOf_eq_none {clients : List ExecCmdClient} {g : GatewayId} :
    clientOf clients g = none ↔ ∀ x ∈ clients, x.channel ≠ g := by
  simp [clientOf]

theorem clientOf_eq_some {clients : List ExecCmdClient} {g : GatewayId} {id : Nat}
    (h : clientOf clients g = some id) : ∃ x, clients[id]? = some x ∧ x.channel = g := by
  obtain ⟨hlt, hg, _⟩ := List.findIdx?_eq_some_iff_getElem.mp h
  exact ⟨clients[id], List.getElem?_eq_getElem hlt, by simpa using hg⟩

theorem index_eq {clients : List ExecCmdClient} (h : (clients.map (·.channel)).Nodup)
    {i j : Nat} {x y : ExecCmdClient} (hi : clients[i]? = some x) (hj : clients[j]? = some y)
    (hc : x.channel = y.channel) : i = j := by
  obtain ⟨hlt, rfl⟩ := List.getElem?_eq_some_iff.mp hi
  obtain ⟨hlt', rfl⟩ := List.getElem?_eq_some_iff.mp hj
  have hmap : (clients.map (·.channel))[i]? = (clients.map (·.channel))[j]? := by
    simp [hlt, hlt', hc]
  exact (List.getElem?_inj (by simpa using hlt) h).mp hmap

theorem map_channel_set {clients : List ExecCmdClient} {id : Nat} {x x' : ExecCmdClient}
    (hx : clients[id]? = some x) (hc : x'.channel = x.channel) :
    (clients.set id x').map (·.channel) = clients.map (·.channel) := by
  obtain ⟨hlt, rfl⟩ := List.getElem?_eq_some_iff.mp hx
  rw [List.map_set, hc]
  apply List.ext_getElem?
  intro j
  by_cases hj : id = j
  · subst hj
    simp [hlt]
  · simp [List.getElem?_set_ne hj]

/-- What the handler of a client does, all told. -/
theorem handle_cases {κ : RouteCodec} {spec : ExecCmdSpec} {r : ClientRouter}
    {clients : List ExecCmdClient} {id : Nat} {e : Event} {outcome : Int32} {s' : Sdk}
    (h : handle κ spec r clients id e outcome = some s') {x : ExecCmdClient}
    (hx : clients[id]? = some x)
    (hgreeted : e = .connected → r.isConnected = true ∧ r.Registered x.channel) :
    s'.clients = clients.set id (x.handleEvent spec e (x.sendCode spec outcome) outcome) ∧
    ((x.asks spec e = none ∧ s'.router = r) ∨
      ∃ payload gw, x.asks spec e = some payload ∧ r.gateways[x.channel]? = some gw ∧
        r.step κ (.send x.channel spec.serviceId payload outcome) = some s'.router ∧
        s'.router.gateways = r.gateways.modify x.channel fun gw' =>
          gw'.advance.post (.msg gw.nextSequence.toNat payload) outcome) := by
  simp only [handle, hx, Option.bind_some] at h
  obtain ⟨gw, hgw, h⟩ := Option.map_eq_some_iff.mp h
  cases e with
  | message sequence payload =>
    cases h
    exact ⟨rfl, Or.inl ⟨rfl, rfl⟩⟩
  | completed errorCode =>
    cases h
    exact ⟨rfl, Or.inl ⟨rfl, rfl⟩⟩
  | connected =>
    cases h
    obtain ⟨hconn, gw', hg', hreg⟩ := hgreeted rfl
    have hg := (ClientRouter.channel_eq_some.mp hgw).1
    rw [hg] at hg'
    cases hg'
    cases hser : spec.serializeRequest x.request with
    | none => exact ⟨by simp [ExecCmdClient.send, sendCode, hser],
        Or.inl ⟨hser, by simp [ExecCmdClient.send, hser]⟩⟩
    | some payload =>
      obtain ⟨hcode, hgs⟩ :=
        send_eq (κ := κ) (g := x.channel) hconn hreg spec.serviceId payload outcome
      refine ⟨by simp [ExecCmdClient.send, sendCode, hser, hcode],
        Or.inr ⟨payload, gw, hser, hg, ?_, ?_⟩⟩
      · simp [ClientRouter.step, ClientRouter.perform, hgw, ExecCmdClient.send, hser]
      · simpa [ExecCmdClient.send, hser] using hgs

theorem unended_of_over {gw gw' : GatewayImpl Tag}
    (hover : ∀ c, .completed c ∈ gw.events → gw'.events = gw.events) {e : Event}
    (he : gw'.events = gw.events ++ [e]) : ∀ c, .completed c ∉ gw.events := by
  intro c hc
  have hsame := hover c hc
  rw [he] at hsame
  simp at hsame

theorem heard_of_uncalled {spec : ExecCmdSpec} {call : Option Call} {x : ExecCmdClient}
    {gw gw' : GatewayImpl Tag} (hframed : Framed gw gw') (hhears : Hears call x.channel gw gw')
    (hover : ∀ c, .completed c ∈ gw.events → gw'.events = gw.events)
    (huncalled : ∀ e, call ≠ some (.event x.channel e)) : Heard spec x gw x gw' := by
  cases hhears with
  | nothing events uncalled => exact .nothing hframed events
  | event e events called =>
    refine .ignored hframed e events (unended_of_over hover events) ?_
    by_contra hh
    rw [if_pos (by simpa using hh)] at called
    exact huncalled e called

theorem heard_of_called {spec : ExecCmdSpec} {x : ExecCmdClient} {e : Event}
    {gw gw' : GatewayImpl Tag} (hframed : Framed gw gw')
    (hhears : Hears (some (.event x.channel e)) x.channel gw gw')
    (hover : ∀ c, .completed c ∈ gw.events → gw'.events = gw.events) (outcome : Int32) :
    Heard spec x gw (x.handleEvent spec e (x.sendCode spec outcome) outcome)
      (x.answered spec e outcome gw') := by
  cases hhears with
  | nothing events uncalled => exact absurd rfl (uncalled e)
  | event e' events called =>
    split at called
    · next hh =>
      cases called
      exact .told hframed e events (unended_of_over hover events) hh outcome
    · cases called

theorem dispatch_heard {κ : RouteCodec} {spec : ExecCmdSpec} {clients : List ExecCmdClient}
    {outcome : Int32} {reply : Reply ClientRouter} {s' : Sdk}
    (h : dispatch κ spec clients outcome reply = some s')
    (hone : (clients.map (·.channel)).Nodup)
    (hgreeted : ∀ g, reply.call = some (.event g .connected) →
      reply.router.isConnected = true ∧ reply.router.Registered g)
    {id : Nat} {x : ExecCmdClient} (hx : clients[id]? = some x) {gw gw' : GatewayImpl Tag}
    (hg : reply.router.gateways[x.channel]? = some gw') (hframed : Framed gw gw')
    (hhears : Hears reply.call x.channel gw gw')
    (hover : ∀ c, .completed c ∈ gw.events → gw'.events = gw.events) :
    ∃ x' gw'', s'.clients[id]? = some x' ∧ s'.router.gateways[x.channel]? = some gw'' ∧
      x'.channel = x.channel ∧ Heard spec x gw x' gw'' := by
  unfold dispatch at h
  split at h
  · next g e hcall =>
    rw [hcall] at hhears
    split at h
    · next id' hid =>
      obtain ⟨y, hy, rfl⟩ := clientOf_eq_some hid
      obtain ⟨hclients, hrouter⟩ := handle_cases h hy fun he => hgreeted _ (by rw [hcall, he])
      have hlt : id' < clients.length := (List.getElem?_eq_some_iff.mp hy).1
      by_cases hi : id = id'
      · subst hi
        rw [hy] at hx
        cases hx
        refine ⟨_, x.answered spec e outcome gw',
          by rw [hclients, List.getElem?_set_self hlt], ?_, channel_handleEvent _ _ _ _ _,
          heard_of_called hframed hhears hover outcome⟩
        rcases hrouter with ⟨hasks, hr⟩ | ⟨payload, gw₀, hasks, hg₀, _, hgs⟩
        · rw [hr]
          simpa [answered, hasks] using hg
        · rw [hg] at hg₀
          cases hg₀
          rw [hgs]
          simp [answered, hasks, hg]
      · have hne : y.channel ≠ x.channel := fun hc => hi (index_eq hone hx hy hc.symm)
        refine ⟨x, gw', by rw [hclients, List.getElem?_set_ne (Ne.symm hi)]; exact hx, ?_, rfl,
          heard_of_uncalled hframed hhears hover fun e' hc => ?_⟩
        · rcases hrouter with ⟨_, hr⟩ | ⟨payload, gw₀, _, _, _, hgs⟩
          · rw [hr]
            exact hg
          · rw [hgs]
            simpa [hne] using hg
        · rw [Option.some.injEq, Call.event.injEq] at hc
          exact hne hc.1
    · next hid =>
      cases h
      refine ⟨x, gw', hx, hg, rfl, heard_of_uncalled hframed hhears hover fun e' hc => ?_⟩
      cases hc
      exact clientOf_eq_none.mp hid x (List.mem_of_getElem? hx) rfl
  · next hcall =>
    cases h
    exact ⟨x, gw', hx, hg, rfl,
      heard_of_uncalled hframed hhears hover fun e' hc => hcall _ _ hc⟩

/-- Apart from its clients, a call of a handler may change the router by one message. -/
theorem dispatch_router {κ : RouteCodec} {spec : ExecCmdSpec} {clients : List ExecCmdClient}
    {outcome : Int32} {reply : Reply ClientRouter} {s' : Sdk}
    (h : dispatch κ spec clients outcome reply = some s')
    (hgreeted : ∀ g, reply.call = some (.event g .connected) →
      reply.router.isConnected = true ∧ reply.router.Registered g) :
    s'.clients.map (·.channel) = clients.map (·.channel) ∧
    (s'.router = reply.router ∨ ∃ g payload, reply.call = some (.event g .connected) ∧
      reply.router.step κ (.send g spec.serviceId payload outcome) = some s'.router) := by
  unfold dispatch at h
  split at h
  · next g e hcall =>
    split at h
    · next id hid =>
      obtain ⟨x, hx, rfl⟩ := clientOf_eq_some hid
      obtain ⟨hclients, hrouter⟩ := handle_cases h hx fun he => hgreeted _ (by rw [hcall, he])
      refine ⟨by rw [hclients]; exact map_channel_set hx (channel_handleEvent _ _ _ _ _), ?_⟩
      rcases hrouter with ⟨_, hr⟩ | ⟨payload, gw, hasks, _, hstep, _⟩
      · exact Or.inl hr
      · refine Or.inr ⟨x.channel, payload, ?_, hstep⟩
        cases e with
        | connected => exact hcall
        | message sequence payload => cases hasks
        | completed errorCode => cases hasks
    · cases h
      exact ⟨rfl, Or.inl rfl⟩
  · cases h
    exact ⟨rfl, Or.inl rfl⟩

structure Inv (s : Sdk) : Prop where
  wf : s.router.Wf
  orderly : s.router.Orderly
  one : (s.clients.map (·.channel)).Nodup
  has : ∀ g ∈ s.clients.map (·.channel), g < s.router.gateways.length

theorem inv_init : ({} : Sdk).Inv where
  wf := ClientRouter.wf_init
  orderly := ClientRouter.orderly_init
  one := List.nodup_nil
  has := fun _ h => by cases h

theorem Inv.gateway {s : Sdk} (h : s.Inv) {id : Nat} {x : ExecCmdClient}
    (hx : s.clients[id]? = some x) : ∃ gw, s.router.gateways[x.channel]? = some gw :=
  ⟨_, List.getElem?_eq_getElem (h.has _ (List.mem_map_of_mem (List.mem_of_getElem? hx)))⟩

/-- What has become of the clients that there were, and how new ones begin. -/
def Moves (spec : ExecCmdSpec) (s s' : Sdk) : Prop :=
  ∀ (id : Nat) (x' : ExecCmdClient), s'.clients[id]? = some x' →
    ∃ gw', s'.router.gateways[x'.channel]? = some gw' ∧
    (Fresh x' gw' ∨ ∃ x gw, s.clients[id]? = some x ∧ s.router.gateways[x.channel]? = some gw ∧
      x'.channel = x.channel ∧ Moved spec x gw x' gw')

theorem Inv.dispatch {κ : RouteCodec} {spec : ExecCmdSpec} {s s' : Sdk} (h : s.Inv)
    {a : ClientAction} {reply : Reply ClientRouter} (hp : s.router.perform κ a = some reply)
    {clients : List ExecCmdClient} (hc : clients.map (·.channel) = s.clients.map (·.channel))
    {outcome : Int32} (hs : Sdk.dispatch κ spec clients outcome reply = some s')
    (hmoved : ∀ (id : Nat) (x : ExecCmdClient), clients[id]? = some x →
      ∃ y gw gw₁ gw', s.clients[id]? = some y ∧ s.router.gateways[x.channel]? = some gw ∧
        reply.router.gateways[x.channel]? = some gw' ∧ gw₁.events = gw.events ∧
        Framed gw₁ gw' ∧ ∀ x' gw'', Heard spec x gw₁ x' gw'' → Moved spec y gw x' gw'') :
    s'.Inv ∧ Moves spec s s' := by
  have hstep : s.router.step κ a = some reply.router :=
    ClientRouter.step_eq_some.mpr ⟨reply, hp, rfl⟩
  have hw := h.wf.step hstep
  have ho := h.orderly.step h.wf hstep
  have hlen := (h.wf.evolves hstep).length_le
  have hgreeted := fun g => h.orderly.greeted h.wf hp (g := g)
  have hone : (clients.map (·.channel)).Nodup := hc ▸ h.one
  obtain ⟨hclients, hrouter⟩ := dispatch_router hs hgreeted
  refine ⟨?_, fun id x' hx' => ?_⟩
  · have hone' : (s'.clients.map (·.channel)).Nodup := by
      rw [hclients]
      exact hone
    have hhas : ∀ g ∈ s'.clients.map (·.channel), g < reply.router.gateways.length := by
      intro g hg
      rw [hclients, hc] at hg
      exact Nat.lt_of_lt_of_le (h.has g hg) hlen
    rcases hrouter with hr | ⟨g, payload, _, hsend⟩
    · rw [← hr] at hw ho hhas
      exact ⟨hw, ho, hone', hhas⟩
    · exact ⟨hw.step hsend, ho.step hw hsend, hone', fun g hg =>
        Nat.lt_of_lt_of_le (hhas g hg) (hw.evolves hsend).length_le⟩
  · have hsome : ∃ x, clients[id]? = some x := by
      have hlt : id < s'.clients.length := (List.getElem?_eq_some_iff.mp hx').1
      have hlen := congrArg List.length hclients
      simp only [List.length_map] at hlen
      exact ⟨_, List.getElem?_eq_getElem (hlen ▸ hlt)⟩
    obtain ⟨x, hx⟩ := hsome
    obtain ⟨y, gw, gw₁, gw', hy, hg, hg', hev, hframed, hmove⟩ := hmoved id x hx
    obtain ⟨z, hz, hhears⟩ := ClientRouter.hears hp hg
    rw [hg'] at hz
    cases hz
    have hhears₁ : Hears reply.call x.channel gw₁ gw' := by
      cases hhears with
      | nothing events uncalled => exact .nothing (events.trans hev.symm) uncalled
      | event e events called => exact .event e (by rw [events, hev]) called
    have hover : ∀ c, .completed c ∈ gw₁.events → gw'.events = gw₁.events := by
      intro c hin
      rw [hev] at hin ⊢
      exact h.orderly.over h.wf hstep hg hg' hin
    obtain ⟨x'', gw'', hx'', hg'', hch, hheard⟩ :=
      dispatch_heard hs hone hgreeted hx hg' hframed hhears₁ hover
    rw [hx'] at hx''
    cases hx''
    have hsame : x.channel = y.channel := by
      have hmap := congrArg (·[id]?) hc
      simpa [hx, hy] using hmap
    refine ⟨gw'', by rw [hch]; exact hg'', Or.inr ⟨y, gw, hy, ?_, hch.trans hsame,
      hmove _ _ hheard⟩⟩
    rw [← hsame]
    exact hg

theorem isForeign_iff {s : Sdk} {a : ClientAction} :
    s.isForeign a = true ↔ ∀ x ∈ s.clients, a.asker ≠ some x.channel := by
  simp [isForeign]

theorem Inv.foreign {κ : RouteCodec} {spec : ExecCmdSpec} {s s' : Sdk} (h : s.Inv)
    {a : ClientAction} (ha : s.isForeign a = true) {reply : Reply ClientRouter}
    (hp : s.router.perform κ a = some reply) {outcome : Int32}
    (hs : Sdk.dispatch κ spec s.clients outcome reply = some s') :
    s'.Inv ∧ Moves spec s s' := by
  refine h.dispatch hp rfl hs fun id x hx => ?_
  obtain ⟨gw, hg⟩ := h.gateway hx
  obtain ⟨gw', hg', hframed⟩ :=
    ClientRouter.framed hp (isForeign_iff.mp ha x (List.mem_of_getElem? hx)) hg
  exact ⟨x, gw, gw, gw', hx, hg, hg', rfl, hframed, fun _ _ => .heard⟩

theorem Inv.submit {κ : RouteCodec} {spec : ExecCmdSpec} {s s' : Sdk} (h : s.Inv) {id : Nat}
    {outcome : Int32} (hs : s.submit κ spec id outcome = some s') : s'.Inv ∧ Moves spec s s' := by
  obtain ⟨x, hx, hs⟩ := Option.bind_eq_some_iff.mp hs
  obtain ⟨reply, hp, hs⟩ := Option.bind_eq_some_iff.mp hs
  have hlt : id < s.clients.length := (List.getElem?_eq_some_iff.mp hx).1
  have hmap : (s.clients.set id x.submitted).map (·.channel) = s.clients.map (·.channel) :=
    map_channel_set hx rfl
  refine h.dispatch hp hmap hs fun i y hy => ?_
  by_cases hi : id = i
  · subst hi
    rw [List.getElem?_set_self hlt] at hy
    cases hy
    obtain ⟨gw, hg⟩ := h.gateway hx
    obtain ⟨gw', hg', hframed⟩ := ClientRouter.framed_subscribe hp hg
    exact ⟨x, gw, gw.subscribe (some (input spec)), gw', hx, hg, hg', rfl, hframed,
      fun _ _ => .submitted⟩
  · rw [List.getElem?_set_ne hi] at hy
    obtain ⟨gw, hg⟩ := h.gateway hy
    have hne : (ClientAction.subscribe x.channel (some (input spec))).asker ≠ some y.channel :=
      fun hc => hi (index_eq h.one hx hy (Option.some.inj hc))
    obtain ⟨gw', hg', hframed⟩ := ClientRouter.framed hp hne hg
    exact ⟨y, gw, gw, gw', hy, hg, hg', rfl, hframed, fun _ _ => .heard⟩

theorem Inv.destroy {κ : RouteCodec} {spec : ExecCmdSpec} {s s' : Sdk} (h : s.Inv) {id : Nat}
    {outcome : Int32} (hs : s.destroy κ id outcome = some s') : s'.Inv ∧ Moves spec s s' := by
  obtain ⟨x, hx, hs⟩ := Option.bind_eq_some_iff.mp hs
  obtain ⟨reply, hp, rfl⟩ := Option.map_eq_some_iff.mp hs
  obtain ⟨gw, hg⟩ := h.gateway hx
  have hcall := (ClientRouter.framed_release hp hg).1
  have hdispatch : Sdk.dispatch κ spec s.clients outcome reply =
      some { s with router := reply.router } := by simp [Sdk.dispatch, hcall]
  refine h.dispatch hp rfl hdispatch fun i y hy => ?_
  obtain ⟨gw, hg⟩ := h.gateway hy
  obtain ⟨_, gw', hg', hframed⟩ := ClientRouter.framed_release hp hg
  exact ⟨y, gw, gw, gw', hy, hg, hg', rfl, hframed, fun _ _ => .heard⟩

theorem Inv.make {κ : RouteCodec} {spec : ExecCmdSpec} {s s' : Sdk} (h : s.Inv)
    {request : Request} (hs : s.make κ request = some s') : s'.Inv ∧ Moves spec s s' := by
  obtain ⟨reply, hp, rfl⟩ := Option.map_eq_some_iff.mp hs
  have hreply : reply.router = s.router.makeGateway ∧ reply.call = none := by
    obtain ⟨_, rfl⟩ : s.router.gateways.length < 2^64 ∧ _ = reply := by
      simpa [ClientRouter.perform] using hp
    exact ⟨rfl, rfl⟩
  obtain ⟨hr, hcall⟩ := hreply
  have hgs : reply.router.gateways = s.router.gateways ++ [{ endpoint := s.router.nextTag }] := by
    rw [hr]
    rfl
  have hfar : ∀ g ∈ s.clients.map (·.channel), g ≠ s.router.gateways.length :=
    fun g hg => Nat.ne_of_lt (h.has g hg)
  have hdispatch : Sdk.dispatch κ spec s.clients 0 reply = some ⟨reply.router, s.clients⟩ := by
    simp [Sdk.dispatch, hcall]
  have hforeign : s.isForeign .makeGateway = true := isForeign_iff.mpr fun x _ hx => by cases hx
  obtain ⟨hinv, hmoves⟩ := h.foreign hforeign hp hdispatch
  refine ⟨⟨hinv.wf, hinv.orderly, ?_, ?_⟩, fun id x' hx' => ?_⟩
  · rw [List.map_append, List.nodup_append]
    refine ⟨h.one, List.nodup_singleton _, fun a ha b hb => ?_⟩
    rw [List.map_cons, List.map_nil, List.mem_singleton] at hb
    rw [hb]
    exact hfar a ha
  · intro g hg
    rw [List.map_append] at hg
    rcases List.mem_append.mp hg with hg | hg
    · exact hinv.has g hg
    · rw [List.map_cons, List.map_nil, List.mem_singleton] at hg
      rw [hg, hgs, List.length_append]
      exact Nat.lt_succ_self _
  · rcases Partners.concat_cases hx' with hx' | ⟨_, rfl⟩
    · exact hmoves id x' hx'
    · exact ⟨{ endpoint := s.router.nextTag }, by simp [hgs],
        Or.inl ⟨rfl, rfl, rfl, rfl, rfl, rfl, rfl, rfl⟩⟩

theorem Inv.step {κ : RouteCodec} {spec : ExecCmdSpec} {s s' : Sdk} {a : SdkAction} (h : s.Inv)
    (hs : s.step κ spec a = some s') : s'.Inv ∧ Moves spec s s' := by
  cases a with
  | make request => exact h.make hs
  | submit id outcome => exact h.submit hs
  | destroy id outcome => exact h.destroy hs
  | router a outcome =>
    simp only [Sdk.step] at hs
    split at hs
    · next ha =>
      obtain ⟨reply, hp, hs⟩ := Option.bind_eq_some_iff.mp hs
      exact h.foreign ha hp hs
    · cases hs

def All (R : ExecCmdClient → GatewayImpl Tag → Prop) (s : Sdk) : Prop :=
  ∀ (id : Nat) (x : ExecCmdClient), s.clients[id]? = some x →
    ∃ gw, s.router.gateways[x.channel]? = some gw ∧ R x gw

theorem Moves.all {spec : ExecCmdSpec} {s s' : Sdk} (h : Moves spec s s')
    {R : ExecCmdClient → GatewayImpl Tag → Prop} (hs : s.All R)
    (hfresh : ∀ {x gw}, Fresh x gw → R x gw)
    (hmoved : ∀ {x gw x' gw'}, s'.router.gateways[x'.channel]? = some gw' → R x gw →
      Moved spec x gw x' gw' → R x' gw') : s'.All R := by
  intro id x' hx'
  obtain ⟨gw', hg', hnew | ⟨x, gw, hx, hg, _, hm⟩⟩ := h id x' hx'
  · exact ⟨gw', hg', hfresh hnew⟩
  · obtain ⟨gw₀, hg₀, hR⟩ := hs id x hx
    rw [hg] at hg₀
    cases hg₀
    exact ⟨gw', hg', hmoved hg' hR hm⟩

/-- What holds of a client as it is made, and is kept, holds of all clients. -/
theorem Reachable.all {κ : RouteCodec} {spec : ExecCmdSpec} {s : Sdk} (h : Reachable κ spec s)
    {R : ExecCmdClient → GatewayImpl Tag → Prop} (hfresh : ∀ {x gw}, Fresh x gw → R x gw)
    (hmoved : ∀ {x gw x' gw'}, R x gw → Moved spec x gw x' gw' → R x' gw') : s.All R := by
  refine (Runs.Reachable.invariant (P := fun s => s.Inv ∧ s.All R) h
    ⟨inv_init, fun _ _ hx => by simp at hx⟩ fun hi hs => ?_).2
  obtain ⟨hinv, hmoves⟩ := hi.1.step hs
  exact ⟨hinv, hmoves.all hi.2 hfresh fun _ => hmoved⟩

end Sdk

end Ocvsmd.Svc
