import Ocvsmd.Gateway
import Ocvsmd.Runs

/-!
`ServerRouterImpl` and its gateways, in the same manner as the client router. The
server has one loop over gateways: the one that reports a lost client.
-/

set_option autoImplicit false

namespace Ocvsmd.Ipc

abbrev ClientId := Nat

structure Endpoint where
  tag : Tag
  clientId : ClientId
  deriving DecidableEq, Repr

structure ServerRouter where
  clientIdToMapOfGateways : ClientId → Option MapOfWeakGateways := fun _ => none
  /-- Of a registered channel factory: which payloads deserialize as its `Input`. -/
  serviceIdToChannelFactory : ServiceId → Option Decoder := fun _ => none
  gateways : List (GatewayImpl Endpoint) := []
  remaining : List GatewayId := []
  /-- For each client, what the pipe accepted and has not carried away yet. -/
  serverPipe : ClientId → List Bytes := fun _ => []

inductive ServerAction where
  | registerChannelFactory : ServiceId → Decoder → ServerAction
  | send : GatewayId → ServiceId → Bytes → Int32 → ServerAction
  | complete : GatewayId → Int32 → ServerAction
  | subscribe : GatewayId → Option Decoder → ServerAction
  | release : GatewayId → Int32 → ServerAction
  | pipeConnected : ClientId → ServerAction
  | pipeMessage : ClientId → Bytes → Int32 → ServerAction
  | pipeDisconnected : ClientId → List GatewayId → ServerAction
  | notifyNext : ServerAction

namespace ServerRouter

def modify (r : ServerRouter) (g : GatewayId)
    (f : GatewayImpl Endpoint → GatewayImpl Endpoint) : ServerRouter :=
  { r with gateways := r.gateways.modify g f }

def pipeSend (r : ServerRouter) (clientId : ClientId) (message : Bytes) (outcome : Int32) :
    ServerRouter :=
  if outcome = 0 then
    { r with serverPipe :=
        Function.update r.serverPipe clientId (r.serverPipe clientId ++ [message]) }
  else r

def setMap (r : ServerRouter) (clientId : ClientId) (m : Option MapOfWeakGateways) :
    ServerRouter :=
  { r with clientIdToMapOfGateways := Function.update r.clientIdToMapOfGateways clientId m }

def registerChannelFactory (r : ServerRouter) (serviceId : ServiceId) (input : Decoder) :
    ServerRouter :=
  { r with serviceIdToChannelFactory :=
      Function.update r.serviceIdToChannelFactory serviceId (some input) }

def isConnected (r : ServerRouter) (endpoint : Endpoint) : Bool :=
  (r.clientIdToMapOfGateways endpoint.clientId).isSome

def lookup (r : ServerRouter) (endpoint : Endpoint) : Option GatewayId :=
  (r.clientIdToMapOfGateways endpoint.clientId).bind (·.lookup endpoint.tag)

def isRegisteredGateway (r : ServerRouter) (endpoint : Endpoint) : Bool :=
  (r.lookup endpoint).isSome

def findGateway (r : ServerRouter) (endpoint : Endpoint) : Option GatewayId :=
  (r.lookup endpoint).filter (isAlive r.gateways)

def raise (r : ServerRouter) (g : GatewayId) (e : Event) : Reply ServerRouter :=
  match r.gateways[g]? with
  | some gw =>
    { router := r.modify g (·.hear e)
      code := gw.eventCode e
      call := if gw.handles e then some (.event g e) else none }
  | none => { router := r }

def send (κ : RouteCodec) (r : ServerRouter) (g : GatewayId) (gw : GatewayImpl Endpoint)
    (serviceId : ServiceId) (payload : Bytes) (outcome : Int32) : Reply ServerRouter :=
  if !r.isConnected gw.endpoint then { router := r, code := ErrorCode.notConnected }
  else if !r.isRegisteredGateway gw.endpoint then { router := r, code := ErrorCode.shutdown }
  else
    let channelMsg : RouteChannelMsg :=
      ⟨gw.endpoint.tag, gw.nextSequence, serviceId, UInt64.ofNat payload.length⟩
    let posted := r.modify g fun gw =>
      gw.advance.post (.msg channelMsg.sequence.toNat payload) outcome
    { router := posted.pipeSend gw.endpoint.clientId
        (κ.serialize (.channelMsg channelMsg) ++ payload) outcome
      code := outcome }

def onGatewaySubscription (r : ServerRouter) (endpoint : Endpoint) : Reply ServerRouter :=
  if r.isConnected endpoint then
    match r.findGateway endpoint with
    | some g => r.raise g .connected
    | none => { router := r }
  else { router := r }

def subscribe (r : ServerRouter) (g : GatewayId) (gw : GatewayImpl Endpoint)
    (handler : Option Decoder) : Reply ServerRouter :=
  { (r.modify g (·.subscribe handler)).onGatewaySubscription gw.endpoint with code := 0 }

/-- The gateway g is dying. Only its history is touched under that name. -/
def onGatewayDisposal (κ : RouteCodec) (r : ServerRouter) (g : GatewayId)
    (endpoint : Endpoint) (completionErr : Int32) (outcome : Int32) : ServerRouter :=
  match r.clientIdToMapOfGateways endpoint.clientId with
  | none => r
  | some mapOfGws =>
    let wasRegistered := (mapOfGws.lookup endpoint.tag).isSome
    let erased := r.setMap endpoint.clientId (some (mapOfGws.erase endpoint.tag))
    if wasRegistered && erased.isConnected endpoint then
      (erased.modify g (·.post (.fin completionErr) outcome)).pipeSend endpoint.clientId
        (κ.serialize (.channelEnd ⟨endpoint.tag, completionErr⟩)) outcome
    else erased

def destroy (κ : RouteCodec) (r : ServerRouter) (g : GatewayId)
    (gw : GatewayImpl Endpoint) (outcome : Int32) : ServerRouter :=
  (r.modify g (·.expire)).onGatewayDisposal κ g gw.endpoint gw.completionErrorCode outcome

/-- `insert` keeps the map of a client that is already there. -/
def handleRouteConnect (κ : RouteCodec) (r : ServerRouter) (clientId : ClientId)
    (outcome : Int32) : Reply ServerRouter :=
  let replied := r.pipeSend clientId (κ.serialize (.connect ⟨currentVersion, 0⟩)) outcome
  if outcome = 0 then
    { router := replied.setMap clientId
        (some ((r.clientIdToMapOfGateways clientId).getD ∅)) }
  else { router := replied, code := outcome }

/-- A new gateway for the first message of a tag, and the channel factory for it. If
the message is not an `Input` of the service, the factory drops the gateway. -/
def makeChannel (κ : RouteCodec) (r : ServerRouter) (clientId : ClientId)
    (mapOfGws : MapOfWeakGateways) (m : RouteChannelMsg) (input : Decoder)
    (realPayload : Bytes) (outcome : Int32) : Reply ServerRouter :=
  let g := r.gateways.length
  let gw : GatewayImpl Endpoint :=
    { endpoint := ⟨m.tag, clientId⟩, events := [.message m.sequence realPayload] }
  let made := { r with gateways := r.gateways ++ [gw] }.setMap clientId
    (some (mapOfGws.insert m.tag g))
  if input realPayload then
    { router := made, call := some (.newChannel g m.serviceId realPayload) }
  else { router := made.destroy κ g gw outcome }

/-- Only the very first message in the sequence is considered to trigger channel factory. -/
def handleRouteChannelMsg (κ : RouteCodec) (r : ServerRouter) (clientId : ClientId)
    (m : RouteChannelMsg) (payload : Bytes) (outcome : Int32) : Option (Reply ServerRouter) :=
  (msgRealPayload payload m).map fun realPayload =>
    match r.clientIdToMapOfGateways clientId with
    | none => { router := r }
    | some mapOfGws =>
      match (mapOfGws.lookup m.tag).filter (isAlive r.gateways) with
      | some g => r.raise g (.message m.sequence realPayload)
      | none =>
        if m.sequence = 0 then
          match r.serviceIdToChannelFactory m.serviceId with
          | some input => r.makeChannel κ clientId mapOfGws m input realPayload outcome
          | none => { router := r }
        else { router := r }

def handleRouteChannelEnd (r : ServerRouter) (clientId : ClientId) (e : RouteChannelEnd) :
    Reply ServerRouter :=
  match r.clientIdToMapOfGateways clientId with
  | none => { router := r }
  | some mapOfGws =>
    match r.findGateway ⟨e.tag, clientId⟩ with
    | some g =>
      (r.setMap clientId (some (mapOfGws.erase e.tag))).raise g (.completed e.errorCode)
    | none => { router := r }

/-- `none` is undefined behaviour. -/
def handlePipeMessage (κ : RouteCodec) (r : ServerRouter) (clientId : ClientId)
    (payload : Bytes) (outcome : Int32) : Option (Reply ServerRouter) :=
  match κ.deserialize payload with
  | none => some { router := r, code := EINVAL }
  | some .empty => some { router := r, code := EINVAL }
  | some (.connect _) => some (r.handleRouteConnect κ clientId outcome)
  | some (.channelMsg m) => r.handleRouteChannelMsg κ clientId m payload outcome
  | some (.channelEnd e) => some (r.handleRouteChannelEnd clientId e)

/-- The loop holds weak pointers, and locks each one at its turn. -/
def handlePipeDisconnected (r : ServerRouter) (clientId : ClientId)
    (order : List GatewayId) : Reply ServerRouter :=
  match r.clientIdToMapOfGateways clientId with
  | some _ => { router := { r.setMap clientId none with remaining := order } }
  | none => { router := r }

def notifyNext (r : ServerRouter) : Option (Reply ServerRouter) :=
  match r.remaining with
  | [] => none
  | g :: rest =>
    let next := { r with remaining := rest }
    some (if isAlive r.gateways g then next.raise g (.completed ErrorCode.disconnected)
      else { router := next })

def ids (r : ServerRouter) (clientId : ClientId) : List GatewayId :=
  ((r.clientIdToMapOfGateways clientId).map (·.ids)).getD []

def channel (r : ServerRouter) (g : GatewayId) : Option (GatewayImpl Endpoint) :=
  (r.gateways[g]?).filter (·.owned)

def idle (r : ServerRouter) : Bool := r.remaining.isEmpty

/-- `none` when the action cannot happen. -/
def perform (κ : RouteCodec) (r : ServerRouter) : ServerAction → Option (Reply ServerRouter)
  | .registerChannelFactory serviceId input =>
    some { router := r.registerChannelFactory serviceId input }
  | .send g serviceId payload outcome =>
    (r.channel g).map fun gw => r.send κ g gw serviceId payload outcome
  | .complete g errorCode =>
    (r.channel g).map fun _ => { router := r.modify g (·.complete errorCode) }
  | .subscribe g handler => (r.channel g).map fun gw => r.subscribe g gw handler
  | .release g outcome => (r.channel g).map fun gw => { router := r.destroy κ g gw outcome }
  | .pipeConnected _ => if r.idle then some { router := r } else none
  | .pipeMessage clientId payload outcome =>
    if r.idle then r.handlePipeMessage κ clientId payload outcome else none
  | .pipeDisconnected clientId order =>
    if r.idle ∧ order.Perm (r.ids clientId) then
      some (r.handlePipeDisconnected clientId order)
    else none
  | .notifyNext => r.notifyNext

def step (κ : RouteCodec) (r : ServerRouter) (a : ServerAction) : Option ServerRouter :=
  (r.perform κ a).map (·.router)

def Reachable (κ : RouteCodec) (r : ServerRouter) : Prop := Runs.Reachable (step κ) {} r

theorem step_eq_some {κ : RouteCodec} {r r' : ServerRouter} {a : ServerAction} :
    r.step κ a = some r' ↔ ∃ reply, r.perform κ a = some reply ∧ reply.router = r' := by
  simp [step]

theorem channel_eq_some {r : ServerRouter} {g : GatewayId} {gw : GatewayImpl Endpoint} :
    r.channel g = some gw ↔ r.gateways[g]? = some gw ∧ gw.owned = true := by
  simp [channel, Option.filter_eq_some_iff]

def transmit (κ : RouteCodec) (r : ServerRouter) (g : GatewayId) (gw : GatewayImpl Endpoint)
    (serviceId : ServiceId) (payload : Bytes) (outcome : Int32) : ServerRouter :=
  (r.modify g (·.advance.post (.msg gw.nextSequence.toNat payload) outcome)).pipeSend
    gw.endpoint.clientId (κ.serialize (.channelMsg ⟨gw.endpoint.tag, gw.nextSequence, serviceId,
      UInt64.ofNat payload.length⟩) ++ payload) outcome

/-- What a router does with each action, and when. -/
inductive Performs (κ : RouteCodec) (r : ServerRouter) :
    ServerAction → Reply ServerRouter → Prop where
  | nothing (a : ServerAction) (code : Int32) : Performs κ r a { router := r, code := code }
  | registers (serviceId : ServiceId) (input : Decoder) :
      Performs κ r (.registerChannelFactory serviceId input)
        { router := r.registerChannelFactory serviceId input }
  | sends {g : GatewayId} {gw : GatewayImpl Endpoint} (serviceId : ServiceId) (payload : Bytes)
      (outcome : Int32) (channel : r.channel g = some gw)
      (registered : (r.lookup gw.endpoint).isSome = true) :
      Performs κ r (.send g serviceId payload outcome)
        { router := r.transmit κ g gw serviceId payload outcome
          code := outcome }
  | completes {g : GatewayId} {gw : GatewayImpl Endpoint} (errorCode : Int32)
      (channel : r.channel g = some gw) :
      Performs κ r (.complete g errorCode) { router := r.modify g (·.complete errorCode) }
  | subscribes {g : GatewayId} {gw : GatewayImpl Endpoint} (handler : Option Decoder)
      (channel : r.channel g = some gw) :
      Performs κ r (.subscribe g handler) { router := r.modify g (·.subscribe handler) }
  | greets {g i : GatewayId} {gw : GatewayImpl Endpoint} (handler : Option Decoder)
      (channel : r.channel g = some gw)
      (found : (r.modify g (·.subscribe handler)).findGateway gw.endpoint = some i) :
      Performs κ r (.subscribe g handler)
        { (r.modify g (·.subscribe handler)).raise i .connected with code := 0 }
  | destroys {g : GatewayId} {gw : GatewayImpl Endpoint} (outcome : Int32)
      (channel : r.channel g = some gw) :
      Performs κ r (.release g outcome) { router := r.destroy κ g gw outcome }
  | connects {payload : Bytes} (c : ClientId) (outcome : Int32) (idle : r.idle = true)
      (request : isConnect κ payload = true) :
      Performs κ r (.pipeMessage c payload outcome) (r.handleRouteConnect κ c outcome)
  | passes {c : ClientId} {g : GatewayId} {m : RouteChannelMsg} {payload realPayload : Bytes}
      (outcome : Int32) (idle : r.idle = true)
      (decoded : κ.deserialize payload = some (.channelMsg m))
      (cut : msgRealPayload payload m = some realPayload)
      (found : r.findGateway ⟨m.tag, c⟩ = some g) :
      Performs κ r (.pipeMessage c payload outcome) (r.raise g (.message m.sequence realPayload))
  | opens {c : ClientId} {m : RouteChannelMsg} {payload realPayload : Bytes}
      {mapOfGws : MapOfWeakGateways} {input : Decoder} (outcome : Int32) (idle : r.idle = true)
      (decoded : κ.deserialize payload = some (.channelMsg m))
      (cut : msgRealPayload payload m = some realPayload)
      (known : r.clientIdToMapOfGateways c = some mapOfGws)
      (unfound : r.findGateway ⟨m.tag, c⟩ = none) (first : m.sequence = 0)
      (factory : r.serviceIdToChannelFactory m.serviceId = some input) :
      Performs κ r (.pipeMessage c payload outcome)
        (r.makeChannel κ c mapOfGws m input realPayload outcome)
  | ends {c : ClientId} {g : GatewayId} {e : RouteChannelEnd} {payload : Bytes}
      {mapOfGws : MapOfWeakGateways} (outcome : Int32) (idle : r.idle = true)
      (decoded : κ.deserialize payload = some (.channelEnd e))
      (known : r.clientIdToMapOfGateways c = some mapOfGws)
      (found : r.findGateway ⟨e.tag, c⟩ = some g) :
      Performs κ r (.pipeMessage c payload outcome)
        ((r.setMap c (some (mapOfGws.erase e.tag))).raise g (.completed e.errorCode))
  | loses {c : ClientId} {order : List GatewayId} (idle : r.idle = true)
      (ids : order.Perm (r.ids c)) (known : (r.clientIdToMapOfGateways c).isSome = true) :
      Performs κ r (.pipeDisconnected c order)
        { router := { r.setMap c none with remaining := order } }
  | notifies {g : GatewayId} {rest : List GatewayId} (remaining : r.remaining = g :: rest)
      (alive : isAlive r.gateways g = true) :
      Performs κ r .notifyNext
        (({ r with remaining := rest } : ServerRouter).raise g
          (.completed ErrorCode.disconnected))
  | skips {g : GatewayId} {rest : List GatewayId} (remaining : r.remaining = g :: rest)
      (dead : isAlive r.gateways g = false) :
      Performs κ r .notifyNext { router := { r with remaining := rest } }

theorem performs_send {κ : RouteCodec} {r : ServerRouter} {g : GatewayId}
    {gw : GatewayImpl Endpoint} (hg : r.channel g = some gw) (serviceId : ServiceId)
    (payload : Bytes) (outcome : Int32) :
    r.Performs κ (.send g serviceId payload outcome)
      (r.send κ g gw serviceId payload outcome) := by
  unfold send
  split
  · exact .nothing _ _
  · split
    · exact .nothing _ _
    · next hreg =>
      exact .sends serviceId payload outcome hg
        (Option.isSome_iff_ne_none.mpr (by simpa [isRegisteredGateway] using hreg))

theorem performs_pipeMessage {κ : RouteCodec} {r : ServerRouter} {c : ClientId}
    {payload : Bytes} {outcome : Int32} {reply : Reply ServerRouter} (hi : r.idle = true)
    (hp : r.handlePipeMessage κ c payload outcome = some reply) :
    r.Performs κ (.pipeMessage c payload outcome) reply := by
  unfold handlePipeMessage at hp
  split at hp
  · cases hp
    exact .nothing _ _
  · cases hp
    exact .nothing _ _
  · next hd =>
    cases hp
    exact .connects c outcome hi (by simp [isConnect, hd])
  · next m hd =>
    obtain ⟨realPayload, hcut, rfl⟩ := Option.map_eq_some_iff.mp hp
    split
    · exact .nothing _ _
    · next mapOfGws hm =>
      have hfind : r.findGateway ⟨m.tag, c⟩ =
          (mapOfGws.lookup m.tag).filter (isAlive r.gateways) := by
        simp [findGateway, lookup, hm]
      split
      · next hf => exact .passes outcome hi hd hcut (hfind.trans hf)
      · next hf =>
        split
        · next hs =>
          split
          · next hfactory => exact .opens outcome hi hd hcut hm (hfind.trans hf) hs hfactory
          · exact .nothing _ _
        · exact .nothing _ _
  · next hd =>
    cases hp
    unfold handleRouteChannelEnd
    split
    · exact .nothing _ _
    · next hm =>
      split
      · next hf => exact .ends outcome hi hd hm hf
      · exact .nothing _ _

/-- Nothing else happens, so what follows is proved of these cases. -/
theorem performs {κ : RouteCodec} {r : ServerRouter} {a : ServerAction}
    {reply : Reply ServerRouter} (hp : r.perform κ a = some reply) : r.Performs κ a reply := by
  cases a with
  | registerChannelFactory serviceId input =>
    cases hp
    exact .registers serviceId input
  | send g serviceId payload outcome =>
    obtain ⟨gw, hg, rfl⟩ := Option.map_eq_some_iff.mp hp
    exact performs_send hg serviceId payload outcome
  | complete g errorCode =>
    obtain ⟨gw, hg, rfl⟩ := Option.map_eq_some_iff.mp hp
    exact .completes errorCode hg
  | subscribe g handler =>
    obtain ⟨gw, hg, rfl⟩ := Option.map_eq_some_iff.mp hp
    unfold subscribe onGatewaySubscription
    split
    · split
      · next hf => exact .greets handler hg hf
      · exact .subscribes handler hg
    · exact .subscribes handler hg
  | release g outcome =>
    obtain ⟨gw, hg, rfl⟩ := Option.map_eq_some_iff.mp hp
    exact .destroys outcome hg
  | pipeConnected c =>
    obtain ⟨_, hr⟩ := Option.ite_none_right_eq_some.mp hp
    cases hr
    exact .nothing _ _
  | pipeMessage c payload outcome =>
    obtain ⟨hi, hr⟩ := Option.ite_none_right_eq_some.mp hp
    exact performs_pipeMessage hi hr
  | pipeDisconnected c order =>
    obtain ⟨⟨hi, ho⟩, hr⟩ := Option.ite_none_right_eq_some.mp hp
    cases hr
    unfold handlePipeDisconnected
    split
    · next hm => exact .loses hi ho (by rw [hm]; rfl)
    · exact .nothing _ _
  | notifyNext =>
    have hn : r.notifyNext = some reply := hp
    unfold notifyNext at hn
    split at hn
    · cases hn
    · next g rest hrem =>
      cases hn
      split
      · next ha => exact .notifies hrem ha
      · next ha => exact .skips hrem (by simpa using ha)

@[simp] theorem gateways_modify (r : ServerRouter) (g : GatewayId)
    (f : GatewayImpl Endpoint → GatewayImpl Endpoint) :
    (r.modify g f).gateways = r.gateways.modify g f := rfl

@[simp] theorem lookup_modify (r : ServerRouter) (g : GatewayId)
    (f : GatewayImpl Endpoint → GatewayImpl Endpoint) : (r.modify g f).lookup = r.lookup := rfl

@[simp] theorem gateways_setMap (r : ServerRouter) (clientId : ClientId)
    (m : Option MapOfWeakGateways) : (r.setMap clientId m).gateways = r.gateways := rfl

@[simp] theorem gateways_pipeSend (r : ServerRouter) (clientId : ClientId) (message : Bytes)
    (outcome : Int32) : (r.pipeSend clientId message outcome).gateways = r.gateways := by
  unfold pipeSend
  split <;> rfl

@[simp] theorem lookup_pipeSend (r : ServerRouter) (clientId : ClientId) (message : Bytes)
    (outcome : Int32) : (r.pipeSend clientId message outcome).lookup = r.lookup := by
  unfold pipeSend
  split <;> rfl

@[simp] theorem maps_pipeSend (r : ServerRouter) (clientId : ClientId) (message : Bytes)
    (outcome : Int32) :
    (r.pipeSend clientId message outcome).clientIdToMapOfGateways =
      r.clientIdToMapOfGateways := by
  unfold pipeSend
  split <;> rfl

theorem lookup_setMap (r : ServerRouter) (clientId : ClientId) (m : Option MapOfWeakGateways)
    (ep : Endpoint) :
    (r.setMap clientId m).lookup ep =
      if ep.clientId = clientId then m.bind (·.lookup ep.tag) else r.lookup ep := by
  by_cases h : ep.clientId = clientId <;> simp [lookup, setMap, Function.update, h]

theorem lookup_eq {r : ServerRouter} {clientId : ClientId} {m : MapOfWeakGateways}
    (hm : r.clientIdToMapOfGateways clientId = some m) (t : Tag) :
    r.lookup ⟨t, clientId⟩ = m.lookup t := by simp [lookup, hm]

theorem lookup_erase {r : ServerRouter} (ep : Endpoint) {m : MapOfWeakGateways}
    (hm : r.clientIdToMapOfGateways ep.clientId = some m) :
    (r.setMap ep.clientId (some (m.erase ep.tag))).lookup =
      Function.update r.lookup ep none := by
  funext ⟨t, c⟩
  rw [lookup_setMap]
  by_cases hc : c = ep.clientId
  · subst hc
    by_cases ht : t = ep.tag
    · subst ht
      simp
    · have hne : (⟨t, ep.clientId⟩ : Endpoint) ≠ ep := fun h => ht (congrArg Endpoint.tag h)
      simp [Function.update_of_ne hne, lookup_eq hm, AList.lookup_erase_ne ht]
  · have hne : (⟨t, c⟩ : Endpoint) ≠ ep := fun h => hc (congrArg Endpoint.clientId h)
    simp [Function.update_of_ne hne, hc]

theorem lookup_insert {r : ServerRouter} (ep : Endpoint) {m : MapOfWeakGateways}
    (hm : r.clientIdToMapOfGateways ep.clientId = some m) (g : GatewayId) :
    (r.setMap ep.clientId (some (m.insert ep.tag g))).lookup =
      Function.update r.lookup ep (some g) := by
  funext ⟨t, c⟩
  rw [lookup_setMap]
  by_cases hc : c = ep.clientId
  · subst hc
    by_cases ht : t = ep.tag
    · subst ht
      simp
    · have hne : (⟨t, ep.clientId⟩ : Endpoint) ≠ ep := fun h => ht (congrArg Endpoint.tag h)
      simp [Function.update_of_ne hne, lookup_eq hm, AList.lookup_insert_ne ht]
  · have hne : (⟨t, c⟩ : Endpoint) ≠ ep := fun h => hc (congrArg Endpoint.clientId h)
    simp [Function.update_of_ne hne, hc]

theorem lookup_handleRouteConnect (κ : RouteCodec) (r : ServerRouter) (clientId : ClientId)
    (outcome : Int32) :
    (r.handleRouteConnect κ clientId outcome).router.lookup = r.lookup := by
  unfold handleRouteConnect
  split
  · funext ep
    rw [lookup_setMap]
    split
    · next hc =>
      subst hc
      cases hm : r.clientIdToMapOfGateways ep.clientId <;> simp [lookup, hm]
    · simp
  · simp

theorem lookup_onGatewayDisposal (κ : RouteCodec) (r : ServerRouter) (g : GatewayId)
    (endpoint : Endpoint) (completionErr outcome : Int32) :
    (r.onGatewayDisposal κ g endpoint completionErr outcome).lookup =
      Function.update r.lookup endpoint none := by
  unfold onGatewayDisposal
  split
  · next hm =>
    funext ep
    by_cases he : ep = endpoint
    · subst he
      simp [lookup, hm]
    · simp [Function.update_of_ne he]
  · next m hm =>
    simp only
    split
    · rw [lookup_pipeSend, lookup_modify, lookup_erase _ hm]
    · exact lookup_erase _ hm

theorem destroy_cases (κ : RouteCodec) (r : ServerRouter) (g : GatewayId)
    (gw : GatewayImpl Endpoint) (outcome : Int32) :
    (∃ m, r.clientIdToMapOfGateways gw.endpoint.clientId = some m ∧
      (r.lookup gw.endpoint).isSome = true ∧
      r.destroy κ g gw outcome = (((r.modify g (·.expire)).setMap gw.endpoint.clientId
        (some (m.erase gw.endpoint.tag))).modify g
        (·.post (.fin gw.completionErrorCode) outcome)).pipeSend gw.endpoint.clientId
        (κ.serialize (.channelEnd ⟨gw.endpoint.tag, gw.completionErrorCode⟩)) outcome) ∨
    (r.lookup gw.endpoint = none ∧ ∃ maps, r.destroy κ g gw outcome =
      { r.modify g (·.expire) with clientIdToMapOfGateways := maps }) := by
  unfold destroy onGatewayDisposal
  cases hm : (r.modify g (·.expire)).clientIdToMapOfGateways gw.endpoint.clientId with
  | none =>
    have hm' : r.clientIdToMapOfGateways gw.endpoint.clientId = none := hm
    exact Or.inr ⟨by simp [lookup, hm'], _, rfl⟩
  | some m =>
    have hm' : r.clientIdToMapOfGateways gw.endpoint.clientId = some m := hm
    have hl := lookup_eq hm' gw.endpoint.tag
    simp only
    split
    · next h =>
      simp only [Bool.and_eq_true] at h
      exact Or.inl ⟨m, hm', by rw [hl]; exact h.1, rfl⟩
    · next h =>
      have hc : ((r.modify g (·.expire)).setMap gw.endpoint.clientId
          (some (m.erase gw.endpoint.tag))).isConnected gw.endpoint = true := by
        simp [isConnected, setMap]
      simp only [hc, Bool.and_true, Bool.not_eq_true, Option.isSome_eq_false_iff,
        Option.isNone_iff_eq_none] at h
      exact Or.inr ⟨by rw [hl, h], _, rfl⟩

theorem lookup_destroy (κ : RouteCodec) (r : ServerRouter) (g : GatewayId)
    (gw : GatewayImpl Endpoint) (outcome : Int32) :
    (r.destroy κ g gw outcome).lookup = Function.update r.lookup gw.endpoint none := by
  simp [destroy, lookup_onGatewayDisposal]

theorem gateways_destroy (κ : RouteCodec) (r : ServerRouter) (g : GatewayId)
    (gw : GatewayImpl Endpoint) (outcome : Int32) :
    (r.destroy κ g gw outcome).gateways = r.gateways.modify g (·.expire) ∨
    (r.destroy κ g gw outcome).gateways = (r.gateways.modify g (·.expire)).modify g
      (·.post (.fin gw.completionErrorCode) outcome) := by
  unfold destroy onGatewayDisposal
  split
  · exact Or.inl rfl
  · simp only
    split
    · exact Or.inr (gateways_pipeSend _ _ _ _)
    · exact Or.inl rfl

/-- The channel of a gateway exists exactly as long as the gateway does. -/
structure Wf (r : ServerRouter) : Prop where
  registry : Registry r.gateways r.lookup
  owned : Each r.gateways fun _ gw => gw.owned = gw.alive

theorem wf_init : ({} : ServerRouter).Wf where
  registry := Registry.nil.mono fun _ _ h => by simp [lookup] at h
  owned := Each.nil

theorem Wf.congr {r r' : ServerRouter} (h : r.Wf) (hg : r'.gateways = r.gateways)
    (hl : ∀ ep g, r'.lookup ep = some g → r.lookup ep = some g) : r'.Wf where
  registry := by rw [hg]; exact h.registry.mono hl
  owned := by rw [hg]; exact h.owned

theorem Wf.pipeSend {r : ServerRouter} (h : r.Wf) (clientId : ClientId) (message : Bytes)
    (outcome : Int32) : (r.pipeSend clientId message outcome).Wf :=
  h.congr (by simp) (by simp)

theorem Wf.modify {r : ServerRouter} (h : r.Wf) (g : GatewayId)
    {f : GatewayImpl Endpoint → GatewayImpl Endpoint} (hf : GatewayImpl.Quiet f) :
    (r.modify g f).Wf where
  registry := h.registry.modify g hf.endpoint hf.alive
  owned := h.owned.modify fun gw _ ho => by rw [hf.owned, hf.alive, ho]

theorem Wf.raise {r : ServerRouter} (h : r.Wf) (g : GatewayId) (e : Event) :
    (r.raise g e).router.Wf := by
  unfold ServerRouter.raise
  split
  · exact h.modify g (GatewayImpl.quiet_hear e)
  · exact h

theorem Wf.destroy {κ : RouteCodec} {r : ServerRouter} (h : r.Wf) {g : GatewayId}
    {gw : GatewayImpl Endpoint} (hg : r.gateways[g]? = some gw) (outcome : Int32) :
    (r.destroy κ g gw outcome).Wf := by
  have hreg := h.registry.expire hg
  have hown : Each (r.gateways.modify g (·.expire)) fun _ gw => gw.owned = gw.alive :=
    h.owned.modify fun _ _ _ => rfl
  rcases gateways_destroy κ r g gw outcome with hgs | hgs
  · exact { registry := by rw [hgs, lookup_destroy]; exact hreg
            owned := by rw [hgs]; exact hown }
  · exact { registry := by
              rw [hgs, lookup_destroy]
              exact hreg.modify g (fun _ => rfl) (fun _ => rfl)
            owned := by rw [hgs]; exact hown.modify fun _ _ ho => ho }

theorem Wf.unregister {r : ServerRouter} (h : r.Wf) (ep : Endpoint) {m : MapOfWeakGateways}
    (hm : r.clientIdToMapOfGateways ep.clientId = some m) :
    (r.setMap ep.clientId (some (m.erase ep.tag))).Wf := by
  refine h.congr rfl fun ep' g hl => ?_
  rw [lookup_erase _ hm] at hl
  by_cases he : ep' = ep
  · subst he; simp at hl
  · rwa [Function.update_of_ne he] at hl

theorem Wf.makeChannel {κ : RouteCodec} {r : ServerRouter} (h : r.Wf) {clientId : ClientId}
    {mapOfGws : MapOfWeakGateways} (hm : r.clientIdToMapOfGateways clientId = some mapOfGws)
    (m : RouteChannelMsg) (input : Decoder) (realPayload : Bytes) (outcome : Int32) :
    (r.makeChannel κ clientId mapOfGws m input realPayload outcome).router.Wf := by
  let gw : GatewayImpl Endpoint :=
    { endpoint := ⟨m.tag, clientId⟩, events := [.message m.sequence realPayload] }
  have hmade : Wf ({ r with gateways := r.gateways ++ [gw] }.setMap clientId
      (some (mapOfGws.insert m.tag r.gateways.length))) := {
    registry := by
      rw [lookup_insert (r := { r with gateways := r.gateways ++ [gw] }) ⟨m.tag, clientId⟩ hm]
      exact h.registry.append (show gw.alive = true from rfl)
    owned := h.owned.append rfl }
  unfold ServerRouter.makeChannel
  simp only
  split
  · exact hmade
  · exact hmade.destroy (by simp [gw]) outcome

theorem Wf.step {κ : RouteCodec} {r r' : ServerRouter} {a : ServerAction} (h : r.Wf)
    (hs : r.step κ a = some r') : r'.Wf := by
  obtain ⟨reply, hp, rfl⟩ := step_eq_some.mp hs
  cases performs hp with
  | nothing code => exact h
  | registers serviceId input => exact h.congr rfl fun _ _ hl => hl
  | sends serviceId payload outcome channel =>
    exact (h.modify _ (GatewayImpl.quiet_advance_post _ _)).pipeSend _ _ _
  | completes errorCode channel => exact h.modify _ (GatewayImpl.quiet_complete errorCode)
  | subscribes handler channel => exact h.modify _ (GatewayImpl.quiet_subscribe handler)
  | greets handler channel =>
    exact (h.modify _ (GatewayImpl.quiet_subscribe handler)).raise _ _
  | destroys outcome channel => exact h.destroy (channel_eq_some.mp channel).1 outcome
  | connects c outcome =>
    refine h.congr ?_ (by simp [lookup_handleRouteConnect])
    unfold handleRouteConnect
    split <;> simp
  | passes outcome => exact h.raise _ _
  | opens outcome idle decoded cut known => exact h.makeChannel known _ _ _ outcome
  | @ends c g e payload mapOfGws outcome idle decoded known =>
    exact (h.unregister ⟨e.tag, c⟩ known).raise _ _
  | @loses c order idle =>
    refine h.congr rfl fun ep g hl => ?_
    have hl' : (r.setMap c none).lookup ep = some g := hl
    rw [lookup_setMap] at hl'
    split at hl'
    · cases hl'
    · exact hl'
  | @notifies g rest remaining =>
    have hnext : Wf { r with remaining := rest } := h.congr rfl fun _ _ hl => hl
    exact hnext.raise _ _
  | skips remaining dead => exact h.congr rfl fun _ _ hl => hl

theorem Reachable.wf {κ : RouteCodec} {r : ServerRouter} (h : Reachable κ r) : r.Wf :=
  Runs.Reachable.invariant h wf_init fun hw hs => hw.step hs

end ServerRouter

end Ocvsmd.Ipc
