import Ocvsmd.Gateway
import Ocvsmd.Runs

/-!
`ClientRouterImpl` and its gateways.

A handler that the router calls may do anything to the router before it returns.
Where the router has nothing left to do after the call, what the handler does is
simply the next actions of the run. The two loops over gateways are broken up:
`broadcast` is what such a loop still has to do, and the actions of the handlers
stand between its turns.
-/

set_option autoImplicit false

namespace Ocvsmd.Ipc

/-- A loop over gateways: the event it delivers, whom it has not reached yet, and
the strong pointers it drops when it is done. -/
structure Broadcast where
  event : Event := .connected
  remaining : List GatewayId := []
  pinned : List GatewayId := []

structure ClientRouter where
  nextTag : Tag := 0
  isConnected : Bool := false
  mapOfGateways : MapOfWeakGateways := ∅
  gateways : List (GatewayImpl Tag) := []
  broadcast : Broadcast := {}
  clientPipe : List Bytes := []

/-- What happens to a client router. An `Int32` is the code that the pipe returns
if the action sends something; a list of gateways is the order in which the map is
iterated if the action iterates it. -/
inductive ClientAction where
  | makeGateway : ClientAction
  | send : GatewayId → ServiceId → Bytes → Int32 → ClientAction
  | complete : GatewayId → Int32 → ClientAction
  | subscribe : GatewayId → Option Decoder → ClientAction
  | release : GatewayId → Int32 → ClientAction
  | pipeConnected : Int32 → ClientAction
  | pipeMessage : Bytes → List GatewayId → ClientAction
  | pipeDisconnected : List GatewayId → ClientAction
  | notifyNext : ClientAction
  | dropNext : Int32 → ClientAction

namespace ClientRouter

def modify (r : ClientRouter) (g : GatewayId) (f : GatewayImpl Tag → GatewayImpl Tag) :
    ClientRouter :=
  { r with gateways := r.gateways.modify g f }

def pipeSend (r : ClientRouter) (message : Bytes) (outcome : Int32) : ClientRouter :=
  if outcome = 0 then { r with clientPipe := r.clientPipe ++ [message] } else r

def makeGateway (r : ClientRouter) : ClientRouter :=
  { r with
    nextTag := r.nextTag + 1
    gateways := r.gateways ++ [{ endpoint := r.nextTag }]
    mapOfGateways := r.mapOfGateways.insert r.nextTag r.gateways.length }

def lookup (r : ClientRouter) (endpoint : Tag) : Option GatewayId :=
  r.mapOfGateways.lookup endpoint

def isRegisteredGateway (r : ClientRouter) (endpoint : Tag) : Bool :=
  (r.lookup endpoint).isSome

def unregister (r : ClientRouter) (endpoint : Tag) : ClientRouter :=
  { r with mapOfGateways := r.mapOfGateways.erase endpoint }

def findGateway (r : ClientRouter) (endpoint : Tag) : Option GatewayId :=
  (r.lookup endpoint).filter (isAlive r.gateways)

def raise (r : ClientRouter) (g : GatewayId) (e : Event) : Reply ClientRouter :=
  match r.gateways[g]? with
  | some gw =>
    { router := r.modify g (·.hear e)
      code := gw.eventCode e
      call := if gw.handles e then some (.event g e) else none }
  | none => { router := r }

/-- `GatewayImpl::send`. The sequence is taken before the pipe is asked. -/
def send (κ : RouteCodec) (r : ClientRouter) (g : GatewayId) (gw : GatewayImpl Tag)
    (serviceId : ServiceId) (payload : Bytes) (outcome : Int32) : Reply ClientRouter :=
  if !r.isConnected then { router := r, code := ErrorCode.notConnected }
  else if !r.isRegisteredGateway gw.endpoint then { router := r, code := ErrorCode.shutdown }
  else
    let channelMsg : RouteChannelMsg :=
      ⟨gw.endpoint, gw.nextSequence, serviceId, UInt64.ofNat payload.length⟩
    let posted := r.modify g fun gw =>
      gw.advance.post (.msg channelMsg.sequence.toNat payload) outcome
    { router := posted.pipeSend (κ.serialize (.channelMsg channelMsg) ++ payload) outcome
      code := outcome }

def onGatewaySubscription (r : ClientRouter) (endpoint : Tag) : Reply ClientRouter :=
  if r.isConnected then
    match r.findGateway endpoint with
    | some g => r.raise g .connected
    | none => { router := r }
  else { router := r }

def subscribe (r : ClientRouter) (g : GatewayId) (gw : GatewayImpl Tag)
    (handler : Option Decoder) : Reply ClientRouter :=
  { (r.modify g (·.subscribe handler)).onGatewaySubscription gw.endpoint with code := 0 }

/-- The gateway g is dying. Only its history is touched under that name. -/
def onGatewayDisposal (κ : RouteCodec) (r : ClientRouter) (g : GatewayId) (endpoint : Tag)
    (sendChEnd : Bool) (completionErr : Int32) (outcome : Int32) : ClientRouter :=
  let wasRegistered := r.isRegisteredGateway endpoint
  let erased := r.unregister endpoint
  if wasRegistered && sendChEnd && erased.isConnected then
    (erased.modify g (·.post (.fin completionErr) outcome)).pipeSend
      (κ.serialize (.channelEnd ⟨endpoint, completionErr⟩)) outcome
  else erased

def destroy (κ : RouteCodec) (r : ClientRouter) (g : GatewayId) (gw : GatewayImpl Tag)
    (outcome : Int32) : ClientRouter :=
  (r.modify g (·.expire)).onGatewayDisposal κ g gw.endpoint (0 < gw.nextSequence)
    gw.completionErrorCode outcome

/-- The channel lets go of its gateway. A loop may still hold it. -/
def release (κ : RouteCodec) (r : ClientRouter) (g : GatewayId) (gw : GatewayImpl Tag)
    (outcome : Int32) : ClientRouter :=
  if g ∈ r.broadcast.pinned then r.modify g (·.disown) else r.destroy κ g gw outcome

def handlePipeConnected (κ : RouteCodec) (r : ClientRouter) (outcome : Int32) :
    Reply ClientRouter :=
  { router := r.pipeSend (κ.serialize (.connect ⟨currentVersion, 0⟩)) outcome
    code := outcome }

/-- `forEachRegisteredGateway` locks all the pointers before the first call. -/
def handleRouteConnect (r : ClientRouter) (order : List GatewayId) : Reply ClientRouter :=
  if !r.isConnected then
    let gatewayPtrs := order.filter (isAlive r.gateways)
    { router := { r with
        isConnected := true
        broadcast := ⟨.connected, gatewayPtrs, gatewayPtrs⟩ } }
  else { router := r }

def handleRouteChannelMsg (r : ClientRouter) (m : RouteChannelMsg) (payload : Bytes) :
    Option (Reply ClientRouter) :=
  (msgRealPayload payload m).map fun realPayload =>
    match r.findGateway m.tag with
    | some g => r.raise g (.message m.sequence realPayload)
    | none => { router := r }

def handleRouteChannelEnd (r : ClientRouter) (e : RouteChannelEnd) : Reply ClientRouter :=
  match r.findGateway e.tag with
  | some g => (r.unregister e.tag).raise g (.completed e.errorCode)
  | none => { router := r }

/-- `none` is undefined behaviour. -/
def handlePipeMessage (κ : RouteCodec) (r : ClientRouter) (payload : Bytes)
    (order : List GatewayId) : Option (Reply ClientRouter) :=
  match κ.deserialize payload with
  | none => some { router := r, code := EINVAL }
  | some .empty => some { router := r, code := EINVAL }
  | some (.connect _) => some (r.handleRouteConnect order)
  | some (.channelMsg m) => r.handleRouteChannelMsg m payload
  | some (.channelEnd e) => some (r.handleRouteChannelEnd e)

/-- The loop holds weak pointers here, and locks each one at its turn. -/
def handlePipeDisconnected (r : ClientRouter) (order : List GatewayId) : Reply ClientRouter :=
  if r.isConnected then
    { router := { r with
        isConnected := false
        mapOfGateways := ∅
        broadcast := ⟨.completed ErrorCode.disconnected, order, []⟩ } }
  else { router := r }

def notifyNext (r : ClientRouter) : Option (Reply ClientRouter) :=
  match r.broadcast.remaining with
  | [] => none
  | g :: rest =>
    let next := { r with broadcast := { r.broadcast with remaining := rest } }
    some (if isAlive r.gateways g then next.raise g r.broadcast.event else { router := next })

def pin (r : ClientRouter) (gs : List GatewayId) : ClientRouter :=
  { r with broadcast := { r.broadcast with pinned := gs } }

/-- A loop that is done drops its strong pointers one by one. -/
def dropNext (κ : RouteCodec) (r : ClientRouter) (outcome : Int32) : Option ClientRouter :=
  match r.broadcast.remaining, r.broadcast.pinned with
  | [], g :: rest =>
    match r.gateways[g]? with
    | some gw =>
      some ((if gw.alive && !gw.owned then r.destroy κ g gw outcome else r).pin rest)
    | none => some (r.pin rest)
  | _, _ => none

/-- No loop over gateways is going on. The executor calls the router only then. -/
def idle (r : ClientRouter) : Bool :=
  r.broadcast.remaining.isEmpty && r.broadcast.pinned.isEmpty

def channel (r : ClientRouter) (g : GatewayId) : Option (GatewayImpl Tag) :=
  (r.gateways[g]?).filter (·.owned)

/-- `none` when the action cannot happen. Tags are 64-bit numbers, and a router is
asked for less than 2^64 of them. -/
def perform (κ : RouteCodec) (r : ClientRouter) : ClientAction → Option (Reply ClientRouter)
  | .makeGateway =>
    if r.gateways.length < 2^64 then some { router := r.makeGateway } else none
  | .send g serviceId payload outcome =>
    (r.channel g).map fun gw => r.send κ g gw serviceId payload outcome
  | .complete g errorCode =>
    (r.channel g).map fun _ => { router := r.modify g (·.complete errorCode) }
  | .subscribe g handler => (r.channel g).map fun gw => r.subscribe g gw handler
  | .release g outcome => (r.channel g).map fun gw => { router := r.release κ g gw outcome }
  | .pipeConnected outcome => if r.idle then some (r.handlePipeConnected κ outcome) else none
  | .pipeMessage payload order =>
    if r.idle ∧ order.Perm r.mapOfGateways.ids then r.handlePipeMessage κ payload order
    else none
  | .pipeDisconnected order =>
    if r.idle ∧ order.Perm r.mapOfGateways.ids then some (r.handlePipeDisconnected order)
    else none
  | .notifyNext => r.notifyNext
  | .dropNext outcome => (r.dropNext κ outcome).map fun r => { router := r }

def step (κ : RouteCodec) (r : ClientRouter) (a : ClientAction) : Option ClientRouter :=
  (r.perform κ a).map (·.router)

def Reachable (κ : RouteCodec) (r : ClientRouter) : Prop := Runs.Reachable (step κ) {} r

theorem step_eq_some {κ : RouteCodec} {r r' : ClientRouter} {a : ClientAction} :
    r.step κ a = some r' ↔ ∃ reply, r.perform κ a = some reply ∧ reply.router = r' := by
  simp [step]

theorem channel_eq_some {r : ClientRouter} {g : GatewayId} {gw : GatewayImpl Tag} :
    r.channel g = some gw ↔ r.gateways[g]? = some gw ∧ gw.owned = true := by
  simp [channel, Option.filter_eq_some_iff]

/-- The rest of `GatewayImpl::send`, once nothing is in its way. -/
def transmit (κ : RouteCodec) (r : ClientRouter) (g : GatewayId) (gw : GatewayImpl Tag)
    (serviceId : ServiceId) (payload : Bytes) (outcome : Int32) : ClientRouter :=
  (r.modify g (·.advance.post (.msg gw.nextSequence.toNat payload) outcome)).pipeSend
    (κ.serialize (.channelMsg
      ⟨gw.endpoint, gw.nextSequence, serviceId, UInt64.ofNat payload.length⟩) ++ payload) outcome

/-- What a router does with each action, and when. -/
inductive Performs (κ : RouteCodec) (r : ClientRouter) :
    ClientAction → Reply ClientRouter → Prop where
  | nothing (a : ClientAction) (code : Int32) : Performs κ r a { router := r, code := code }
  | makes (room : r.gateways.length < 2^64) :
      Performs κ r .makeGateway { router := r.makeGateway }
  | sends {g : GatewayId} {gw : GatewayImpl Tag} (serviceId : ServiceId) (payload : Bytes)
      (outcome : Int32) (channel : r.channel g = some gw) (connected : r.isConnected = true)
      (registered : (r.lookup gw.endpoint).isSome = true) :
      Performs κ r (.send g serviceId payload outcome)
        { router := r.transmit κ g gw serviceId payload outcome
          code := outcome }
  | completes {g : GatewayId} {gw : GatewayImpl Tag} (errorCode : Int32)
      (channel : r.channel g = some gw) :
      Performs κ r (.complete g errorCode) { router := r.modify g (·.complete errorCode) }
  | subscribes {g : GatewayId} {gw : GatewayImpl Tag} (handler : Option Decoder)
      (channel : r.channel g = some gw) :
      Performs κ r (.subscribe g handler) { router := r.modify g (·.subscribe handler) }
  | greets {g i : GatewayId} {gw : GatewayImpl Tag} (handler : Option Decoder)
      (channel : r.channel g = some gw) (connected : r.isConnected = true)
      (found : (r.modify g (·.subscribe handler)).findGateway gw.endpoint = some i) :
      Performs κ r (.subscribe g handler)
        { (r.modify g (·.subscribe handler)).raise i .connected with code := 0 }
  | disowns {g : GatewayId} {gw : GatewayImpl Tag} (outcome : Int32)
      (channel : r.channel g = some gw) (pinned : g ∈ r.broadcast.pinned) :
      Performs κ r (.release g outcome) { router := r.modify g (·.disown) }
  | destroys {g : GatewayId} {gw : GatewayImpl Tag} (outcome : Int32)
      (channel : r.channel g = some gw) (unpinned : g ∉ r.broadcast.pinned) :
      Performs κ r (.release g outcome) { router := r.destroy κ g gw outcome }
  | requests (outcome : Int32) (idle : r.idle = true) :
      Performs κ r (.pipeConnected outcome) (r.handlePipeConnected κ outcome)
  | connects (payload : Bytes) (order : List GatewayId) (idle : r.idle = true)
      (ids : order.Perm r.mapOfGateways.ids) (answer : isConnect κ payload = true)
      (disconnected : r.isConnected = false) :
      Performs κ r (.pipeMessage payload order)
        { router := { r with
            isConnected := true
            broadcast := ⟨.connected, order.filter (isAlive r.gateways),
              order.filter (isAlive r.gateways)⟩ } }
  | passes {g : GatewayId} {m : RouteChannelMsg} {payload realPayload : Bytes}
      (order : List GatewayId) (idle : r.idle = true)
      (decoded : κ.deserialize payload = some (.channelMsg m))
      (cut : msgRealPayload payload m = some realPayload) (found : r.findGateway m.tag = some g) :
      Performs κ r (.pipeMessage payload order) (r.raise g (.message m.sequence realPayload))
  | ends {g : GatewayId} {e : RouteChannelEnd} {payload : Bytes} (order : List GatewayId)
      (idle : r.idle = true) (decoded : κ.deserialize payload = some (.channelEnd e))
      (found : r.findGateway e.tag = some g) :
      Performs κ r (.pipeMessage payload order)
        ((r.unregister e.tag).raise g (.completed e.errorCode))
  | loses (order : List GatewayId) (idle : r.idle = true)
      (ids : order.Perm r.mapOfGateways.ids) (connected : r.isConnected = true) :
      Performs κ r (.pipeDisconnected order)
        { router := { r with
            isConnected := false
            mapOfGateways := ∅
            broadcast := ⟨.completed ErrorCode.disconnected, order, []⟩ } }
  | notifies {g : GatewayId} {rest : List GatewayId} (remaining : r.broadcast.remaining = g :: rest)
      (alive : isAlive r.gateways g = true) :
      Performs κ r .notifyNext
        (({ r with broadcast := { r.broadcast with remaining := rest } } : ClientRouter).raise g
          r.broadcast.event)
  | skips {g : GatewayId} {rest : List GatewayId} (remaining : r.broadcast.remaining = g :: rest)
      (dead : isAlive r.gateways g = false) :
      Performs κ r .notifyNext
        { router := { r with broadcast := { r.broadcast with remaining := rest } } }
  | drops {g : GatewayId} {gw : GatewayImpl Tag} {rest : List GatewayId} (outcome : Int32)
      (done : r.broadcast.remaining = []) (pinned : r.broadcast.pinned = g :: rest)
      (held : r.gateways[g]? = some gw) (alive : gw.alive = true) (disowned : gw.owned = false) :
      Performs κ r (.dropNext outcome) { router := (r.destroy κ g gw outcome).pin rest }
  | unpins {g : GatewayId} {rest : List GatewayId} (outcome : Int32)
      (done : r.broadcast.remaining = []) (pinned : r.broadcast.pinned = g :: rest)
      (needless : ∀ gw, r.gateways[g]? = some gw → gw.alive = true → gw.owned = true) :
      Performs κ r (.dropNext outcome) { router := r.pin rest }

theorem performs_send {κ : RouteCodec} {r : ClientRouter} {g : GatewayId}
    {gw : GatewayImpl Tag} (hg : r.channel g = some gw) (serviceId : ServiceId)
    (payload : Bytes) (outcome : Int32) :
    r.Performs κ (.send g serviceId payload outcome)
      (r.send κ g gw serviceId payload outcome) := by
  unfold send
  split
  · exact .nothing _ _
  · next hc =>
    split
    · exact .nothing _ _
    · next hreg =>
      exact .sends serviceId payload outcome hg (by simpa using hc)
        (Option.isSome_iff_ne_none.mpr (by simpa [isRegisteredGateway] using hreg))

theorem performs_pipeMessage {κ : RouteCodec} {r : ClientRouter} {payload : Bytes}
    {order : List GatewayId} {reply : Reply ClientRouter} (hi : r.idle = true)
    (ho : order.Perm r.mapOfGateways.ids)
    (hp : r.handlePipeMessage κ payload order = some reply) :
    r.Performs κ (.pipeMessage payload order) reply := by
  unfold handlePipeMessage at hp
  split at hp
  · cases hp
    exact .nothing _ _
  · cases hp
    exact .nothing _ _
  · next hd =>
    cases hp
    unfold handleRouteConnect
    split
    · next hc => exact .connects payload order hi ho (by simp [isConnect, hd]) (by simpa using hc)
    · exact .nothing _ _
  · next hd =>
    obtain ⟨realPayload, hcut, rfl⟩ := Option.map_eq_some_iff.mp hp
    split
    · next hf => exact .passes order hi hd hcut hf
    · exact .nothing _ _
  · next hd =>
    cases hp
    unfold handleRouteChannelEnd
    split
    · next hf => exact .ends order hi hd hf
    · exact .nothing _ _

theorem performs_dropNext {κ : RouteCodec} {r r' : ClientRouter} {outcome : Int32}
    (hd : r.dropNext κ outcome = some r') :
    r.Performs κ (.dropNext outcome) { router := r' } := by
  unfold dropNext at hd
  split at hd
  · next g rest hrem hpin =>
    split at hd
    · next gw hg =>
      cases hd
      split
      · next hlast =>
        simp only [Bool.and_eq_true, Bool.not_eq_true'] at hlast
        exact .drops outcome hrem hpin hg hlast.1 hlast.2
      · next hkeep =>
        refine .unpins outcome hrem hpin fun x hx ha => ?_
        rw [hg] at hx
        cases hx
        simpa [ha] using hkeep
    · next hg =>
      cases hd
      exact .unpins outcome hrem hpin fun x hx _ => by rw [hg] at hx; cases hx
  · cases hd

/-- Nothing else happens, so what follows is proved of these cases. -/
theorem performs {κ : RouteCodec} {r : ClientRouter} {a : ClientAction}
    {reply : Reply ClientRouter} (hp : r.perform κ a = some reply) : r.Performs κ a reply := by
  cases a with
  | makeGateway =>
    obtain ⟨hc, hr⟩ := Option.ite_none_right_eq_some.mp hp
    cases hr
    exact .makes hc
  | send g serviceId payload outcome =>
    obtain ⟨gw, hg, rfl⟩ := Option.map_eq_some_iff.mp hp
    exact performs_send hg serviceId payload outcome
  | complete g errorCode =>
    obtain ⟨gw, hg, rfl⟩ := Option.map_eq_some_iff.mp hp
    exact .completes errorCode hg
  | subscribe g handler =>
    obtain ⟨gw, hg, rfl⟩ := Option.map_eq_some_iff.mp hp
    unfold subscribe onGatewaySubscription
    split
    · next hc =>
      split
      · next hf => exact .greets handler hg hc hf
      · exact .subscribes handler hg
    · exact .subscribes handler hg
  | release g outcome =>
    obtain ⟨gw, hg, rfl⟩ := Option.map_eq_some_iff.mp hp
    unfold release
    split
    · next hpin => exact .disowns outcome hg hpin
    · next hpin => exact .destroys outcome hg hpin
  | pipeConnected outcome =>
    obtain ⟨hi, hr⟩ := Option.ite_none_right_eq_some.mp hp
    cases hr
    exact .requests outcome hi
  | pipeMessage payload order =>
    obtain ⟨⟨hi, ho⟩, hr⟩ := Option.ite_none_right_eq_some.mp hp
    exact performs_pipeMessage hi ho hr
  | pipeDisconnected order =>
    obtain ⟨⟨hi, ho⟩, hr⟩ := Option.ite_none_right_eq_some.mp hp
    cases hr
    unfold handlePipeDisconnected
    split
    · next hc => exact .loses order hi ho hc
    · exact .nothing _ _
  | notifyNext =>
    have hn : r.notifyNext = some reply := hp
    unfold notifyNext at hn
    split at hn
    · cases hn
    · next g rest hrem =>
      cases hn
      split
      · next ha => exact .notifies hrem ha
      · next ha => exact .skips hrem (by simpa using ha)
  | dropNext outcome =>
    obtain ⟨r', hd, rfl⟩ := Option.map_eq_some_iff.mp hp
    exact performs_dropNext hd

theorem lookup_unregister (r : ClientRouter) (endpoint : Tag) :
    (r.unregister endpoint).lookup = Function.update r.lookup endpoint none := by
  funext t
  by_cases h : t = endpoint
  · subst h
    simp [lookup, unregister]
  · simp [lookup, unregister, Function.update_of_ne h, AList.lookup_erase_ne h]

theorem lookup_makeGateway (r : ClientRouter) :
    r.makeGateway.lookup = Function.update r.lookup r.nextTag (some r.gateways.length) := by
  funext t
  by_cases h : t = r.nextTag
  · subst h
    simp [lookup, makeGateway]
  · simp [lookup, makeGateway, Function.update_of_ne h, AList.lookup_insert_ne h]

@[simp] theorem gateways_modify (r : ClientRouter) (g : GatewayId)
    (f : GatewayImpl Tag → GatewayImpl Tag) :
    (r.modify g f).gateways = r.gateways.modify g f := rfl

@[simp] theorem lookup_modify (r : ClientRouter) (g : GatewayId)
    (f : GatewayImpl Tag → GatewayImpl Tag) : (r.modify g f).lookup = r.lookup := rfl

@[simp] theorem gateways_pipeSend (r : ClientRouter) (message : Bytes) (outcome : Int32) :
    (r.pipeSend message outcome).gateways = r.gateways := by
  by_cases h : outcome = 0 <;> simp [pipeSend, h]

@[simp] theorem lookup_pipeSend (r : ClientRouter) (message : Bytes) (outcome : Int32) :
    (r.pipeSend message outcome).lookup = r.lookup := by
  unfold pipeSend
  split <;> rfl

/-- Tags are positions, and a gateway outlives its channel only while a loop holds it. -/
structure Wf (r : ClientRouter) : Prop where
  registry : Registry r.gateways r.lookup
  tags : Each r.gateways fun g gw => gw.endpoint = UInt64.ofNat g
  count : r.gateways.length ≤ 2^64
  next : r.nextTag = UInt64.ofNat r.gateways.length
  owned : Each r.gateways fun _ gw => gw.owned = true → gw.alive = true
  held : Each r.gateways fun g gw =>
    gw.alive = true → gw.owned = true ∨ g ∈ r.broadcast.pinned

theorem wf_init : ({} : ClientRouter).Wf where
  registry := Registry.nil.mono fun _ _ h => by simp [lookup] at h
  tags := Each.nil
  count := by simp
  next := rfl
  owned := Each.nil
  held := Each.nil

theorem Wf.distinct {r : ClientRouter} (h : r.Wf) : Distinct r.gateways := by
  unfold Distinct
  rw [List.nodup_iff_injective_get]
  intro i j hij
  have hi : i.val < r.gateways.length := by simpa using i.isLt
  have hj : j.val < r.gateways.length := by simpa using j.isLt
  have hti := h.tags i.val _ (List.getElem?_eq_getElem hi)
  have htj := h.tags j.val _ (List.getElem?_eq_getElem hj)
  have heq : UInt64.ofNat i.val = UInt64.ofNat j.val := by
    rw [← hti, ← htj]
    simpa using hij
  have hc := h.count
  have hnat := congrArg UInt64.toNat heq
  rw [UInt64.toNat_ofNat', UInt64.toNat_ofNat', Nat.mod_eq_of_lt (by omega),
    Nat.mod_eq_of_lt (by omega)] at hnat
  exact Fin.ext hnat

theorem Wf.lookup_self {r : ClientRouter} (h : r.Wf) {g : GatewayId} {gw : GatewayImpl Tag}
    (hg : r.gateways[g]? = some gw) (hl : (r.lookup gw.endpoint).isSome = true) :
    r.lookup gw.endpoint = some g ∧ gw.alive = true := by
  obtain ⟨g', hl⟩ := Option.isSome_iff_exists.mp hl
  obtain ⟨gw', hg', he, ha⟩ := h.registry _ _ hl
  have hidx := h.distinct.index_eq hg' hg he
  subst hidx
  rw [hg'] at hg
  cases hg
  exact ⟨hl, ha⟩

theorem Wf.congr {r r' : ClientRouter} (h : r.Wf) (hg : r'.gateways = r.gateways)
    (hl : ∀ t g, r'.lookup t = some g → r.lookup t = some g) (hn : r'.nextTag = r.nextTag)
    (hp : r'.broadcast.pinned = r.broadcast.pinned) : r'.Wf where
  registry := by rw [hg]; exact h.registry.mono hl
  tags := by rw [hg]; exact h.tags
  count := by rw [hg]; exact h.count
  next := by rw [hg, hn]; exact h.next
  owned := by rw [hg]; exact h.owned
  held := by rw [hg, hp]; exact h.held

theorem Wf.pipeSend {r : ClientRouter} (h : r.Wf) (message : Bytes) (outcome : Int32) :
    (r.pipeSend message outcome).Wf := by
  by_cases ho : outcome = 0
  · exact h.congr (by simp) (by simp) (by simp [ClientRouter.pipeSend, ho])
      (by simp [ClientRouter.pipeSend, ho])
  · simpa [ClientRouter.pipeSend, ho] using h

theorem Wf.modify {r : ClientRouter} (h : r.Wf) (g : GatewayId)
    {f : GatewayImpl Tag → GatewayImpl Tag} (hf : GatewayImpl.Quiet f) : (r.modify g f).Wf where
  registry := h.registry.modify g hf.endpoint hf.alive
  tags := h.tags.modify fun gw _ ht => by rw [hf.endpoint, ht]
  count := by simpa using h.count
  next := by simpa [ClientRouter.modify] using h.next
  owned := h.owned.modify fun gw _ ho => by rwa [hf.owned, hf.alive]
  held := h.held.modify fun gw _ ho => by rwa [hf.owned, hf.alive]

theorem Wf.raise {r : ClientRouter} (h : r.Wf) (g : GatewayId) (e : Event) :
    (r.raise g e).router.Wf := by
  unfold ClientRouter.raise
  split
  · exact h.modify g (GatewayImpl.quiet_hear e)
  · exact h

theorem Wf.makeGateway {r : ClientRouter} (h : r.Wf) (hc : r.gateways.length < 2^64) :
    r.makeGateway.Wf where
  registry := by
    rw [lookup_makeGateway]
    exact h.registry.append rfl
  tags := h.tags.append h.next
  count := by simp [ClientRouter.makeGateway]; omega
  next := by simp [ClientRouter.makeGateway, h.next]
  owned := h.owned.append fun _ => rfl
  held := h.held.append fun _ => Or.inl rfl

theorem lookup_onGatewayDisposal (κ : RouteCodec) (r : ClientRouter) (g : GatewayId)
    (endpoint : Tag) (sendChEnd : Bool) (completionErr outcome : Int32) :
    (r.onGatewayDisposal κ g endpoint sendChEnd completionErr outcome).lookup =
      Function.update r.lookup endpoint none := by
  unfold onGatewayDisposal
  simp only
  split
  · rw [lookup_pipeSend, lookup_modify, lookup_unregister]
  · exact lookup_unregister r endpoint

theorem destroy_cases (κ : RouteCodec) (r : ClientRouter) (g : GatewayId)
    (gw : GatewayImpl Tag) (outcome : Int32) :
    ((r.lookup gw.endpoint).isSome = true ∧ 0 < gw.nextSequence ∧ r.isConnected = true ∧
      r.destroy κ g gw outcome = (((r.modify g (·.expire)).unregister gw.endpoint).modify g
        (·.post (.fin gw.completionErrorCode) outcome)).pipeSend
        (κ.serialize (.channelEnd ⟨gw.endpoint, gw.completionErrorCode⟩)) outcome) ∨
    (¬((r.lookup gw.endpoint).isSome = true ∧ 0 < gw.nextSequence ∧ r.isConnected = true) ∧
      r.destroy κ g gw outcome = (r.modify g (·.expire)).unregister gw.endpoint) := by
  unfold destroy onGatewayDisposal
  simp only
  split
  · next h =>
    simp only [Bool.and_eq_true, decide_eq_true_eq] at h
    exact Or.inl ⟨h.1.1, h.1.2, h.2, rfl⟩
  · next h =>
    simp only [Bool.and_eq_true, decide_eq_true_eq] at h
    exact Or.inr ⟨fun hc => h ⟨⟨hc.1, hc.2.1⟩, hc.2.2⟩, rfl⟩

theorem lookup_destroy (κ : RouteCodec) (r : ClientRouter) (g : GatewayId)
    (gw : GatewayImpl Tag) (outcome : Int32) :
    (r.destroy κ g gw outcome).lookup = Function.update r.lookup gw.endpoint none := by
  simp [destroy, lookup_onGatewayDisposal]

theorem Wf.destroy {κ : RouteCodec} {r : ClientRouter} (h : r.Wf) {g : GatewayId}
    {gw : GatewayImpl Tag} (hg : r.gateways[g]? = some gw) (outcome : Int32) :
    (r.destroy κ g gw outcome).Wf := by
  have herased : ((r.modify g (·.expire)).unregister gw.endpoint).Wf := {
    registry := by
      rw [lookup_unregister]
      exact h.registry.expire hg
    tags := h.tags.modify fun _ _ ht => ht
    count := by simpa [unregister] using h.count
    next := by simpa [unregister, ClientRouter.modify] using h.next
    owned := h.owned.modify fun _ _ _ ho => by cases ho
    held := h.held.modify fun _ _ _ ho => by cases ho }
  unfold ClientRouter.destroy onGatewayDisposal
  simp only
  split
  · exact (herased.modify g (GatewayImpl.quiet_post _ _)).pipeSend _ _
  · exact herased

theorem Wf.disown {r : ClientRouter} (h : r.Wf) {g : GatewayId}
    (hp : g ∈ r.broadcast.pinned) : (r.modify g (·.disown)).Wf where
  registry := h.registry.modify g (fun _ => rfl) (fun _ => rfl)
  tags := h.tags.modify fun _ _ ht => ht
  count := by simpa using h.count
  next := by simpa [ClientRouter.modify] using h.next
  owned := h.owned.modify fun _ _ _ ho => by cases ho
  held := h.held.modify fun _ _ _ _ => Or.inr hp

theorem Wf.idle_owned {r : ClientRouter} (h : r.Wf) (hi : r.idle = true) :
    Each r.gateways fun _ gw => gw.alive = true → gw.owned = true := by
  intro g gw hg ha
  rcases h.held g gw hg ha with ho | hp
  · exact ho
  · simp only [idle, Bool.and_eq_true, List.isEmpty_iff] at hi
    rw [hi.2] at hp
    cases hp

theorem Wf.rebroadcast {r r' : ClientRouter} (h : r.Wf) (hi : r.idle = true)
    (hg : r'.gateways = r.gateways) (hl : ∀ t g, r'.lookup t = some g → r.lookup t = some g)
    (hn : r'.nextTag = r.nextTag) : r'.Wf where
  registry := by rw [hg]; exact h.registry.mono hl
  tags := by rw [hg]; exact h.tags
  count := by rw [hg]; exact h.count
  next := by rw [hg, hn]; exact h.next
  owned := by rw [hg]; exact h.owned
  held := by
    rw [hg]
    exact fun g gw hg' ha => Or.inl (h.idle_owned hi g gw hg' ha)

theorem Wf.unregister {r : ClientRouter} (h : r.Wf) (endpoint : Tag) :
    (r.unregister endpoint).Wf := by
  refine h.congr rfl (fun t g ht => ?_) rfl rfl
  rw [lookup_unregister] at ht
  by_cases he : t = endpoint
  · subst he; simp at ht
  · rwa [Function.update_of_ne he] at ht

theorem Wf.unpin {r : ClientRouter} (h : r.Wf) {g : GatewayId} {rest : List GatewayId}
    (hpin : r.broadcast.pinned = g :: rest)
    (hg : ∀ gw, r.gateways[g]? = some gw → gw.alive = true → gw.owned = true) :
    (r.pin rest).Wf where
  registry := h.registry
  tags := h.tags
  count := h.count
  next := h.next
  owned := h.owned
  held := by
    intro i gw hi ha
    rcases h.held i gw hi ha with ho | hp
    · exact Or.inl ho
    · rw [hpin] at hp
      rcases List.mem_cons.mp hp with rfl | hp
      · exact Or.inl (hg gw hi ha)
      · exact Or.inr hp

@[simp] theorem broadcast_pipeSend (r : ClientRouter) (message : Bytes) (outcome : Int32) :
    (r.pipeSend message outcome).broadcast = r.broadcast := by
  unfold pipeSend
  split <;> rfl

theorem broadcast_destroy (κ : RouteCodec) (r : ClientRouter) (g : GatewayId)
    (gw : GatewayImpl Tag) (outcome : Int32) :
    (r.destroy κ g gw outcome).broadcast = r.broadcast := by
  unfold destroy onGatewayDisposal
  simp only
  split
  · exact broadcast_pipeSend _ _ _
  · rfl

theorem gateways_destroy (κ : RouteCodec) (r : ClientRouter) (g : GatewayId)
    (gw : GatewayImpl Tag) (outcome : Int32) :
    (r.destroy κ g gw outcome).gateways = r.gateways.modify g (·.expire) ∨
    (r.destroy κ g gw outcome).gateways = (r.gateways.modify g (·.expire)).modify g
      (·.post (.fin gw.completionErrorCode) outcome) := by
  unfold destroy onGatewayDisposal
  simp only
  split
  · exact Or.inr (gateways_pipeSend _ _ _)
  · exact Or.inl rfl

theorem dead_of_destroy {κ : RouteCodec} {r : ClientRouter} {g : GatewayId}
    {gw gw' : GatewayImpl Tag} {outcome : Int32}
    (hg : (r.destroy κ g gw outcome).gateways[g]? = some gw') : gw'.alive = false := by
  rcases gateways_destroy κ r g gw outcome with h | h <;> rw [h] at hg
  · obtain ⟨x, _, rfl⟩ : ∃ x, r.gateways[g]? = some x ∧ x.expire = gw' := by simpa using hg
    rfl
  · obtain ⟨x, _, rfl⟩ : ∃ x, r.gateways[g]? = some x ∧
        x.expire.post (.fin gw.completionErrorCode) outcome = gw' := by simpa using hg
    rfl

theorem Wf.step {κ : RouteCodec} {r r' : ClientRouter} {a : ClientAction} (h : r.Wf)
    (hs : r.step κ a = some r') : r'.Wf := by
  obtain ⟨reply, hp, rfl⟩ := step_eq_some.mp hs
  cases performs hp with
  | nothing code => exact h
  | makes room => exact h.makeGateway room
  | sends serviceId payload outcome channel =>
    exact (h.modify _ (GatewayImpl.quiet_advance_post _ _)).pipeSend _ _
  | completes errorCode channel => exact h.modify _ (GatewayImpl.quiet_complete errorCode)
  | subscribes handler channel => exact h.modify _ (GatewayImpl.quiet_subscribe handler)
  | greets handler channel =>
    exact (h.modify _ (GatewayImpl.quiet_subscribe handler)).raise _ _
  | disowns outcome channel pinned => exact h.disown pinned
  | destroys outcome channel unpinned => exact h.destroy (channel_eq_some.mp channel).1 outcome
  | requests outcome idle => exact h.pipeSend _ _
  | connects payload order idle => exact h.rebroadcast idle rfl (fun _ _ ht => ht) rfl
  | passes order => exact h.raise _ _
  | ends order => exact (h.unregister _).raise _ _
  | loses order idle =>
    exact h.rebroadcast idle rfl (fun t g ht => by simp [lookup] at ht) rfl
  | @notifies g rest remaining alive =>
    have hnext : Wf { r with broadcast := { r.broadcast with remaining := rest } } :=
      h.congr rfl (fun _ _ ht => ht) rfl rfl
    exact hnext.raise _ _
  | skips remaining dead => exact h.congr rfl (fun _ _ ht => ht) rfl rfl
  | @drops g gw rest outcome done pinned held alive disowned =>
    refine (h.destroy held outcome).unpin (g := g) ?_ fun gw' hg' ha => ?_
    · rw [broadcast_destroy, pinned]
    · rw [dead_of_destroy hg'] at ha
      cases ha
  | unpins outcome done pinned needless => exact h.unpin pinned needless

theorem Reachable.wf {κ : RouteCodec} {r : ClientRouter} (h : Reachable κ r) : r.Wf :=
  Runs.Reachable.invariant h wf_init fun hw hs => hw.step hs

end ClientRouter

end Ocvsmd.Ipc
