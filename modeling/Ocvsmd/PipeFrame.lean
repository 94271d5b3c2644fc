import Ocvsmd.Handshake
import Ocvsmd.Network

set_option autoImplicit false

namespace Ocvsmd.Ipc

def Reply.map {R R' : Type} (f : R → R') (reply : Reply R) : Reply R' :=
  { router := f reply.router, code := reply.code, call := reply.call }

namespace ClientRouter

/-- The same router behind a queue. -/
def behind (queue : List Bytes) (r : ClientRouter) : ClientRouter :=
  r.withPipe (queue ++ r.clientPipe)

theorem behind_empty {r : ClientRouter} (h : r.clientPipe = []) (queue : List Bytes) :
    r.behind queue = r.withPipe queue := by simp [behind, h]

@[simp] theorem behind_modify (queue : List Bytes) (r : ClientRouter) (g : GatewayId)
    (f : GatewayImpl Tag → GatewayImpl Tag) :
    (r.behind queue).modify g f = (r.modify g f).behind queue := rfl

@[simp] theorem behind_unregister (queue : List Bytes) (r : ClientRouter) (endpoint : Tag) :
    (r.behind queue).unregister endpoint = (r.unregister endpoint).behind queue := rfl

@[simp] theorem behind_pin (queue : List Bytes) (r : ClientRouter) (gs : List GatewayId) :
    (r.behind queue).pin gs = (r.pin gs).behind queue := rfl

@[simp] theorem behind_makeGateway (queue : List Bytes) (r : ClientRouter) :
    (r.behind queue).makeGateway = r.makeGateway.behind queue := rfl

@[simp] theorem behind_pipeSend (queue : List Bytes) (r : ClientRouter) (message : Bytes)
    (outcome : Int32) :
    (r.behind queue).pipeSend message outcome = (r.pipeSend message outcome).behind queue := by
  unfold pipeSend
  split
  · simp [behind, withPipe]
  · rfl

@[simp] theorem behind_raise (queue : List Bytes) (r : ClientRouter) (g : GatewayId)
    (e : Event) : (r.behind queue).raise g e = (r.raise g e).map (behind queue) := by
  have hg : (r.behind queue).gateways[g]? = r.gateways[g]? := rfl
  simp only [raise, hg]
  split <;> rfl

theorem behind_send (κ : RouteCodec) (queue : List Bytes) (r : ClientRouter) (g : GatewayId)
    (gw : GatewayImpl Tag) (serviceId : ServiceId) (payload : Bytes) (outcome : Int32) :
    (r.behind queue).send κ g gw serviceId payload outcome =
      (r.send κ g gw serviceId payload outcome).map (behind queue) := by
  have hc : (r.behind queue).isConnected = r.isConnected := rfl
  have hr : (r.behind queue).isRegisteredGateway = r.isRegisteredGateway := rfl
  simp only [send, hc, hr, behind_modify, behind_pipeSend]
  split
  · rfl
  · split <;> rfl

theorem behind_subscribe (queue : List Bytes) (r : ClientRouter) (g : GatewayId)
    (gw : GatewayImpl Tag) (handler : Option Decoder) :
    (r.behind queue).subscribe g gw handler =
      (r.subscribe g gw handler).map (behind queue) := by
  have hc : ∀ s : ClientRouter, (s.behind queue).isConnected = s.isConnected := fun _ => rfl
  have hf : ∀ s : ClientRouter, (s.behind queue).findGateway = s.findGateway := fun _ => rfl
  simp only [subscribe, onGatewaySubscription, behind_modify, hc, hf]
  split
  · split
    · rw [behind_raise]
      rfl
    · rfl
  · rfl

@[simp] theorem behind_destroy (κ : RouteCodec) (queue : List Bytes) (r : ClientRouter)
    (g : GatewayId) (gw : GatewayImpl Tag) (outcome : Int32) :
    (r.behind queue).destroy κ g gw outcome = (r.destroy κ g gw outcome).behind queue := by
  have hc : ∀ s : ClientRouter, (s.behind queue).isConnected = s.isConnected := fun _ => rfl
  have hr : ∀ s : ClientRouter, (s.behind queue).isRegisteredGateway = s.isRegisteredGateway :=
    fun _ => rfl
  simp only [destroy, onGatewayDisposal, behind_modify, behind_unregister, behind_pipeSend, hc, hr]
  split <;> rfl

theorem behind_release (κ : RouteCodec) (queue : List Bytes) (r : ClientRouter) (g : GatewayId)
    (gw : GatewayImpl Tag) (outcome : Int32) :
    (r.behind queue).release κ g gw outcome = (r.release κ g gw outcome).behind queue := by
  have hb : (r.behind queue).broadcast = r.broadcast := rfl
  simp only [release, hb, behind_modify, behind_destroy]
  split <;> rfl

theorem behind_handlePipeMessage (κ : RouteCodec) (queue : List Bytes) (r : ClientRouter)
    (payload : Bytes) (order : List GatewayId) :
    (r.behind queue).handlePipeMessage κ payload order =
      (r.handlePipeMessage κ payload order).map (·.map (behind queue)) := by
  have hf : (r.behind queue).findGateway = r.findGateway := rfl
  unfold handlePipeMessage
  split
  · rfl
  · rfl
  · simp only [Option.map_some, handleRouteConnect]
    have hc : (r.behind queue).isConnected = r.isConnected := rfl
    rw [hc]
    split <;> rfl
  · simp only [handleRouteChannelMsg, hf, Option.map_map]
    congr 1
    funext realPayload
    simp only [Function.comp_apply]
    split
    · exact behind_raise _ _ _ _
    · rfl
  · simp only [Option.map_some, handleRouteChannelEnd, hf]
    split
    · rw [behind_unregister, behind_raise]
    · rfl

theorem behind_notifyNext (queue : List Bytes) (r : ClientRouter) :
    (r.behind queue).notifyNext = r.notifyNext.map (·.map (behind queue)) := by
  have hb : (r.behind queue).broadcast = r.broadcast := rfl
  have hg : (r.behind queue).gateways = r.gateways := rfl
  simp only [notifyNext, hb, hg]
  split
  · rfl
  · next g rest _ =>
    have hraise := behind_raise queue
      { r with broadcast := { r.broadcast with remaining := rest } } g r.broadcast.event
    split
    · exact congrArg some hraise
    · rfl

theorem behind_dropNext (κ : RouteCodec) (queue : List Bytes) (r : ClientRouter)
    (outcome : Int32) :
    (r.behind queue).dropNext κ outcome = (r.dropNext κ outcome).map (behind queue) := by
  have hb : (r.behind queue).broadcast = r.broadcast := rfl
  have hg : (r.behind queue).gateways = r.gateways := rfl
  simp only [dropNext, hb, hg, behind_destroy]
  split
  · split
    · split <;> rfl
    · rfl
  · rfl

theorem behind_perform (κ : RouteCodec) (queue : List Bytes) (r : ClientRouter)
    (a : ClientAction) :
    (r.behind queue).perform κ a = (r.perform κ a).map (·.map (behind queue)) := by
  have hc : ∀ g, (r.behind queue).channel g = r.channel g := fun _ => rfl
  have hi : (r.behind queue).idle = r.idle := rfl
  have hm : (r.behind queue).mapOfGateways = r.mapOfGateways := rfl
  have hg : (r.behind queue).gateways = r.gateways := rfl
  cases a with
  | makeGateway =>
    simp only [perform, hg]
    split <;> rfl
  | send g serviceId payload outcome =>
    simp only [perform, hc, Option.map_map, behind_send]
    rfl
  | complete g errorCode =>
    simp only [perform, hc, Option.map_map]
    rfl
  | subscribe g handler =>
    simp only [perform, hc, Option.map_map, behind_subscribe]
    rfl
  | release g outcome =>
    simp only [perform, hc, Option.map_map, behind_release]
    rfl
  | pipeConnected outcome =>
    simp only [perform, hi, handlePipeConnected, behind_pipeSend]
    split <;> rfl
  | pipeMessage payload order =>
    simp only [perform, hi, hm, behind_handlePipeMessage]
    split <;> rfl
  | pipeDisconnected order =>
    simp only [perform, hi, hm, handlePipeDisconnected]
    have hcon : (r.behind queue).isConnected = r.isConnected := rfl
    rw [hcon]
    split
    · split <;> rfl
    · rfl
  | notifyNext => exact behind_notifyNext queue r
  | dropNext outcome =>
    simp only [perform, behind_dropNext, Option.map_map]
    rfl

theorem behind_step (κ : RouteCodec) (queue : List Bytes) (r : ClientRouter) (a : ClientAction) :
    (r.behind queue).step κ a = (r.step κ a).map (behind queue) := by
  simp only [step, behind_perform, Option.map_map]
  rfl

end ClientRouter

def ClientAction.payload : ClientAction → Bytes
  | .send _ _ payload _ => payload
  | _ => []

def ServerAction.payload : ServerAction → Bytes
  | .send _ _ payload _ => payload
  | _ => []

namespace ClientRouter

theorem clientPipe_raise (r : ClientRouter) (g : GatewayId) (e : Event) :
    (r.raise g e).router.clientPipe = r.clientPipe := by
  unfold raise
  split <;> rfl

theorem mem_destroy {κ : RouteCodec} {r : ClientRouter} {g : GatewayId} {gw : GatewayImpl Tag}
    {outcome : Int32} {b : Bytes} (h : b ∈ (r.destroy κ g gw outcome).clientPipe) :
    b ∈ r.clientPipe ∨ ∃ route, b = κ.serialize route := by
  rcases destroy_cases κ r g gw outcome with ⟨_, _, _, hd⟩ | ⟨_, hd⟩
  · rw [hd] at h
    exact (mem_pipeSend h).imp_right fun hb => ⟨_, hb⟩
  · rw [hd] at h
    exact Or.inl h

/-- A step puts nothing in the pipe but a route, with the payload of its action behind it. -/
theorem posted {κ : RouteCodec} {r r' : ClientRouter} {a : ClientAction}
    (h : r.step κ a = some r') {b : Bytes} (hb : b ∈ r'.clientPipe) :
    b ∈ r.clientPipe ∨ ∃ route, b = κ.serialize route ++ a.payload ∨ b = κ.serialize route := by
  obtain ⟨reply, hp, rfl⟩ := step_eq_some.mp h
  cases performs hp with
  | sends serviceId payload outcome channel connected registered =>
    exact (mem_pipeSend hb).imp_right fun hb => ⟨_, Or.inl hb⟩
  | greets => exact Or.inl (by simpa [clientPipe_raise, modify, unregister] using hb)
  | destroys outcome channel unpinned =>
    exact (mem_destroy hb).imp_right fun hb => hb.imp fun _ => Or.inr
  | requests outcome idle => exact (mem_pipeSend hb).imp_right fun hb => ⟨_, Or.inr hb⟩
  | drops outcome done pinned held alive disowned =>
    exact (mem_destroy hb).imp_right fun hb => hb.imp fun _ => Or.inr
  | passes => exact Or.inl (by simpa [clientPipe_raise, modify, unregister] using hb)
  | ends => exact Or.inl (by simpa [clientPipe_raise, modify, unregister] using hb)
  | notifies => exact Or.inl (by simpa [clientPipe_raise, modify, unregister] using hb)
  | _ => exact Or.inl hb

end ClientRouter

namespace ServerRouter

def behind (queues : ClientId → List Bytes) (r : ServerRouter) : ServerRouter :=
  { r with serverPipe := fun c => queues c ++ r.serverPipe c }

@[simp] theorem behind_modify (queues : ClientId → List Bytes) (r : ServerRouter)
    (g : GatewayId) (f : GatewayImpl Endpoint → GatewayImpl Endpoint) :
    (r.behind queues).modify g f = (r.modify g f).behind queues := rfl

@[simp] theorem behind_setMap (queues : ClientId → List Bytes) (r : ServerRouter)
    (c : ClientId) (m : Option MapOfWeakGateways) :
    (r.behind queues).setMap c m = (r.setMap c m).behind queues := rfl

@[simp] theorem behind_pipeSend (queues : ClientId → List Bytes) (r : ServerRouter)
    (c : ClientId) (message : Bytes) (outcome : Int32) :
    (r.behind queues).pipeSend c message outcome =
      (r.pipeSend c message outcome).behind queues := by
  unfold pipeSend
  split
  · have hpipe : Function.update (fun c => queues c ++ r.serverPipe c) c
        (queues c ++ r.serverPipe c ++ [message]) =
        fun c' => queues c' ++ Function.update r.serverPipe c (r.serverPipe c ++ [message]) c' := by
      funext c'
      by_cases hc : c' = c
      · subst hc
        simp
      · simp [hc]
    simp only [behind, hpipe]
  · rfl

@[simp] theorem behind_raise (queues : ClientId → List Bytes) (r : ServerRouter) (g : GatewayId)
    (e : Event) : (r.behind queues).raise g e = (r.raise g e).map (behind queues) := by
  have hg : (r.behind queues).gateways[g]? = r.gateways[g]? := rfl
  simp only [raise, hg]
  split <;> rfl

theorem behind_send (κ : RouteCodec) (queues : ClientId → List Bytes) (r : ServerRouter)
    (g : GatewayId) (gw : GatewayImpl Endpoint) (serviceId : ServiceId) (payload : Bytes)
    (outcome : Int32) :
    (r.behind queues).send κ g gw serviceId payload outcome =
      (r.send κ g gw serviceId payload outcome).map (behind queues) := by
  have hc : (r.behind queues).isConnected = r.isConnected := rfl
  have hr : (r.behind queues).isRegisteredGateway = r.isRegisteredGateway := rfl
  simp only [send, hc, hr, behind_modify, behind_pipeSend]
  split
  · rfl
  · split <;> rfl

theorem behind_subscribe (queues : ClientId → List Bytes) (r : ServerRouter) (g : GatewayId)
    (gw : GatewayImpl Endpoint) (handler : Option Decoder) :
    (r.behind queues).subscribe g gw handler =
      (r.subscribe g gw handler).map (behind queues) := by
  have hc : ∀ s : ServerRouter, (s.behind queues).isConnected = s.isConnected := fun _ => rfl
  have hf : ∀ s : ServerRouter, (s.behind queues).findGateway = s.findGateway := fun _ => rfl
  simp only [subscribe, onGatewaySubscription, behind_modify, hc, hf]
  split
  · split
    · rw [behind_raise]
      rfl
    · rfl
  · rfl

@[simp] theorem behind_destroy (κ : RouteCodec) (queues : ClientId → List Bytes)
    (r : ServerRouter) (g : GatewayId) (gw : GatewayImpl Endpoint) (outcome : Int32) :
    (r.behind queues).destroy κ g gw outcome = (r.destroy κ g gw outcome).behind queues := by
  have hc : ∀ s : ServerRouter, (s.behind queues).isConnected = s.isConnected := fun _ => rfl
  have hm : ∀ s : ServerRouter, (s.behind queues).clientIdToMapOfGateways =
      s.clientIdToMapOfGateways := fun _ => rfl
  simp only [destroy, onGatewayDisposal, behind_modify, behind_setMap, behind_pipeSend, hc, hm]
  split
  · rfl
  · split <;> rfl

@[simp] theorem behind_makeChannel (κ : RouteCodec) (queues : ClientId → List Bytes)
    (r : ServerRouter) (c : ClientId) (mapOfGws : MapOfWeakGateways) (m : RouteChannelMsg)
    (input : Decoder) (realPayload : Bytes) (outcome : Int32) :
    (r.behind queues).makeChannel κ c mapOfGws m input realPayload outcome =
      (r.makeChannel κ c mapOfGws m input realPayload outcome).map (behind queues) := by
  let gw : GatewayImpl Endpoint :=
    { endpoint := ⟨m.tag, c⟩, events := [.message m.sequence realPayload] }
  have hdestroy := behind_destroy κ queues
    (({ r with gateways := r.gateways ++ [gw] } : ServerRouter).setMap c
      (some (mapOfGws.insert m.tag r.gateways.length))) r.gateways.length gw outcome
  simp only [makeChannel]
  split
  · rfl
  · exact congrArg (fun s => ({ router := s } : Reply ServerRouter)) hdestroy

theorem behind_handlePipeMessage (κ : RouteCodec) (queues : ClientId → List Bytes)
    (r : ServerRouter) (c : ClientId) (payload : Bytes) (outcome : Int32) :
    (r.behind queues).handlePipeMessage κ c payload outcome =
      (r.handlePipeMessage κ c payload outcome).map (·.map (behind queues)) := by
  have hm : (r.behind queues).clientIdToMapOfGateways = r.clientIdToMapOfGateways := rfl
  have hf : (r.behind queues).findGateway = r.findGateway := rfl
  have hg : (r.behind queues).gateways = r.gateways := rfl
  have hs : (r.behind queues).serviceIdToChannelFactory = r.serviceIdToChannelFactory := rfl
  unfold handlePipeMessage
  split
  · rfl
  · rfl
  · simp only [Option.map_some, handleRouteConnect, hm, behind_pipeSend, behind_setMap]
    split <;> rfl
  · simp only [handleRouteChannelMsg, hm, hg, hs, Option.map_map]
    congr 1
    funext realPayload
    simp only [Function.comp_apply, behind_raise, behind_makeChannel]
    split
    · rfl
    · split
      · rfl
      · split
        · split <;> rfl
        · rfl
  · simp only [Option.map_some, handleRouteChannelEnd, hm, hf]
    split
    · rfl
    · split
      · rw [behind_setMap, behind_raise]
      · rfl

theorem behind_notifyNext (queues : ClientId → List Bytes) (r : ServerRouter) :
    (r.behind queues).notifyNext = r.notifyNext.map (·.map (behind queues)) := by
  have hr : (r.behind queues).remaining = r.remaining := rfl
  have hg : (r.behind queues).gateways = r.gateways := rfl
  simp only [notifyNext, hr, hg]
  split
  · rfl
  · next g rest _ =>
    have hraise := behind_raise queues { r with remaining := rest } g
      (.completed ErrorCode.disconnected)
    split
    · exact congrArg some hraise
    · rfl

theorem behind_perform (κ : RouteCodec) (queues : ClientId → List Bytes) (r : ServerRouter)
    (a : ServerAction) :
    (r.behind queues).perform κ a = (r.perform κ a).map (·.map (behind queues)) := by
  have hc : ∀ g, (r.behind queues).channel g = r.channel g := fun _ => rfl
  have hi : (r.behind queues).idle = r.idle := rfl
  have hids : ∀ c, (r.behind queues).ids c = r.ids c := fun _ => rfl
  have hm : (r.behind queues).clientIdToMapOfGateways = r.clientIdToMapOfGateways := rfl
  cases a with
  | registerChannelFactory serviceId input => rfl
  | send g serviceId payload outcome =>
    simp only [perform, hc, Option.map_map, behind_send]
    rfl
  | complete g errorCode =>
    simp only [perform, hc, Option.map_map]
    rfl
  | subscribe g handler =>
    simp only [perform, hc, Option.map_map, behind_subscribe]
    rfl
  | release g outcome =>
    simp only [perform, hc, Option.map_map, behind_destroy]
    rfl
  | pipeConnected c =>
    simp only [perform, hi]
    split <;> rfl
  | pipeMessage c payload outcome =>
    simp only [perform, hi, behind_handlePipeMessage]
    split <;> rfl
  | pipeDisconnected c order =>
    simp only [perform, hi, hids, handlePipeDisconnected, hm]
    split
    · split <;> rfl
    · rfl
  | notifyNext => exact behind_notifyNext queues r

theorem behind_step (κ : RouteCodec) (queues : ClientId → List Bytes) (r : ServerRouter)
    (a : ServerAction) : (r.behind queues).step κ a = (r.step κ a).map (behind queues) := by
  simp only [step, behind_perform, Option.map_map]
  rfl

theorem serverPipe_raise (r : ServerRouter) (g : GatewayId) (e : Event) :
    (r.raise g e).router.serverPipe = r.serverPipe := by
  unfold raise
  split <;> rfl

theorem mem_destroy {κ : RouteCodec} {r : ServerRouter} {g : GatewayId}
    {gw : GatewayImpl Endpoint} {outcome : Int32} {b : Bytes} {c : ClientId}
    (h : b ∈ (r.destroy κ g gw outcome).serverPipe c) :
    b ∈ r.serverPipe c ∨ ∃ route, b = κ.serialize route := by
  unfold destroy onGatewayDisposal at h
  simp only at h
  split at h
  · exact Or.inl h
  · split at h
    · exact (mem_pipeSend h).imp_right fun hb => ⟨_, hb.1⟩
    · exact Or.inl h

theorem posted {κ : RouteCodec} {r r' : ServerRouter} {a : ServerAction}
    (h : r.step κ a = some r') {b : Bytes} {c : ClientId} (hb : b ∈ r'.serverPipe c) :
    b ∈ r.serverPipe c ∨ ∃ route, b = κ.serialize route ++ a.payload ∨ b = κ.serialize route := by
  obtain ⟨reply, hp, rfl⟩ := step_eq_some.mp h
  cases performs hp with
  | sends serviceId payload outcome channel registered =>
    exact (mem_pipeSend hb).imp_right fun hb => ⟨_, Or.inl hb.1⟩
  | greets => exact Or.inl (by simpa [serverPipe_raise, modify] using hb)
  | destroys outcome channel =>
    exact (mem_destroy hb).imp_right fun hb => hb.imp fun _ => Or.inr
  | connects c' outcome idle request =>
    unfold handleRouteConnect at hb
    simp only at hb
    split at hb
    · exact (mem_pipeSend hb).imp_right fun hb => ⟨_, Or.inr hb.1⟩
    · exact (mem_pipeSend hb).imp_right fun hb => ⟨_, Or.inr hb.1⟩
  | opens outcome idle decoded cut known unfound first factory =>
    unfold makeChannel at hb
    simp only at hb
    split at hb
    · exact Or.inl hb
    · exact (mem_destroy hb).imp_right fun hb => hb.imp fun _ => Or.inr
  | passes => exact Or.inl (by simpa [serverPipe_raise, modify] using hb)
  | ends => exact Or.inl (by simpa [serverPipe_raise, setMap] using hb)
  | notifies => exact Or.inl (by simpa [serverPipe_raise, modify] using hb)
  | _ => exact Or.inl hb

end ServerRouter

end Ocvsmd.Ipc
