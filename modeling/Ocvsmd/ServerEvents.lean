import Ocvsmd.ServerPipeLoss

set_option autoImplicit false

namespace Ocvsmd.Ipc

/-- An event of the pipe, or the next turn of the loop that one has started. -/
def ServerAction.isIncoming : ServerAction → Bool
  | .notifyNext => true
  | a => a.isPipeEvent

theorem modify_concat {α : Type} (l : List α) (x : α) (f : α → α) :
    (l ++ [x]).modify l.length f = l ++ [f x] := by
  have h := List.modifyTailIdx_add (List.modifyHead f) 0 l [x]
  simpa [List.modify] using h

theorem modify_const {α : Type} {l : List α} {i : Nat} {x : α} (h : l[i]? = some x) (f : α → α) :
    l.modify i f = l.modify i fun _ => f x := by
  apply List.ext_getElem?
  intro j
  by_cases hj : i = j
  · subst hj
    simp [h]
  · simp [hj]

namespace GatewayImpl

def offered {E : Type} (gw : GatewayImpl E) : List Item := gw.posts.map (·.1)

def closed {E : Type} (gw : GatewayImpl E) (registered : Bool) (err outcome : Int32) :
    GatewayImpl E :=
  if registered then (gw.complete err).expire.post (.fin err) outcome
  else (gw.complete err).expire

theorem offered_closed {E : Type} (gw : GatewayImpl E) (registered : Bool)
    (err outcome : Int32) : (gw.closed registered err outcome).offered =
      gw.offered ++ if registered then [.fin err] else [] := by
  cases registered <;> simp [closed, offered, post, complete, expire]

@[simp] theorem got_closed {E : Type} (gw : GatewayImpl E) (registered : Bool)
    (err outcome : Int32) : (gw.closed registered err outcome).got = gw.got := by
  cases registered <;> rfl

@[simp] theorem endpoint_closed {E : Type} (gw : GatewayImpl E) (registered : Bool)
    (err outcome : Int32) : (gw.closed registered err outcome).endpoint = gw.endpoint := by
  cases registered <;> rfl

@[simp] theorem alive_closed {E : Type} (gw : GatewayImpl E) (registered : Bool)
    (err outcome : Int32) : (gw.closed registered err outcome).alive = false := by
  cases registered <;> rfl

end GatewayImpl

namespace ServerRouter

/-- The ways in which a router may go through an event. -/
inductive Handled (r : ServerRouter) (reply : Reply ServerRouter) : Prop where
  | quiet (gateways : reply.router.gateways = r.gateways)
      (lookup : reply.router.lookup = r.lookup)
      (turns : ∀ g ∈ r.remaining, g ∈ reply.router.remaining ∨ isAlive r.gateways g = false)
      (remaining : ∀ g ∈ reply.router.remaining, g ∈ r.remaining)
      (call : reply.call = none)
  | heard (g : GatewayId) (gw : GatewayImpl Endpoint) (sequence : UInt64) (payload : Bytes)
      (found : r.gateways[g]? = some gw) (registered : r.lookup gw.endpoint = some g)
      (gateways : reply.router.gateways = r.gateways.modify g (·.hear (.message sequence payload)))
      (lookup : reply.router.lookup = r.lookup)
      (idle : r.remaining = []) (remaining : reply.router.remaining = [])
      (call : reply.call = if gw.handles (.message sequence payload)
        then some (.event g (.message sequence payload)) else none)
  | dropped (gw : GatewayImpl Endpoint) (serviceId : ServiceId) (input : Decoder)
      (payload : Bytes) (factory : r.serviceIdToChannelFactory serviceId = some input)
      (undecodable : input payload = false) (unregistered : r.lookup gw.endpoint = none)
      (dead : gw.alive = false) (got : gw.got = [.msg 0 payload])
      (gateways : reply.router.gateways = r.gateways ++ [gw])
      (lookup : reply.router.lookup = r.lookup)
      (idle : r.remaining = []) (remaining : reply.router.remaining = [])
      (call : reply.call = none)
  | opened (ep : Endpoint) (serviceId : ServiceId) (input : Decoder) (payload : Bytes)
      (factory : r.serviceIdToChannelFactory serviceId = some input)
      (decodable : input payload = true) (unregistered : r.lookup ep = none)
      (gateways : reply.router.gateways =
        r.gateways ++ [{ endpoint := ep, events := [.message 0 payload] }])
      (lookup : reply.router.lookup = Function.update r.lookup ep (some r.gateways.length))
      (idle : r.remaining = []) (remaining : reply.router.remaining = [])
      (call : reply.call = some (.newChannel r.gateways.length serviceId payload))
  | ended (g : GatewayId) (gw : GatewayImpl Endpoint) (errorCode : Int32)
      (found : r.gateways[g]? = some gw) (registered : r.lookup gw.endpoint = some g)
      (gateways : reply.router.gateways = r.gateways.modify g (·.hear (.completed errorCode)))
      (lookup : reply.router.lookup = Function.update r.lookup gw.endpoint none)
      (idle : r.remaining = []) (remaining : reply.router.remaining = [])
      (call : reply.call = if gw.handles (.completed errorCode)
        then some (.event g (.completed errorCode)) else none)
  | lost (c : ClientId) (gateways : reply.router.gateways = r.gateways)
      (lookup : ∀ ep, reply.router.lookup ep = if ep.clientId = c then none else r.lookup ep)
      (idle : r.remaining = [])
      (remaining : ∀ g, g ∈ reply.router.remaining ↔ ∃ t, r.lookup ⟨t, c⟩ = some g)
      (call : reply.call = none)
  | turn (g : GatewayId) (gw : GatewayImpl Endpoint) (found : r.gateways[g]? = some gw)
      (alive : gw.alive = true)
      (gateways : reply.router.gateways =
        r.gateways.modify g (·.hear (.completed ErrorCode.disconnected)))
      (lookup : reply.router.lookup = r.lookup)
      (remaining : r.remaining = g :: reply.router.remaining)
      (call : reply.call = if gw.handles (.completed ErrorCode.disconnected)
        then some (.event g (.completed ErrorCode.disconnected)) else none)

theorem raise_found {r : ServerRouter} {g : GatewayId} {gw : GatewayImpl Endpoint}
    (hg : r.gateways[g]? = some gw) (e : Event) :
    r.raise g e = { router := r.modify g (·.hear e)
                    code := gw.eventCode e
                    call := if gw.handles e then some (.event g e) else none } := by
  simp [raise, hg]

theorem lookup_raise (r : ServerRouter) (g : GatewayId) (e : Event) :
    (r.raise g e).router.lookup = r.lookup := by
  unfold raise
  split <;> rfl

theorem handled_makeChannel {κ : RouteCodec} {r : ServerRouter} {c : ClientId}
    (hi : r.remaining = [])
    {mapOfGws : MapOfWeakGateways} (hm : r.clientIdToMapOfGateways c = some mapOfGws)
    {m : RouteChannelMsg} (hs : m.sequence = 0) (hl : r.lookup ⟨m.tag, c⟩ = none)
    {input : Decoder} (hf : r.serviceIdToChannelFactory m.serviceId = some input)
    (payload : Bytes) (outcome : Int32) :
    r.Handled (r.makeChannel κ c mapOfGws m input payload outcome) := by
  let gw : GatewayImpl Endpoint :=
    { endpoint := ⟨m.tag, c⟩, events := [.message m.sequence payload] }
  let made := { r with gateways := r.gateways ++ [gw] }.setMap c
    (some (mapOfGws.insert m.tag r.gateways.length))
  have hlookup : made.lookup =
      Function.update r.lookup ⟨m.tag, c⟩ (some r.gateways.length) :=
    lookup_insert (r := { r with gateways := r.gateways ++ [gw] }) ⟨m.tag, c⟩ hm _
  unfold makeChannel
  simp only
  split
  · next hd =>
    exact .opened ⟨m.tag, c⟩ m.serviceId input payload hf hd hl (by simp [setMap, hs]) hlookup
      hi hi rfl
  · next hd =>
    have hgone : (made.destroy κ r.gateways.length gw outcome).lookup = r.lookup := by
      rw [lookup_destroy, hlookup, Function.update_idem]
      exact Function.update_eq_self_iff.mpr hl.symm
    have hrem : (made.destroy κ r.gateways.length gw outcome).remaining = [] :=
      (remaining_destroy κ made r.gateways.length gw outcome).trans hi
    have hgot : gw.got = [.msg 0 payload] := by simp [gw, GatewayImpl.got, Event.item, hs]
    rcases gateways_destroy κ made r.gateways.length gw outcome with hgs | hgs
    · exact .dropped gw.expire m.serviceId input payload hf (by simpa using hd) hl rfl hgot
        (by rw [hgs]; exact modify_concat _ _ _) hgone hi hrem rfl
    · exact .dropped (gw.expire.post (.fin gw.completionErrorCode) outcome) m.serviceId input
        payload hf (by simpa using hd) hl rfl hgot
        (by rw [hgs]; simp only [made, gateways_setMap, modify_concat]) hgone hi hrem rfl

/-- What a router does when it goes through an event is one of these. -/
theorem Wf.handled {κ : RouteCodec} {r : ServerRouter} {a : ServerAction}
    {reply : Reply ServerRouter} (h : r.Wf) (ha : a.isIncoming = true)
    (hp : r.perform κ a = some reply) : r.Handled reply := by
  have hnone : r.idle = true → r.remaining = [] := List.isEmpty_iff.mp
  cases performs hp with
  | nothing code => exact .quiet rfl rfl (fun _ => Or.inl) (fun _ => id) rfl
  | registers serviceId input => cases ha
  | sends serviceId payload outcome channel => cases ha
  | completes errorCode channel => cases ha
  | subscribes handler channel => cases ha
  | greets handler channel => cases ha
  | destroys outcome channel => cases ha
  | connects c outcome idle =>
    have hrem : (r.handleRouteConnect κ c outcome).router.remaining = r.remaining := by
      unfold handleRouteConnect
      split <;> simp [setMap]
    refine .quiet ?_ (lookup_handleRouteConnect κ r c outcome)
      (fun g hg => Or.inl (by rwa [hrem])) (fun g hg => by rwa [← hrem]) ?_
    · unfold handleRouteConnect
      split <;> simp
    · unfold handleRouteConnect
      split <;> rfl
  | @passes c g m payload realPayload outcome idle decoded cut found =>
    have hl := (Option.filter_eq_some_iff.mp found).1
    obtain ⟨gw, hg, he, _⟩ := h.registry _ _ hl
    rw [raise_found hg]
    exact .heard g gw m.sequence realPayload hg (by rw [he]; exact hl) rfl rfl (hnone idle)
      (hnone idle) rfl
  | @opens c m payload realPayload mapOfGws input outcome idle decoded cut known unfound first
      factory =>
    have hl : r.lookup ⟨m.tag, c⟩ = none := (h.registry.lock _).symm.trans unfound
    exact handled_makeChannel (hnone idle) known first hl factory realPayload outcome
  | @ends c g e payload mapOfGws outcome idle decoded known found =>
    have hl := (Option.filter_eq_some_iff.mp found).1
    obtain ⟨gw, hg, he, _⟩ := h.registry _ _ hl
    have hlookup := lookup_erase ⟨e.tag, c⟩ known
    rw [raise_found (r := r.setMap c (some (mapOfGws.erase e.tag))) hg]
    exact .ended g gw e.errorCode hg (by rw [he]; exact hl) rfl (by rw [he]; exact hlookup)
      (hnone idle) (hnone idle) rfl
  | @loses c order idle ids known =>
    refine .lost c rfl (fun ep => ?_) (hnone idle) (fun g => ?_) rfl
    · exact lookup_setMap r c none ep
    · exact ids.mem_iff.trans mem_ids
  | @notifies g rest remaining alive =>
    obtain ⟨gw, hg, ha⟩ := isAlive_iff.mp alive
    rw [raise_found (r := { r with remaining := rest }) hg]
    exact .turn g gw hg ha rfl rfl remaining rfl
  | @skips g rest remaining dead =>
    refine .quiet rfl rfl (fun g' hg' => ?_) (fun g' hg' => ?_) rfl
    · rw [remaining] at hg'
      rcases List.mem_cons.mp hg' with rfl | hg'
      · exact Or.inr dead
      · exact Or.inl hg'
    · rw [remaining]
      exact List.mem_cons_of_mem _ hg'

@[simp] theorem factory_pipeSend (r : ServerRouter) (clientId : ClientId) (message : Bytes)
    (outcome : Int32) :
    (r.pipeSend clientId message outcome).serviceIdToChannelFactory =
      r.serviceIdToChannelFactory := by
  unfold pipeSend
  split <;> rfl

theorem Updates.factory {κ : RouteCodec} {r r' : ServerRouter} (h : Updates κ r r') :
    r'.serviceIdToChannelFactory = r.serviceIdToChannelFactory := by
  refine h.keep (P := fun m => m.serviceIdToChannelFactory = r.serviceIdToChannelFactory) ?_ rfl
  intro m m' hm hu
  cases hu with
  | gateways gs => exact hm
  | entry known m' => exact hm
  | post d channel outcome => exact (factory_pipeSend _ _ _ _).trans hm

theorem factory_step {κ : RouteCodec} {r r' : ServerRouter} {a : ServerAction}
    (hs : r.step κ a = some r')
    (ha : ∀ serviceId input, a ≠ .registerChannelFactory serviceId input) :
    r'.serviceIdToChannelFactory = r.serviceIdToChannelFactory := by
  cases step_case hs with
  | updates done => exact done.factory
  | registers serviceId input => exact absurd rfl (ha serviceId input)
  | connects c payload outcome =>
    unfold handleRouteConnect
    simp only
    split
    · exact factory_pipeSend _ _ _ _
    · exact factory_pipeSend _ _ _ _
  | loses c order idle ids =>
    unfold handlePipeDisconnected
    split <;> rfl
  | turns g rest remaining done => exact done.factory

theorem run_close {κ : RouteCodec} {r : ServerRouter} {g : GatewayId}
    {gw : GatewayImpl Endpoint} (hg : r.gateways[g]? = some gw) (ho : gw.owned = true)
    (err outcome : Int32) :
    ∃ r', Runs.run (step κ) r [.complete g err, .release g outcome] = some r' ∧
      r'.lookup = Function.update r.lookup gw.endpoint none ∧ r'.remaining = r.remaining ∧
      r'.gateways =
        r.gateways.modify g (·.closed (r.lookup gw.endpoint).isSome err outcome) := by
  have hc : (r.modify g (·.complete err)).gateways[g]? = some (gw.complete err) := by simp [hg]
  refine ⟨(r.modify g (·.complete err)).destroy κ g (gw.complete err) outcome, ?_, ?_, ?_, ?_⟩
  · have h1 : r.step κ (.complete g err) = some (r.modify g (·.complete err)) := by
      simp [step, perform, channel, hg, ho]
    have h2 : (r.modify g (·.complete err)).step κ (.release g outcome) =
        some ((r.modify g (·.complete err)).destroy κ g (gw.complete err) outcome) := by
      simp [step, perform, channel, hg, ho, GatewayImpl.complete]
    exact Runs.run_cons.mpr ⟨_, h1, Runs.run_one.mpr h2⟩
  · rw [lookup_destroy]
    rfl
  · rw [remaining_destroy]
    rfl
  · rcases destroy_cases κ (r.modify g (·.complete err)) g (gw.complete err) outcome with
      ⟨m, _, hl, heq⟩ | ⟨hl, maps, heq⟩
    · have hl' : (r.lookup gw.endpoint).isSome = true := hl
      rw [heq, gateways_pipeSend]
      simp only [gateways_modify, gateways_setMap, List.modify_modify_eq]
      apply List.ext_getElem?
      intro i
      by_cases hi : g = i
      · subst hi
        simp [hg, hl', GatewayImpl.closed, GatewayImpl.complete]
      · simp [hi]
    · have hl' : r.lookup gw.endpoint = none := hl
      rw [heq]
      simp only [gateways_modify, List.modify_modify_eq]
      apply List.ext_getElem?
      intro i
      by_cases hi : g = i
      · subst hi
        simp [hg, hl', GatewayImpl.closed]
      · simp [hi]

theorem step_send {κ : RouteCodec} {r : ServerRouter} {g : GatewayId}
    {gw : GatewayImpl Endpoint} (hg : r.gateways[g]? = some gw) (ho : gw.owned = true)
    (hl : (r.lookup gw.endpoint).isSome = true) (serviceId : ServiceId) (payload : Bytes)
    (outcome : Int32) :
    ∃ r', r.step κ (.send g serviceId payload outcome) = some r' ∧ r'.lookup = r.lookup ∧
      r'.remaining = r.remaining ∧
      r'.gateways = r.gateways.modify g fun gw =>
        gw.advance.post (.msg gw.nextSequence.toNat payload) outcome := by
  have hc : r.isConnected gw.endpoint = true := by
    cases hm : r.clientIdToMapOfGateways gw.endpoint.clientId with
    | some m => simp [isConnected, hm]
    | none => simp [lookup, hm] at hl
  refine ⟨(r.send κ g gw serviceId payload outcome).router, ?_, ?_, ?_, ?_⟩
  · simp [step, perform, channel, hg, ho]
  · simp [send, hc, isRegisteredGateway, hl]
  · simp [send, hc, isRegisteredGateway, hl, modify]
  · simp only [send, hc, isRegisteredGateway, hl, Bool.not_true, Bool.false_eq_true, if_false,
      gateways_pipeSend, gateways_modify]
    apply List.ext_getElem?
    intro i
    by_cases hi : g = i
    · subst hi
      simp [hg]
    · simp [hi]

theorem step_subscribe {κ : RouteCodec} {r : ServerRouter} {g : GatewayId}
    {gw : GatewayImpl Endpoint} (hg : r.gateways[g]? = some gw) (ho : gw.owned = true)
    (ha : gw.alive = true) (hl : r.lookup gw.endpoint = some g) (handler : Option Decoder) :
    ∃ r', r.step κ (.subscribe g handler) = some r' ∧ r'.lookup = r.lookup ∧
      r'.remaining = r.remaining ∧
      r'.gateways = r.gateways.modify g fun gw => (gw.subscribe handler).hear .connected := by
  have hc : r.isConnected gw.endpoint = true := by
    cases hm : r.clientIdToMapOfGateways gw.endpoint.clientId with
    | some m => simp [isConnected, hm]
    | none => simp [lookup, hm] at hl
  have hg' : (r.modify g (·.subscribe handler)).gateways[g]? = some (gw.subscribe handler) := by
    simp [hg]
  have hf : (r.modify g (·.subscribe handler)).findGateway gw.endpoint = some g := by
    have hlive : isAlive (r.modify g (·.subscribe handler)).gateways g = true :=
      isAlive_iff.mpr ⟨_, hg', ha⟩
    simp only [findGateway, lookup_modify, hl, Option.filter, hlive, if_true]
  have hsub : (r.subscribe g gw handler).router =
      (r.modify g (·.subscribe handler)).modify g (·.hear .connected) := by
    have hc' : (r.modify g (·.subscribe handler)).isConnected gw.endpoint = true := hc
    simp only [subscribe, onGatewaySubscription, hc', if_true, hf, raise_found hg']
  refine ⟨(r.subscribe g gw handler).router, ?_, ?_, ?_, ?_⟩
  · simp [step, perform, channel, hg, ho]
  · rw [hsub]
    rfl
  · rw [hsub]
    rfl
  · rw [hsub]
    simp only [gateways_modify, List.modify_modify_eq]
    rfl

end ServerRouter

end Ocvsmd.Ipc
