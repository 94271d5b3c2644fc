import Ocvsmd.ClientRouter
import Ocvsmd.ServerRouter

set_option autoImplicit false

namespace Ocvsmd.Ipc

namespace ServerRouter

/-- What a step may do of whatever kind it is. -/
inductive Update (κ : RouteCodec) (r : ServerRouter) : ServerRouter → Prop where
  | gateways (gs : List (GatewayImpl Endpoint)) : Update κ r { r with gateways := gs }
  | entry {c : ClientId} {m : MapOfWeakGateways} (known : r.clientIdToMapOfGateways c = some m)
      (m' : MapOfWeakGateways) : Update κ r (r.setMap c (some m'))
  | post (c : ClientId) {message : Bytes} (channel : isOfChannel κ message = true)
      (outcome : Int32) : Update κ r (r.pipeSend c message outcome)

abbrev Updates (κ : RouteCodec) : ServerRouter → ServerRouter → Prop :=
  Relation.ReflTransGen (Update κ)

theorem Updates.keep {κ : RouteCodec} {P : ServerRouter → Prop}
    (hP : ∀ {m m'}, P m → Update κ m m' → P m') {r r' : ServerRouter} (h : Updates κ r r')
    (hr : P r) : P r' := by
  induction h with
  | refl => exact hr
  | tail _ hu ih => exact hP ih hu

/-- The kinds of steps, with what a step of that kind alone does. -/
inductive StepCase (κ : RouteCodec) (r : ServerRouter) : ServerAction → ServerRouter → Prop where
  | updates {a : ServerAction} {r' : ServerRouter} (done : Updates κ r r') : StepCase κ r a r'
  | registers (serviceId : ServiceId) (input : Decoder) :
      StepCase κ r (.registerChannelFactory serviceId input)
        (r.registerChannelFactory serviceId input)
  | connects (c : ClientId) (payload : Bytes) (outcome : Int32) :
      StepCase κ r (.pipeMessage c payload outcome) (r.handleRouteConnect κ c outcome).router
  | loses (c : ClientId) (order : List GatewayId) (idle : r.idle = true)
      (ids : order.Perm (r.ids c)) :
      StepCase κ r (.pipeDisconnected c order) (r.handlePipeDisconnected c order).router
  | turns (g : GatewayId) (rest : List GatewayId) {r' : ServerRouter}
      (remaining : r.remaining = g :: rest) (done : Updates κ { r with remaining := rest } r') :
      StepCase κ r .notifyNext r'

theorem updates_modify (κ : RouteCodec) (r : ServerRouter) (g : GatewayId)
    (f : GatewayImpl Endpoint → GatewayImpl Endpoint) : Updates κ r (r.modify g f) :=
  .single (.gateways _)

theorem updates_raise (κ : RouteCodec) (r : ServerRouter) (g : GatewayId) (e : Event) :
    Updates κ r (r.raise g e).router := by
  unfold raise
  split
  · exact updates_modify κ r g _
  · exact .refl

theorem updates_destroy (κ : RouteCodec) (r : ServerRouter) (g : GatewayId)
    (gw : GatewayImpl Endpoint) (outcome : Int32) : Updates κ r (r.destroy κ g gw outcome) := by
  have hexpired := updates_modify κ r g (·.expire)
  unfold destroy onGatewayDisposal
  split
  · exact hexpired
  · next m hm =>
    have herased := hexpired.tail (.entry hm (m.erase gw.endpoint.tag))
    simp only
    split
    · exact (herased.tail (.gateways _)).tail (.post _ (isOfChannel_end κ _) outcome)
    · exact herased

theorem updates_makeChannel (κ : RouteCodec) (r : ServerRouter) {c : ClientId}
    {mapOfGws : MapOfWeakGateways} (hm : r.clientIdToMapOfGateways c = some mapOfGws)
    (m : RouteChannelMsg) (input : Decoder) (realPayload : Bytes) (outcome : Int32) :
    Updates κ r (r.makeChannel κ c mapOfGws m input realPayload outcome).router := by
  let gw : GatewayImpl Endpoint :=
    { endpoint := ⟨m.tag, c⟩, events := [.message m.sequence realPayload] }
  let grown : ServerRouter := { r with gateways := r.gateways ++ [gw] }
  have hgrown : Updates κ r grown := .single (.gateways _)
  have hm' : grown.clientIdToMapOfGateways c = some mapOfGws := hm
  have hmade := hgrown.tail (.entry hm' (mapOfGws.insert m.tag r.gateways.length))
  unfold makeChannel
  simp only
  split
  · exact hmade
  · exact hmade.trans (updates_destroy κ _ _ _ outcome)

theorem step_case {κ : RouteCodec} {r r' : ServerRouter} {a : ServerAction}
    (hs : r.step κ a = some r') : StepCase κ r a r' := by
  obtain ⟨reply, hp, rfl⟩ := step_eq_some.mp hs
  cases performs hp with
  | nothing code => exact .updates .refl
  | registers serviceId input => exact .registers serviceId input
  | @sends g gw serviceId payload outcome channel =>
    have hposted := updates_modify κ r g
      (·.advance.post (.msg gw.nextSequence.toNat payload) outcome)
    exact .updates (hposted.tail (.post _ (isOfChannel_msg κ _ _) outcome))
  | completes errorCode channel => exact .updates (updates_modify κ r _ _)
  | subscribes handler channel => exact .updates (updates_modify κ r _ _)
  | @greets g i gw handler channel =>
    have hsubscribed := updates_modify κ r g (·.subscribe handler)
    exact .updates (hsubscribed.trans (updates_raise κ _ _ _))
  | destroys outcome channel => exact .updates (updates_destroy κ r _ _ outcome)
  | connects c outcome => exact .connects c _ outcome
  | passes outcome => exact .updates (updates_raise κ r _ _)
  | opens outcome idle decoded cut known => exact .updates (updates_makeChannel κ r known _ _ _ _)
  | ends outcome idle decoded known =>
    exact .updates ((Relation.ReflTransGen.single (.entry known _)).trans (updates_raise κ _ _ _))
  | @loses c order idle ids known =>
    obtain ⟨m, hm⟩ := Option.isSome_iff_exists.mp known
    have hloses := StepCase.loses (κ := κ) c order idle ids
    simpa [handlePipeDisconnected, hm] using hloses
  | notifies remaining alive => exact .turns _ _ remaining (updates_raise κ _ _ _)
  | skips remaining dead => exact .turns _ _ remaining .refl

end ServerRouter

namespace ClientRouter

inductive Update (κ : RouteCodec) (r : ClientRouter) : ClientRouter → Prop where
  | gateway (g : GatewayId) (f : GatewayImpl Tag → GatewayImpl Tag) : Update κ r (r.modify g f)
  | unregister (endpoint : Tag) : Update κ r (r.unregister endpoint)
  | post {message : Bytes} (channel : isOfChannel κ message = true)
      (connected : r.isConnected = true) (outcome : Int32) :
      Update κ r (r.pipeSend message outcome)

abbrev Updates (κ : RouteCodec) : ClientRouter → ClientRouter → Prop :=
  Relation.ReflTransGen (Update κ)

theorem Updates.keep {κ : RouteCodec} {P : ClientRouter → Prop}
    (hP : ∀ {m m'}, P m → Update κ m m' → P m') {r r' : ClientRouter} (h : Updates κ r r')
    (hr : P r) : P r' := by
  induction h with
  | refl => exact hr
  | tail _ hu ih => exact hP ih hu

inductive StepCase (κ : RouteCodec) (r : ClientRouter) : ClientAction → ClientRouter → Prop where
  | updates {a : ClientAction} {r' : ClientRouter} (done : Updates κ r r') : StepCase κ r a r'
  | makes : StepCase κ r .makeGateway r.makeGateway
  | requests (outcome : Int32) :
      StepCase κ r (.pipeConnected outcome) (r.handlePipeConnected κ outcome).router
  | connects (payload : Bytes) (order : List GatewayId) (idle : r.idle = true)
      (ids : order.Perm r.mapOfGateways.ids) (answer : isConnect κ payload = true) :
      StepCase κ r (.pipeMessage payload order) (r.handleRouteConnect order).router
  | loses (order : List GatewayId) (idle : r.idle = true)
      (ids : order.Perm r.mapOfGateways.ids) :
      StepCase κ r (.pipeDisconnected order) (r.handlePipeDisconnected order).router
  | turns (g : GatewayId) (rest : List GatewayId) {r' : ClientRouter}
      (remaining : r.broadcast.remaining = g :: rest)
      (done : Updates κ { r with broadcast := { r.broadcast with remaining := rest } } r') :
      StepCase κ r .notifyNext r'
  | drops (outcome : Int32) (rest : List GatewayId) {m : ClientRouter} (done : Updates κ r m) :
      StepCase κ r (.dropNext outcome) (m.pin rest)

theorem updates_raise (κ : RouteCodec) (r : ClientRouter) (g : GatewayId) (e : Event) :
    Updates κ r (r.raise g e).router := by
  unfold raise
  split
  · exact .single (.gateway g _)
  · exact .refl

theorem updates_destroy (κ : RouteCodec) (r : ClientRouter) (g : GatewayId)
    (gw : GatewayImpl Tag) (outcome : Int32) : Updates κ r (r.destroy κ g gw outcome) := by
  have herased : Updates κ r ((r.modify g (·.expire)).unregister gw.endpoint) :=
    .tail (.single (.gateway g _)) (.unregister gw.endpoint)
  rcases destroy_cases κ r g gw outcome with ⟨_, _, hc, heq⟩ | ⟨_, heq⟩
  · rw [heq]
    refine (herased.tail (.gateway g _)).tail (.post (isOfChannel_end κ _) ?_ outcome)
    exact hc
  · rw [heq]
    exact herased

theorem step_case {κ : RouteCodec} {r r' : ClientRouter} {a : ClientAction}
    (hs : r.step κ a = some r') : StepCase κ r a r' := by
  obtain ⟨reply, hp, rfl⟩ := step_eq_some.mp hs
  cases performs hp with
  | nothing code => exact .updates .refl
  | makes room => exact .makes
  | @sends g gw serviceId payload outcome channel connected =>
    have hposted : Updates κ r
        (r.modify g (·.advance.post (.msg gw.nextSequence.toNat payload) outcome)) :=
      .single (.gateway g _)
    refine .updates (hposted.tail (.post (isOfChannel_msg κ _ _) ?_ outcome))
    exact connected
  | completes errorCode channel => exact .updates (.single (.gateway _ _))
  | subscribes handler channel => exact .updates (.single (.gateway _ _))
  | greets handler channel =>
    exact .updates ((Relation.ReflTransGen.single (.gateway _ _)).trans (updates_raise κ _ _ _))
  | disowns outcome channel pinned => exact .updates (.single (.gateway _ _))
  | destroys outcome channel unpinned => exact .updates (updates_destroy κ r _ _ outcome)
  | requests outcome idle => exact .requests outcome
  | connects payload order idle ids answer disconnected =>
    have hconnects := StepCase.connects (κ := κ) payload order idle ids answer
    simpa [handleRouteConnect, disconnected] using hconnects
  | passes order => exact .updates (updates_raise κ r _ _)
  | ends order =>
    exact .updates ((Relation.ReflTransGen.single (.unregister _)).trans (updates_raise κ _ _ _))
  | loses order idle ids connected =>
    have hloses := StepCase.loses (κ := κ) order idle ids
    simpa [handlePipeDisconnected, connected] using hloses
  | notifies remaining alive => exact .turns _ _ remaining (updates_raise κ _ _ _)
  | skips remaining dead => exact .turns _ _ remaining .refl
  | drops outcome done pinned => exact .drops outcome _ (updates_destroy κ r _ _ outcome)
  | unpins outcome done pinned => exact .drops outcome _ .refl

end ClientRouter

end Ocvsmd.Ipc
