import Ocvsmd.ClientChannel
import Ocvsmd.ServerChannel

/-!
One server router and its client routers. Each client has a pipe, that is a queue each
way, whose sends succeed and which stays up.
-/

set_option autoImplicit false

namespace Ocvsmd.Ipc

open FifoSession (Session messages payloads messages_mono payloads_ne_nil)

def ClientRouter.withPipe (r : ClientRouter) (queue : List Bytes) : ClientRouter :=
  { r with clientPipe := queue }

def ServerRouter.withPipe (r : ServerRouter) (c : ClientId) (queue : List Bytes) :
    ServerRouter :=
  { r with serverPipe := Function.update r.serverPipe c queue }

@[simp] theorem ClientRouter.peer_withPipe (r : ClientRouter) (queue : List Bytes) (t : Tag) :
    (r.withPipe queue).peer t = r.peer t := rfl

@[simp] theorem ClientRouter.up_withPipe (κ : RouteCodec) (r : ClientRouter)
    (queue : List Bytes) (t : Tag) : (r.withPipe queue).up κ t = wireItems κ t queue := rfl

@[simp] theorem ServerRouter.peer_withPipe (r : ServerRouter) (c : ClientId)
    (queue : List Bytes) (ep : Endpoint) : (r.withPipe c queue).peer ep = r.peer ep := rfl

theorem ServerRouter.serverPipe_withPipe (r : ServerRouter) (c : ClientId)
    (queue : List Bytes) :
    (r.withPipe c queue).serverPipe = Function.update r.serverPipe c queue := rfl

@[simp] theorem ServerRouter.down_withPipe (κ : RouteCodec) (r : ServerRouter) (c : ClientId)
    (queue : List Bytes) (ep : Endpoint) :
    (r.withPipe c queue).down κ ep =
      if ep.clientId = c then wireItems κ ep.tag queue else r.down κ ep := by
  by_cases hc : ep.clientId = c
  · simp [down, serverPipe_withPipe, hc]
  · simp [down, serverPipe_withPipe, hc]

theorem ClientRouter.Steady.withPipe {κ : RouteCodec} {r : ClientRouter} (h : r.Steady κ)
    {message : Bytes} {rest : List Bytes} (hq : r.clientPipe = message :: rest) :
    (r.withPipe rest).Steady κ where
  wf := h.wf.congr rfl (fun _ _ hl => hl) rfl rfl
  counted := h.counted
  connected := h.connected
  greeting := h.greeting
  wires := fun b hb => h.wires b (by rw [hq]; exact List.mem_cons_of_mem _ hb)

theorem ServerRouter.Steady.withPipe {κ : RouteCodec} {r : ServerRouter} (h : r.Steady κ)
    {c : ClientId} {message : Bytes} {rest : List Bytes}
    (hq : r.serverPipe c = message :: rest) : (r.withPipe c rest).Steady κ where
  wf := h.wf.congr rfl fun _ _ hl => hl
  distinct := h.distinct
  counted := h.counted
  idle := h.idle
  wires := by
    intro c' b hb
    rw [serverPipe_withPipe] at hb
    by_cases hc : c' = c
    · subst hc
      rw [Function.update_self] at hb
      exact h.wires c' b (by rw [hq]; exact List.mem_cons_of_mem _ hb)
    · rw [Function.update_of_ne hc] at hb
      exact h.wires c' b hb

structure Network where
  server : ServerRouter := {}
  client : ClientId → ClientRouter := fun _ => {}

inductive NetworkAction where
  | client : ClientId → ClientAction → NetworkAction
  | server : ServerAction → NetworkAction
  | toServer : ClientId → NetworkAction
  | toClient : ClientId → List GatewayId → NetworkAction

namespace Network

def setClient (n : Network) (c : ClientId) (r : ClientRouter) : Network :=
  { n with client := Function.update n.client c r }

def toServer (κ : RouteCodec) (n : Network) (c : ClientId) : Option Network :=
  match (n.client c).clientPipe with
  | [] => none
  | message :: rest =>
    (n.server.step κ (.pipeMessage c message 0)).map fun s =>
      { n with server := s }.setClient c ((n.client c).withPipe rest)

def toClient (κ : RouteCodec) (n : Network) (c : ClientId) (order : List GatewayId) :
    Option Network :=
  match n.server.serverPipe c with
  | [] => none
  | message :: rest =>
    ((n.client c).step κ (.pipeMessage message order)).map fun r =>
      { n with server := n.server.withPipe c rest }.setClient c r

def step (κ : RouteCodec) (n : Network) : NetworkAction → Option Network
  | .client c a =>
    if (n.client c).ownAction a then ((n.client c).step κ a).map (n.setClient c) else none
  | .server a =>
    if n.server.ownAction a then (n.server.step κ a).map fun s => { n with server := s }
    else none
  | .toServer c => n.toServer κ c
  | .toClient c order => n.toClient κ c order

def Reachable (κ : RouteCodec) (n : Network) : Prop := Runs.Reachable (step κ) {} n

/-- The session that the channel of a tag is. -/
def view (κ : RouteCodec) (n : Network) (c : ClientId) (t : Tag) : Session Bytes Int32 :=
  ⟨(n.client c).peer t, n.server.peer ⟨t, c⟩, (n.client c).up κ t, n.server.down κ ⟨t, c⟩⟩

structure Inv (κ : RouteCodec) (n : Network) : Prop where
  server : n.server.Steady κ
  client : ∀ c, (n.client c).Steady κ
  session : ∀ c t, (n.view κ c t).Inv

theorem inv_init (κ : RouteCodec) : Inv κ {} where
  server := ServerRouter.steady_init κ
  client := fun _ => ClientRouter.steady_init κ
  session := fun _ _ => Session.inv_init

/-- Every step of the network is seen by every channel as steps of its session. -/
def Moves (κ : RouteCodec) (n n' : Network) : Prop :=
  ∀ c t, Relation.ReflTransGen Session.Step (n.view κ c t) (n'.view κ c t)

theorem Inv.moved {κ : RouteCodec} {n n' : Network} (h : Inv κ n) (hs : n'.server.Steady κ)
    (hc : ∀ c, (n'.client c).Steady κ) (hm : Moves κ n n') : Inv κ n' where
  server := hs
  client := hc
  session := fun c t => (h.session c t).steps (hm c t)

theorem steady_setClient {κ : RouteCodec} {n : Network} {r : ClientRouter} {c : ClientId}
    (h : ∀ c, (n.client c).Steady κ) (hr : r.Steady κ) (c' : ClientId) :
    ((n.setClient c r).client c').Steady κ := by
  by_cases hc : c' = c
  · subst hc
    simpa [setClient] using hr
  · simpa [setClient, hc] using h c'

theorem Inv.client_step {κ : RouteCodec} {n : Network} {c : ClientId} {a : ClientAction}
    {r : ClientRouter} (h : Inv κ n) (ho : (n.client c).ownAction a = true)
    (hs : (n.client c).step κ a = some r) :
    Inv κ (n.setClient c r) ∧ Moves κ n (n.setClient c r) := by
  obtain ⟨hr, hm⟩ := (h.client c).step ho hs
  have hmoves : Moves κ n (n.setClient c r) := by
    intro c' t
    by_cases hc : c' = c
    · subst hc
      simpa [view, setClient] using hm t (n.server.peer ⟨t, c'⟩) (n.server.down κ ⟨t, c'⟩)
    · simpa [view, setClient, hc] using .refl
  exact ⟨h.moved h.server (steady_setClient h.client hr) hmoves, hmoves⟩

theorem Inv.server_step {κ : RouteCodec} {n : Network} {a : ServerAction} {s : ServerRouter}
    (h : Inv κ n) (ho : n.server.ownAction a = true) (hs : n.server.step κ a = some s) :
    Inv κ { n with server := s } ∧ Moves κ n { n with server := s } := by
  obtain ⟨hr, hm⟩ := h.server.step ho hs
  have hmoves : Moves κ n { n with server := s } := fun c t =>
    hm ⟨t, c⟩ ((n.client c).peer t) ((n.client c).up κ t)
  exact ⟨h.moved hr h.client hmoves, hmoves⟩

/-- A message 0 that finds no gateway registered is the first of its tag. -/
theorem Inv.unmade {κ : RouteCodec} {n : Network} (h : Inv κ n) {c : ClientId} {t : Tag}
    {message payload : Bytes} {rest : List Bytes}
    (hq : (n.client c).clientPipe = message :: rest)
    (hw : wireItem κ t message = some (.msg 0 payload)) :
    gatewayAt n.server.gateways ⟨t, c⟩ = none := by
  have hinv := h.session c t
  have hup : (n.view κ c t).up = .msg 0 payload :: wireItems κ t rest := by
    simp [view, ClientRouter.up, hq, wireItems_cons, hw]
  have hlink := hinv.up
  rw [hup] at hlink
  have hgot := (hlink.first hinv.callerSent).1
  have hmade : (n.view κ c t).callee.made = 0 := hinv.calleeMade.resolve_right fun hm => hm.2 hgot
  cases hat : gatewayAt n.server.gateways ⟨t, c⟩ with
  | none => rfl
  | some gw => simp [view, ServerRouter.peer, peerOf, hat] at hmade

theorem Inv.toServer {κ : RouteCodec} {n : Network} {c : ClientId} {message : Bytes}
    {rest : List Bytes} (h : Inv κ n) (hq : (n.client c).clientPipe = message :: rest) :
    ∃ n', n.toServer κ c = some n' ∧ Inv κ n' ∧ Moves κ n n' := by
  have hwire : Wire κ message := (h.client c).wires message (by simp [hq])
  obtain ⟨reply, hp, hs, hm⟩ := h.server.pipeMessage (c := c) hwire
    fun t payload hw _ => h.unmade hq hw
  have hstep : n.server.step κ (.pipeMessage c message 0) = some reply.router := by
    simp [ServerRouter.step, ServerRouter.perform, h.server.idle, hp]
  refine ⟨{ n with server := reply.router }.setClient c ((n.client c).withPipe rest),
    by simp [Network.toServer, hq, hstep], ?_⟩
  have hmoves : Moves κ n ({ n with server := reply.router }.setClient c
      ((n.client c).withPipe rest)) := by
    intro c' t
    have hv := hm ⟨t, c'⟩ ((n.client c').peer t)
    by_cases hc : c' = c
    · subst hc
      have hup : (n.client c').up κ t =
          ServerRouter.taken κ c' message ⟨t, c'⟩ ++ wireItems κ t rest := by
        simp [ClientRouter.up, hq, wireItems_cons, ServerRouter.taken]
      have hv := hv (wireItems κ t rest)
      rw [← hup] at hv
      simpa [view, setClient] using hv
    · have hnone : ServerRouter.taken κ c message ⟨t, c'⟩ = [] := if_neg hc
      rw [hnone] at hv
      simpa [view, setClient, hc] using hv ((n.client c').up κ t)
  exact ⟨h.moved hs (steady_setClient h.client ((h.client c).withPipe hq)) hmoves, hmoves⟩

theorem Inv.toClient {κ : RouteCodec} {n : Network} {c : ClientId} {message : Bytes}
    {rest : List Bytes} {order : List GatewayId} (h : Inv κ n)
    (hq : n.server.serverPipe c = message :: rest) (hi : (n.client c).idle = true)
    (ho : order.Perm (n.client c).mapOfGateways.ids) :
    ∃ n', n.toClient κ c order = some n' ∧ Inv κ n' ∧ Moves κ n n' := by
  have hwire : Wire κ message := h.server.wires c message (by simp [hq])
  obtain ⟨reply, hp, hr, hm⟩ := (h.client c).pipeMessage hi hwire order
  have hstep : (n.client c).step κ (.pipeMessage message order) = some reply.router := by
    simp [ClientRouter.step, ClientRouter.perform, hi, ho, hp]
  refine ⟨{ n with server := n.server.withPipe c rest }.setClient c reply.router,
    by simp [Network.toClient, hq, hstep], ?_⟩
  have hmoves : Moves κ n ({ n with server := n.server.withPipe c rest }.setClient c
      reply.router) := by
    intro c' t
    by_cases hc : c' = c
    · subst hc
      have hdown : n.server.down κ ⟨t, c'⟩ = wireItems κ t [message] ++ wireItems κ t rest := by
        simp [ServerRouter.down, hq, wireItems_cons]
      have hv := hm t (n.server.peer ⟨t, c'⟩) (wireItems κ t rest)
      rw [← hdown] at hv
      simpa [view, setClient] using hv
    · simpa [view, setClient, hc] using .refl
  exact ⟨h.moved (h.server.withPipe hq) (steady_setClient h.client hr) hmoves, hmoves⟩

theorem Inv.step {κ : RouteCodec} {n n' : Network} {a : NetworkAction} (h : Inv κ n)
    (hs : n.step κ a = some n') : Inv κ n' ∧ Moves κ n n' := by
  cases a with
  | client c a =>
    simp only [Network.step] at hs
    split at hs
    · next ho =>
      obtain ⟨r, hr, rfl⟩ := Option.map_eq_some_iff.mp hs
      exact h.client_step ho hr
    · cases hs
  | server a =>
    simp only [Network.step] at hs
    split at hs
    · next ho =>
      obtain ⟨s, hr, rfl⟩ := Option.map_eq_some_iff.mp hs
      exact h.server_step ho hr
    · cases hs
  | toServer c =>
    cases hq : (n.client c).clientPipe with
    | nil => simp [Network.step, Network.toServer, hq] at hs
    | cons message rest =>
      obtain ⟨m, hm, hinv⟩ := h.toServer hq
      rw [Network.step, hm] at hs
      cases hs
      exact hinv
  | toClient c order =>
    cases hq : n.server.serverPipe c with
    | nil => simp [Network.step, Network.toClient, hq] at hs
    | cons message rest =>
      by_cases hready : (n.client c).idle = true ∧ order.Perm (n.client c).mapOfGateways.ids
      · obtain ⟨m, hm, hinv⟩ := h.toClient hq hready.1 hready.2
        rw [Network.step, hm] at hs
        cases hs
        exact hinv
      · have hnone : (n.client c).step κ (.pipeMessage message order) = none := by
          simp [ClientRouter.step, ClientRouter.perform, hready]
        simp [Network.step, Network.toClient, hq, hnone] at hs

theorem Reachable.inv {κ : RouteCodec} {n : Network} (h : Reachable κ n) : Inv κ n :=
  Runs.Reachable.invariant h (inv_init κ) fun hi hs => (hi.step hs).1

/-- Nothing on a pipe is ever refused: a delivery that is due can happen. -/
theorem Reachable.delivers {κ : RouteCodec} {n : Network} (h : Reachable κ n) (c : ClientId) :
    ((n.client c).clientPipe ≠ [] → (n.step κ (.toServer c)).isSome = true) ∧
    (n.server.serverPipe c ≠ [] → (n.client c).idle = true →
      (n.step κ (.toClient c (n.client c).mapOfGateways.ids)).isSome = true) := by
  constructor
  · intro hne
    obtain ⟨message, rest, hq⟩ := List.exists_cons_of_ne_nil hne
    obtain ⟨n', hn', _⟩ := h.inv.toServer hq
    simp [step, hn']
  · intro hne hi
    obtain ⟨message, rest, hq⟩ := List.exists_cons_of_ne_nil hne
    obtain ⟨n', hn', _⟩ := h.inv.toClient hq hi (List.Perm.refl _)
    simp [step, hn']

theorem view_caller {κ : RouteCodec} {n : Network} (h : Inv κ n) {c : ClientId} {g : GatewayId}
    {gc : GatewayImpl Tag} (hg : (n.client c).gateways[g]? = some gc) :
    (n.view κ c gc.endpoint).caller =
      ⟨1, ((n.client c).lookup gc.endpoint).isSome, gc.sent, gc.got⟩ :=
  peerOf_of_gateway (h.client c).wf.distinct hg _

theorem view_callee {κ : RouteCodec} {n : Network} (h : Inv κ n) {g : GatewayId}
    {gs : GatewayImpl Endpoint} (hg : n.server.gateways[g]? = some gs) :
    (n.view κ gs.endpoint.clientId gs.endpoint.tag).callee =
      ⟨1, (n.server.lookup gs.endpoint).isSome, gs.sent, gs.got⟩ :=
  peerOf_of_gateway h.server.distinct hg _

theorem Inv.caller_of_callee {κ : RouteCodec} {n : Network} (h : Inv κ n) {g : GatewayId}
    {gs : GatewayImpl Endpoint} (hg : n.server.gateways[g]? = some gs) :
    ∃ (g' : GatewayId) (gc : GatewayImpl Tag),
      (n.client gs.endpoint.clientId).gateways[g']? = some gc ∧
      gc.endpoint = gs.endpoint.tag := by
  have hinv := h.session gs.endpoint.clientId gs.endpoint.tag
  cases hat : gatewayAt (n.client gs.endpoint.clientId).gateways gs.endpoint.tag with
  | some gc =>
    obtain ⟨he, g', hg'⟩ := gatewayAt_some hat
    exact ⟨g', gc, hg', he⟩
  | none =>
    have hsilent : (n.view κ gs.endpoint.clientId gs.endpoint.tag).caller.sent = [] := by
      simp [view, ClientRouter.peer, peerOf, hat, FifoSession.Peer.none]
    have hnone := hinv.calleeNew_of_silent hsilent
    rw [view_callee h hg] at hnone
    cases hnone

/-- Each channel is delivered as if it were alone: at most one server gateway is made for
it, and either side is handed a prefix of what its own other side sent. -/
structure Delivered (n : Network) : Prop where
  once : Distinct n.server.gateways
  ordered : ∀ (g : GatewayId) (gs : GatewayImpl Endpoint), n.server.gateways[g]? = some gs →
    ∃ (g' : GatewayId) (gc : GatewayImpl Tag),
      (n.client gs.endpoint.clientId).gateways[g']? = some gc ∧
      gc.endpoint = gs.endpoint.tag ∧
      messages gs.got <+: (payloads gc.sent).zipIdx ∧
      messages gc.got <+: (payloads gs.sent).zipIdx
  unheard : ∀ (c : ClientId) (g : GatewayId) (gc : GatewayImpl Tag),
    (n.client c).gateways[g]? = some gc →
    gatewayAt n.server.gateways ⟨gc.endpoint, c⟩ = none → gc.got = []

theorem channel_delivery {κ : RouteCodec} {n : Network} (h : Reachable κ n) :
    n.Delivered := by
  have hi := h.inv
  refine ⟨hi.server.distinct, fun g gs hg => ?_, fun c g gc hg hnone => ?_⟩
  · obtain ⟨g', gc, hg', he⟩ := hi.caller_of_callee hg
    have hinv := hi.session gs.endpoint.clientId gs.endpoint.tag
    have hcaller := view_caller hi hg'
    rw [he] at hcaller
    have hup := messages_mono hinv.callee_heard
    have hdown := messages_mono hinv.caller_heard
    rw [hinv.callerSent.messages, hcaller, view_callee hi hg] at hup
    rw [hinv.calleeSent.messages, hcaller, view_callee hi hg] at hdown
    exact ⟨g', gc, hg', he, hup, hdown⟩
  · have hprefix := (hi.session c gc.endpoint).caller_heard
    have hcallee : (n.view κ c gc.endpoint).callee.sent = [] := by
      simp [view, ServerRouter.peer, peerOf, hnone, FifoSession.Peer.none]
    rw [view_caller hi hg, hcallee] at hprefix
    exact List.prefix_nil.mp hprefix

def greeted : List NetworkAction :=
  [.client 0 (.pipeConnected 0), .toServer 0, .toClient 0 [],
   .server (.registerChannelFactory 7 fun _ => true),
   .client 0 .makeGateway, .client 0 (.send 0 7 [1, 2] 0), .toServer 0,
   .server (.send 0 7 [3] 0), .toClient 0 [0]]

def sample : Network := (Runs.run (step cyphalCodec) {} greeted).getD {}

theorem sample_reachable : Reachable cyphalCodec sample :=
  Runs.Reachable.getD (by decide +kernel)

theorem channel_delivery_sample :
    (sample.server.gateways.map fun gs => messages gs.got) = [[([1, 2], 0)]] ∧
    ((sample.client 0).gateways.map fun gc => messages gc.got) = [[([3], 0)]] ∧
    sample.Delivered :=
  ⟨by decide +kernel, by decide +kernel, channel_delivery sample_reachable⟩

theorem Inv.live_caller {κ : RouteCodec} {n : Network} (h : Inv κ n) {c : ClientId} {t : Tag}
    (hlive : (n.view κ c t).caller.live = true) :
    ∃ (g : GatewayId) (gc : GatewayImpl Tag), (n.client c).lookup t = some g ∧
      (n.client c).gateways[g]? = some gc ∧ gc.endpoint = t ∧ gc.alive = true := by
  have hsome : ((n.client c).lookup t).isSome = true := by
    cases hl : (n.client c).lookup t with
    | some g => rfl
    | none =>
      simp only [view, ClientRouter.peer, peerOf, hl] at hlive
      split at hlive <;> simp [FifoSession.Peer.none] at hlive
  obtain ⟨g, hl⟩ := Option.isSome_iff_exists.mp hsome
  obtain ⟨gc, hg, he, ha⟩ := (h.client c).wf.registry _ _ hl
  exact ⟨g, gc, hl, hg, he, ha⟩

theorem Inv.live_callee {κ : RouteCodec} {n : Network} (h : Inv κ n) {c : ClientId} {t : Tag}
    (hreg : n.server.isRegisteredGateway ⟨t, c⟩ = true) :
    (n.view κ c t).callee.live = true := by
  obtain ⟨g, hl⟩ := Option.isSome_iff_exists.mp hreg
  obtain ⟨gs, hg, he, _⟩ := h.server.wf.registry _ _ hl
  have hcallee := view_callee h hg
  rw [he] at hcallee
  rw [hcallee, hl]
  rfl

/-- Once a client's pipe is empty, what the server has registered for it belongs to
channels that the client has open. -/
theorem Inv.open_of_registered {κ : RouteCodec} {n : Network} (h : Inv κ n) {c : ClientId}
    (hup : (n.client c).clientPipe = []) {t : Tag}
    (hreg : n.server.isRegisteredGateway ⟨t, c⟩ = true) :
    ∃ (g : GatewayId) (gc : GatewayImpl Tag), (n.client c).lookup t = some g ∧
      (n.client c).gateways[g]? = some gc ∧ gc.endpoint = t ∧ gc.alive = true ∧
      payloads gc.sent ≠ [] := by
  have hinv := h.session c t
  have hempty : (n.view κ c t).up = [] := by simp [view, ClientRouter.up, hup, wireItems]
  obtain ⟨hlive, hsent⟩ := hinv.no_half_open hempty (h.live_callee hreg)
  have hended := (hinv.callerLive hlive).1
  obtain ⟨g, gc, hl, hg, rfl, ha⟩ := h.live_caller hlive
  rw [view_caller h hg] at hsent hended
  exact ⟨g, gc, hl, hg, rfl, ha, payloads_ne_nil hsent hended⟩

/-- Nothing is left on the server of a channel that is gone. -/
theorem no_half_open_channel {κ : RouteCodec} {n : Network} (h : Reachable κ n)
    {c : ClientId} (hup : (n.client c).clientPipe = []) :
    (∀ t, n.server.isRegisteredGateway ⟨t, c⟩ = true →
      ∃ (g : GatewayId) (gc : GatewayImpl Tag), (n.client c).lookup t = some g ∧
        (n.client c).gateways[g]? = some gc ∧ gc.endpoint = t ∧ gc.alive = true ∧
        payloads gc.sent ≠ []) ∧
    (∀ (g : GatewayId) (gc : GatewayImpl Tag), (n.client c).gateways[g]? = some gc →
      gc.alive = false ∨ gc.owned = false ∧ (n.client c).idle = true →
      n.server.isRegisteredGateway ⟨gc.endpoint, c⟩ = false) := by
  have hi := h.inv
  refine ⟨fun t hreg => hi.open_of_registered hup hreg, fun g gc hg hgone => ?_⟩
  by_contra hreg
  obtain ⟨g', gc', _, hg', he, ha, _⟩ := hi.open_of_registered hup (by simpa using hreg)
  have hidx := (hi.client c).wf.distinct.index_eq hg' hg he
  subst hidx
  rw [hg] at hg'
  cases hg'
  rcases hgone with hdead | ⟨hdropped, hidle⟩
  · rw [hdead] at ha
    cases ha
  · have howned := (hi.client c).wf.idle_owned hidle _ _ hg ha
    rw [hdropped] at howned
    cases howned

theorem no_half_open_channel_sample :
    (sample.client 0).clientPipe = [] ∧ sample.server.isRegisteredGateway ⟨0, 0⟩ = true ∧
    ∃ (g : GatewayId) (gc : GatewayImpl Tag), (sample.client 0).lookup 0 = some g ∧
      (sample.client 0).gateways[g]? = some gc ∧ gc.endpoint = 0 ∧ gc.alive = true ∧
      payloads gc.sent ≠ [] :=
  ⟨by decide +kernel, by decide +kernel,
    (no_half_open_channel sample_reachable (c := 0) (by decide +kernel)).1 0
      (by decide +kernel)⟩

end Network

end Ocvsmd.Ipc
