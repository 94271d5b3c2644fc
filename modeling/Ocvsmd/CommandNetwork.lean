import Ocvsmd.DaemonChannels
import Ocvsmd.ExecCmdClient
import Ocvsmd.Network

/-!
The whole program for the exec-command service: the daemon, its clients, and the pipe of
each client, which is a queue each way whose sends succeed and which stays up. A step of
the whole is a step of one side, and a few steps of the network.
-/

set_option autoImplicit false

namespace Ocvsmd.Svc

open Ipc
open FifoSession (Session payloads)

structure System where
  daemon : Daemon
  sdk : ClientId → Sdk := fun _ => {}

inductive SystemAction where
  | sdk : ClientId → SdkAction → SystemAction
  | toServer : ClientId → Presentation → SystemAction
  | toClient : ClientId → List GatewayId → SystemAction
  | resolve : Nat → NodeId → PromiseResult → SystemAction

/-- What a client does by itself, while its pipe takes all it sends. -/
def Sdk.ownAction (s : Sdk) : SdkAction → Bool
  | .make _ => true
  | .submit _ outcome => outcome == 0
  | .destroy _ outcome => outcome == 0
  | .router a outcome => s.router.ownAction a && outcome == 0

def Sdk.fewSends (s : Sdk) : Bool := s.router.gateways.all fun gw => gw.posts.length + 1 < 2^64

def Sdk.withPipe (s : Sdk) (queue : List Bytes) : Sdk :=
  { s with router := s.router.withPipe queue }

def Daemon.withPipe (d : Daemon) (c : ClientId) (queue : List Bytes) : Daemon :=
  { d with router := d.router.withPipe c queue }

namespace System

def init (spec : ExecCmdSpec) : System where
  daemon := Daemon.init spec

def setSdk (s : System) (c : ClientId) (k : Sdk) : System :=
  { s with sdk := Function.update s.sdk c k }

/-- The pipe hands the oldest message over. -/
def toServer (κ : RouteCodec) (spec : ExecCmdSpec) (s : System) (c : ClientId)
    (p : Presentation) : Option System :=
  match (s.sdk c).router.clientPipe with
  | [] => none
  | message :: rest =>
    (s.daemon.step κ spec (.router (.pipeMessage c message 0) p 0)).map fun d =>
      { s with daemon := d }.setSdk c ((s.sdk c).withPipe rest)

def toClient (κ : RouteCodec) (spec : ExecCmdSpec) (s : System) (c : ClientId)
    (order : List GatewayId) : Option System :=
  match s.daemon.router.serverPipe c with
  | [] => none
  | message :: rest =>
    ((s.sdk c).step κ spec (.router (.pipeMessage message order) 0)).map fun k =>
      { s with daemon := s.daemon.withPipe c rest }.setSdk c k

def step (κ : RouteCodec) (spec : ExecCmdSpec) (s : System) : SystemAction → Option System
  | .sdk c a =>
    if (s.sdk c).ownAction a ∧ (s.sdk c).fewSends then
      ((s.sdk c).step κ spec a).map (s.setSdk c)
    else none
  | .toServer c p => s.toServer κ spec c p
  | .toClient c order => s.toClient κ spec c order
  | .resolve id nodeId result =>
    (s.daemon.step κ spec (.resolve id nodeId result 0 0)).map fun d => { s with daemon := d }

def Reachable (κ : RouteCodec) (spec : ExecCmdSpec) (s : System) : Prop :=
  Runs.Reachable (step κ spec) (init spec) s

def network (s : System) : Network := ⟨s.daemon.router, fun c => (s.sdk c).router⟩

theorem network_setSdk (s : System) (c : ClientId) (k : Sdk) :
    (s.setSdk c k).network = s.network.setClient c k.router := by
  simp only [network, setSdk, Network.setClient, Network.mk.injEq, true_and]
  funext c'
  by_cases hc : c' = c
  · subst hc; simp
  · simp [hc]

end System

theorem fewPosts_modify {E : Type} {gs : List (GatewayImpl E)} (i g : GatewayId)
    {f : GatewayImpl E → GatewayImpl E} (hf : ∀ gw, (f gw).posts = gw.posts) :
    fewPosts (gs.modify i f) g = fewPosts gs g := by
  by_cases hi : i = g
  · subst hi
    cases hg : gs[i]? <;> simp [fewPosts, hg, hf]
  · simp [fewPosts, hi]

theorem fewPosts_greeted {κ : RouteCodec} {r : ClientRouter} {a : ClientAction}
    {reply : Reply ClientRouter} (hp : r.perform κ a = some reply) {g : GatewayId}
    (hc : reply.call = some (.event g .connected)) (i : GatewayId) :
    fewPosts reply.router.gateways i = fewPosts r.gateways i := by
  have hraise : ∀ m : ClientRouter,
      fewPosts (m.raise g .connected).router.gateways i = fewPosts m.gateways i := by
    intro m
    unfold ClientRouter.raise
    split
    · exact fewPosts_modify (f := (·.hear .connected)) g i fun _ => rfl
    · rfl
  obtain ⟨m, hr, hm⟩ := ClientRouter.greeted_cases hp hc
  rw [hr, hraise]
  rcases hm with ⟨j, handler, endpoint, _, rfl, _, _⟩ | ⟨rest, _, _, _, _, rfl⟩
  · exact fewPosts_modify (f := (·.subscribe handler)) j i fun _ => rfl
  · rfl

namespace Sdk

theorem fewPosts_of_fewSends {s : Sdk} (h : s.fewSends = true) (g : GatewayId) :
    fewPosts s.router.gateways g = true := by
  cases hg : s.router.gateways[g]? with
  | none => simp [fewPosts, hg]
  | some gw =>
    have hall := List.all_eq_true.mp h gw (List.mem_of_getElem? hg)
    simp only [fewPosts, hg, Option.all_some]
    exact hall

theorem Inv.dispatch_steps {κ : RouteCodec} {spec : ExecCmdSpec} {s s' : Sdk} (h : s.Inv)
    {b : ClientAction} {reply : Reply ClientRouter} (hp : s.router.perform κ b = some reply)
    {clients : List ExecCmdClient} {outcome : Int32}
    (hs : Sdk.dispatch κ spec clients outcome reply = some s') :
    s.router.step κ b = some reply.router ∧ (s'.router = reply.router ∨ ∃ g payload,
      reply.router.step κ (.send g spec.serviceId payload outcome) = some s'.router) := by
  refine ⟨ClientRouter.step_eq_some.mpr ⟨reply, hp, rfl⟩, ?_⟩
  rcases (dispatch_router hs fun g => h.orderly.greeted h.wf hp).2 with hr | ⟨g, payload, -, hsend⟩
  · exact .inl hr
  · exact .inr ⟨g, payload, hsend⟩

/-- A step of the client is one of its router, and perhaps the request on top of that. -/
theorem Inv.router_step {κ : RouteCodec} {spec : ExecCmdSpec} {s s' : Sdk} {a : SdkAction}
    (h : s.Inv) (ha : s.ownAction a = true) (hf : s.fewSends = true)
    (hs : s.step κ spec a = some s') :
    ∃ b r, s.router.ownAction b = true ∧ s.router.step κ b = some r ∧
      (s'.router = r ∨ ∃ g payload, r.ownAction (.send g spec.serviceId payload 0) = true ∧
        r.step κ (.send g spec.serviceId payload 0) = some s'.router) := by
  have hdispatch : ∀ {b reply clients}, s.router.ownAction b = true →
      s.router.perform κ b = some reply → Sdk.dispatch κ spec clients 0 reply = some s' →
      ∃ b r, s.router.ownAction b = true ∧ s.router.step κ b = some r ∧
        (s'.router = r ∨ ∃ g payload, r.ownAction (.send g spec.serviceId payload 0) = true ∧
          r.step κ (.send g spec.serviceId payload 0) = some s'.router) := by
    intro b reply clients hb hp hd
    refine ⟨b, reply.router, hb, ClientRouter.step_eq_some.mpr ⟨reply, hp, rfl⟩, ?_⟩
    rcases (dispatch_router hd fun g => h.orderly.greeted h.wf hp).2 with hr | ⟨g, payload, hc, hsend⟩
    · exact Or.inl hr
    · refine Or.inr ⟨g, payload, ?_, hsend⟩
      simp [ClientRouter.ownAction, fewPosts_greeted hp hc, fewPosts_of_fewSends hf]
  cases a with
  | make request =>
    obtain ⟨reply, hp, rfl⟩ := Option.map_eq_some_iff.mp hs
    exact ⟨.makeGateway, reply.router, rfl, ClientRouter.step_eq_some.mpr ⟨reply, hp, rfl⟩,
      Or.inl rfl⟩
  | submit id outcome =>
    obtain rfl : outcome = 0 := by simpa [ownAction] using ha
    obtain ⟨x, _, hs⟩ := Option.bind_eq_some_iff.mp hs
    obtain ⟨reply, hp, hs⟩ := Option.bind_eq_some_iff.mp hs
    exact hdispatch rfl hp hs
  | destroy id outcome =>
    obtain rfl : outcome = 0 := by simpa [ownAction] using ha
    obtain ⟨x, _, hs⟩ := Option.bind_eq_some_iff.mp hs
    obtain ⟨reply, hp, rfl⟩ := Option.map_eq_some_iff.mp hs
    exact ⟨.release x.channel 0, reply.router, rfl, ClientRouter.step_eq_some.mpr ⟨reply, hp, rfl⟩,
      Or.inl rfl⟩
  | router b outcome =>
    obtain ⟨hb, rfl⟩ : s.router.ownAction b = true ∧ outcome = 0 := by simpa [ownAction] using ha
    simp only [Sdk.step] at hs
    split at hs
    · obtain ⟨reply, hp, hs⟩ := Option.bind_eq_some_iff.mp hs
      exact hdispatch hb hp hs
    · cases hs

theorem Inv.router_message {κ : RouteCodec} {spec : ExecCmdSpec} {s s' : Sdk} (h : s.Inv)
    {message : Bytes} {order : List GatewayId}
    (hs : s.step κ spec (.router (.pipeMessage message order) 0) = some s') :
    s.router.step κ (.pipeMessage message order) = some s'.router := by
  simp only [Sdk.step] at hs
  split at hs
  · obtain ⟨reply, hp, hs⟩ := Option.bind_eq_some_iff.mp hs
    rcases (dispatch_router hs fun g => h.orderly.greeted h.wf hp).2 with hr | ⟨g, payload, hc, _⟩
    · exact ClientRouter.step_eq_some.mpr ⟨reply, hp, hr.symm⟩
    · obtain ⟨m, _, ⟨i, handler, endpoint, ha, _⟩ | ⟨rest, ha, _⟩⟩ :=
        ClientRouter.greeted_cases hp hc
      · cases ha
      · cases ha
  · cases hs

end Sdk

namespace Daemon

/-- What a state machine asks of its channel, responses apart, is its router's own to do. -/
def isPlain (a : ServerAction) : Prop := ∀ r : ServerRouter, r.ownAction a = true

theorem plain_goodbye (fsm : Fsm) : ∀ a ∈ fsm.goodbye 0, isPlain a := by
  intro a ha r
  cases hr : fsm.released with
  | none => simp [Fsm.goodbye, hr] at ha
  | some err =>
    simp only [Fsm.goodbye, hr, List.mem_cons, List.not_mem_nil, or_false] at ha
    rcases ha with rfl | rfl <;> rfl

theorem plain_dispatch {spec : ExecCmdSpec} {p : Presentation} {s : ExecCmdService}
    {call : Option Call} {x : ExecCmdService × List ServerAction}
    (h : dispatch spec p 0 s call = some x) : ∀ a ∈ x.2, isPlain a := by
  intro a ha
  rcases dispatch_actions h with hx | ⟨fsm, hx | ⟨g, hx⟩⟩
  · rw [hx] at ha
    cases ha
  · rw [hx] at ha
    exact plain_goodbye fsm a ha
  · rw [hx] at ha
    rcases List.mem_cons.mp ha with rfl | ha
    · exact fun _ => rfl
    · exact plain_goodbye fsm a ha

theorem nodup_length_le {l : List NodeId} (h : l.Nodup) : l.length ≤ 65536 := by
  have hnat : (l.map UInt16.toNat).Nodup :=
    h.map_on fun a _ b _ hab => UInt16.toNat_inj.mp hab
  have hsub : l.map UInt16.toNat ⊆ List.range 65536 := by
    intro n hn
    obtain ⟨a, _, rfl⟩ := List.mem_map.mp hn
    exact List.mem_range.mpr a.toNat_lt
  have hle := (List.subperm_of_subset hnat hsub).length_le
  simpa using hle

theorem Inv.fewPosts {spec : ExecCmdSpec} {d : Daemon} (h : Inv spec d) {id : Nat} {fsm : Fsm}
    (hid : d.service.idToFsm id = some fsm) :
    fewPosts d.router.gateways fsm.channel = true := by
  obtain ⟨hf, hr⟩ := ExecCmdService.idToFsm_eq_some.mp hid
  obtain ⟨gw, hg, _, htold⟩ := h.gateway hid
  have hmsgs : ∀ {l : List Item}, (∀ e, .fin e ∉ l) → l.length = (payloads l).length := by
    intro l hl
    induction l with
    | nil => rfl
    | cons x l ih =>
      have htail := ih fun e he => hl e (List.mem_cons_of_mem _ he)
      cases x with
      | msg n a => simp [payloads] at htail ⊢; exact htail
      | fin e => exact absurd List.mem_cons_self (hl e)
  have hnone : ∀ e, .fin e ∉ gw.offered := fun e he => by
    have hrel := htold.completion e he
    rw [hr] at hrel
    cases hrel
  have hlen : gw.posts.length = fsm.responses.length := by
    have hoffered := hmsgs hnone
    rw [htold.answers, List.length_map] at hoffered
    simpa [GatewayImpl.offered] using hoffered
  have hresp : fsm.responses.length ≤ fsm.resolvedNodes.length := by
    simp only [Fsm.responses, Fsm.resolvedNodes, List.length_map]
    exact List.length_filterMap_le _ _
  have hcard := nodup_length_le (h.fsms id fsm hf).resolvedOnce
  simp only [Ipc.fewPosts, hg, Option.all_some, decide_eq_true_eq]
  omega

end Daemon

theorem server_run {κ : RouteCodec} {n : Network} {as : List ServerAction} {r : ServerRouter}
    (h : Network.Inv κ n) (ha : ∀ a ∈ as, Daemon.isPlain a)
    (hrun : Runs.run (ServerRouter.step κ) n.server as = some r) :
    Network.Inv κ { n with server := r } := by
  induction as generalizing n with
  | nil =>
    cases hrun
    exact h
  | cons a as ih =>
    obtain ⟨m, hm, hrun⟩ := Runs.run_cons.mp hrun
    have hstep := (h.server_step (ha a List.mem_cons_self n.server) hm).1
    exact ih (n := { n with server := m }) hstep (fun b hb => ha b (List.mem_cons_of_mem _ hb)) hrun

namespace System

theorem setClient_setClient (n : Network) (c : ClientId) (r r' : ClientRouter) :
    (n.setClient c r).setClient c r' = n.setClient c r' := by
  simp [Network.setClient]

theorem network_sdk {κ : RouteCodec} {spec : ExecCmdSpec} {s : System} {c : ClientId}
    {a : SdkAction} {k : Sdk} (h : Network.Inv κ s.network) (hk : (s.sdk c).Inv)
    (ha : (s.sdk c).ownAction a = true) (hf : (s.sdk c).fewSends = true)
    (hs : (s.sdk c).step κ spec a = some k) : Network.Inv κ (s.setSdk c k).network := by
  obtain ⟨b, r, hb, hr, hrest⟩ := hk.router_step ha hf hs
  obtain ⟨hinv, _⟩ := h.client_step (c := c) hb hr
  rw [network_setSdk]
  rcases hrest with rfl | ⟨g, payload, hown, hsend⟩
  · exact hinv
  · have hclient : (s.network.setClient c r).client c = r := by simp [Network.setClient]
    rw [← hclient] at hown hsend
    have hnext := (hinv.client_step (c := c) hown hsend).1
    rwa [setClient_setClient] at hnext

theorem network_resolve {κ : RouteCodec} {spec : ExecCmdSpec} {s : System} {d : Daemon}
    (h : Network.Inv κ s.network) (hd : Daemon.Inv spec s.daemon) {id : Nat} {nodeId : NodeId}
    {result : PromiseResult}
    (hs : s.daemon.step κ spec (.resolve id nodeId result 0 0) = some d) :
    Network.Inv κ { s with daemon := d }.network := by
  rcases Daemon.step_cases hs with ⟨_, _, _, _, _, ha, _⟩ | ⟨_, _, _, _, _, x, ha, _, hx, hrun, _⟩
  · cases ha
  · cases ha
    obtain ⟨fsm, fsm', hid, hacts⟩ := Daemon.resolve_actions hx
    rw [hacts, Runs.run_append] at hrun
    obtain ⟨m, hm, hrun⟩ := hrun
    have hmid : Network.Inv κ { s.network with server := m } := by
      cases result with
      | error failure =>
        cases hm
        exact h
      | ok response =>
        refine (h.server_step ?_ (Runs.run_one.mp hm)).1
        have hfew := hd.fewPosts hid
        simp only [ServerRouter.ownAction, network, hfew]
        rfl
    exact server_run hmid (Daemon.plain_goodbye fsm') hrun

theorem network_toServer {κ : RouteCodec} {spec : ExecCmdSpec} {s : System} {c : ClientId}
    {message : Bytes} {rest : List Bytes} {p : Presentation} {d : Daemon}
    (h : Network.Inv κ s.network) (hq : (s.sdk c).router.clientPipe = message :: rest)
    (hs : s.daemon.step κ spec (.router (.pipeMessage c message 0) p 0) = some d) :
    Network.Inv κ ({ s with daemon := d }.setSdk c ((s.sdk c).withPipe rest)).network := by
  rcases Daemon.step_cases hs with ⟨_, _, _, reply, x, ha, _, hp, hx, hrun, _⟩ |
    ⟨_, _, _, _, _, _, ha, _⟩
  · cases ha
    obtain ⟨n', hn', hinv, _⟩ := h.toServer (c := c) hq
    have hstep : s.network.server.step κ (.pipeMessage c message 0) = some reply.router :=
      ServerRouter.step_eq_some.mpr ⟨reply, hp, rfl⟩
    have hclient : (s.network.client c).clientPipe = message :: rest := hq
    simp only [Network.toServer, hclient, hstep, Option.map_some, Option.some.injEq] at hn'
    subst hn'
    rw [network_setSdk]
    exact server_run (n := { s.network with server := reply.router }.setClient c
      ((s.sdk c).router.withPipe rest)) hinv (Daemon.plain_dispatch hx) hrun
  · cases ha

theorem network_toClient {κ : RouteCodec} {spec : ExecCmdSpec} {s : System} {c : ClientId}
    {message : Bytes} {rest : List Bytes} {order : List GatewayId} {k : Sdk}
    (h : Network.Inv κ s.network) (hk : (s.sdk c).Inv)
    (hq : s.daemon.router.serverPipe c = message :: rest)
    (hs : (s.sdk c).step κ spec (.router (.pipeMessage message order) 0) = some k) :
    Network.Inv κ ({ s with daemon := s.daemon.withPipe c rest }.setSdk c k).network := by
  have hstep := hk.router_message hs
  have htake : s.network.step κ (.toClient c order) =
      some ({ s.network with server := s.network.server.withPipe c rest }.setClient c k.router) := by
    have hclient : (s.network.client c).step κ (.pipeMessage message order) = some k.router := hstep
    have hserver : s.network.server.serverPipe c = message :: rest := hq
    simp only [Network.step, Network.toClient, hserver, hclient, Option.map_some]
  rw [network_setSdk]
  exact (h.step htake).1

end System

def accepts : ServerAction → Prop
  | .send _ _ _ outcome => outcome = 0
  | .release _ outcome => outcome = 0
  | .pipeMessage _ _ outcome => outcome = 0
  | _ => True

/-- Nothing that was offered to the pipe was refused. -/
def Accepted (r : ServerRouter) : Prop := Each r.gateways fun _ gw => gw.sent = gw.offered

theorem Accepted.modify {r : ServerRouter} (h : Accepted r) (g : GatewayId)
    {f : GatewayImpl Endpoint → GatewayImpl Endpoint}
    (hf : ∀ gw, gw.sent = gw.offered → (f gw).sent = (f gw).offered) :
    Accepted (r.modify g f) := Each.modify h fun gw _ => hf gw

theorem Accepted.raise {r : ServerRouter} (h : Accepted r) (g : GatewayId) (e : Event) :
    Accepted (r.raise g e).router := by
  unfold ServerRouter.raise
  split
  · exact h.modify g (f := (·.hear e)) fun _ => id
  · exact h

theorem accepted_post {gw : GatewayImpl Endpoint} (h : gw.sent = gw.offered) (i : Item) :
    (gw.post i 0).sent = (gw.post i 0).offered := by
  simp only [GatewayImpl.sent_post, if_true, h]
  simp [GatewayImpl.offered, GatewayImpl.post]

theorem Accepted.destroy {κ : RouteCodec} {r : ServerRouter} (h : Accepted r) (g : GatewayId)
    (gw : GatewayImpl Endpoint) : Accepted (r.destroy κ g gw 0) := by
  have hexpire : Accepted (r.modify g (·.expire)) := h.modify g (f := (·.expire)) fun _ => id
  rcases ServerRouter.gateways_destroy κ r g gw 0 with hgs | hgs
  · unfold Accepted
    rw [hgs]
    exact hexpire
  · unfold Accepted
    rw [hgs]
    exact hexpire.modify g (f := (·.post (.fin gw.completionErrorCode) 0)) fun _ hx =>
      accepted_post hx _

theorem Accepted.makeChannel {κ : RouteCodec} {r : ServerRouter} (h : Accepted r)
    (c : ClientId) (mapOfGws : MapOfWeakGateways) (m : RouteChannelMsg) (input : Decoder)
    (realPayload : Bytes) :
    Accepted (r.makeChannel κ c mapOfGws m input realPayload 0).router := by
  let gw : GatewayImpl Endpoint :=
    { endpoint := ⟨m.tag, c⟩, events := [.message m.sequence realPayload] }
  have hmade : Accepted ({ r with gateways := r.gateways ++ [gw] }.setMap c
      (some (mapOfGws.insert m.tag r.gateways.length))) := Each.append h rfl
  unfold ServerRouter.makeChannel
  simp only
  split
  · exact hmade
  · exact hmade.destroy _ _

theorem Accepted.step {κ : RouteCodec} {r r' : ServerRouter} {a : ServerAction}
    (h : Accepted r) (ha : accepts a) (hs : r.step κ a = some r') : Accepted r' := by
  obtain ⟨reply, hp, rfl⟩ := ServerRouter.step_eq_some.mp hs
  cases ServerRouter.performs hp with
  | nothing code => exact h
  | registers serviceId input => exact h
  | sends serviceId payload outcome channel =>
    cases ha
    unfold Accepted
    simp only [ServerRouter.transmit, ServerRouter.gateways_pipeSend]
    refine h.modify _ fun x hx => accepted_post ?_ _
    exact hx
  | completes errorCode channel => exact h.modify _ (f := (·.complete errorCode)) fun _ => id
  | subscribes handler channel => exact h.modify _ (f := (·.subscribe handler)) fun _ => id
  | @greets g i gw handler channel found =>
    have hsub : Accepted (r.modify g (·.subscribe handler)) :=
      h.modify g (f := (·.subscribe handler)) fun _ => id
    exact hsub.raise _ _
  | destroys outcome channel =>
    cases ha
    exact h.destroy _ _
  | connects c outcome =>
    cases ha
    unfold Accepted at h ⊢
    unfold ServerRouter.handleRouteConnect
    simpa using h
  | passes outcome => exact h.raise _ _
  | opens outcome =>
    cases ha
    exact h.makeChannel _ _ _ _ _
  | @ends c g e payload mapOfGws outcome =>
    exact Accepted.raise (r := r.setMap c (some (mapOfGws.erase e.tag))) h _ _
  | loses idle => exact h
  | @notifies g rest remaining => exact Accepted.raise (r := { r with remaining := rest }) h _ _
  | skips remaining dead => exact h

theorem Accepted.run {κ : RouteCodec} {r r' : ServerRouter} {as : List ServerAction}
    (h : Accepted r) (ha : ∀ a ∈ as, accepts a)
    (hrun : Runs.run (ServerRouter.step κ) r as = some r') : Accepted r' := by
  induction as generalizing r with
  | nil =>
    cases hrun
    exact h
  | cons a as ih =>
    obtain ⟨m, hm, hrun⟩ := Runs.run_cons.mp hrun
    exact ih (h.step (ha a List.mem_cons_self) hm)
      (fun b hb => ha b (List.mem_cons_of_mem _ hb)) hrun

theorem accepts_of_plain {a : ServerAction} (h : Daemon.isPlain a) : accepts a := by
  have hown := h {}
  cases a <;> simp_all [accepts, ServerRouter.ownAction]

theorem accepted_resolve {κ : RouteCodec} {spec : ExecCmdSpec} {d d' : Daemon} {id : Nat}
    {nodeId : NodeId} {result : PromiseResult} (h : Accepted d.router)
    (hs : d.step κ spec (.resolve id nodeId result 0 0) = some d') : Accepted d'.router := by
  rcases Daemon.step_cases hs with ⟨_, _, _, _, _, ha, _⟩ | ⟨_, _, _, _, _, x, ha, _, hx, hrun, _⟩
  · cases ha
  · cases ha
    obtain ⟨fsm, fsm', _, hacts⟩ := Daemon.resolve_actions hx
    refine h.run (fun a ha => ?_) hrun
    rw [hacts] at ha
    rcases List.mem_append.mp ha with ha | ha
    · cases result <;> simp [Fsm.respond] at ha
      subst ha
      rfl
    · exact accepts_of_plain (Daemon.plain_goodbye fsm' a ha)

theorem accepted_message {κ : RouteCodec} {spec : ExecCmdSpec} {d d' : Daemon} {c : ClientId}
    {message : Bytes} {p : Presentation} (h : Accepted d.router)
    (hs : d.step κ spec (.router (.pipeMessage c message 0) p 0) = some d') :
    Accepted d'.router := by
  rcases Daemon.step_cases hs with ⟨_, _, _, reply, x, ha, _, hp, hx, hrun, _⟩ |
    ⟨_, _, _, _, _, _, ha, _⟩
  · cases ha
    have hreply := h.step (a := .pipeMessage c message 0) rfl (ServerRouter.step_eq_some.mpr ⟨reply, hp, rfl⟩)
    exact hreply.run (fun a ha => accepts_of_plain (Daemon.plain_dispatch hx a ha)) hrun
  · cases ha

end Ocvsmd.Svc
