import Ocvsmd.CommandAsked
import Ocvsmd.PipeFrame

set_option autoImplicit false

namespace Ocvsmd.Ipc

namespace ServerRouter

theorem knows_run {κ : RouteCodec} {r r' : ServerRouter} {as : List ServerAction} {c : ClientId}
    (hrun : Runs.run (step κ) r as = some r') (h : r.knows c = true)
    (has : ∀ a ∈ as, ∀ order, a ≠ .pipeDisconnected c order) : r'.knows c = true := by
  induction as generalizing r with
  | nil =>
    cases hrun
    exact h
  | cons a as ih =>
    obtain ⟨m, hm, hrun⟩ := Runs.run_cons.mp hrun
    exact ih hrun (knows_step hm h (has a List.mem_cons_self))
      fun b hb => has b (List.mem_cons_of_mem _ hb)

def Answers (κ : RouteCodec) (r : ServerRouter) (c : ClientId) : Prop :=
  ∀ b ∈ r.serverPipe c, isConnect κ b = true → r.knows c = true

theorem Answers.run {κ : RouteCodec} {r r' : ServerRouter} {as : List ServerAction}
    {c : ClientId} (h : r.Answers κ c) (hrun : Runs.run (step κ) r as = some r')
    (has : ∀ a ∈ as, ∀ order, a ≠ .pipeDisconnected c order) : r'.Answers κ c := by
  induction as generalizing r with
  | nil =>
    cases hrun
    exact h
  | cons a as ih =>
    obtain ⟨m, hm, hrun⟩ := Runs.run_cons.mp hrun
    refine ih (fun b hb hconnect => ?_) hrun fun b hb => has b (List.mem_cons_of_mem _ hb)
    rcases posted_step hm hb with hold | hchannel | hknows
    · exact knows_step hm (h b hold hconnect) (has a List.mem_cons_self)
    · rw [isConnect_of_isOfChannel hchannel] at hconnect
      cases hconnect
    · exact hknows

def Opened (r : ServerRouter) (ep : Endpoint) : Prop :=
  ∃ (g : GatewayId) (gw : GatewayImpl Endpoint), r.gateways[g]? = some gw ∧ gw.endpoint = ep

theorem Opened.step {κ : RouteCodec} {r r' : ServerRouter} {a : ServerAction} {ep : Endpoint}
    (h : r.Opened ep) (hw : r.Wf) (hs : r.step κ a = some r') : r'.Opened ep := by
  obtain ⟨g, gw, hg, he⟩ := h
  obtain ⟨gw', hg', hchanges⟩ := (hw.evolves hs).old g gw hg
  exact ⟨g, gw', hg', hchanges.endpoint.trans he⟩

theorem Opened.run {κ : RouteCodec} {r r' : ServerRouter} {as : List ServerAction}
    {ep : Endpoint} (h : r.Opened ep) (hw : r.Wf)
    (hrun : Runs.run (ServerRouter.step κ) r as = some r') : r'.Opened ep :=
  (Runs.run_preserves (P := fun r => r.Wf ∧ r.Opened ep)
    (fun hm hs => ⟨hm.1.step hs, hm.2.step hm.1 hs⟩) ⟨hw, h⟩ hrun).2

theorem Opened.destroy {r : ServerRouter} {ep : Endpoint} (h : r.Opened ep) (κ : RouteCodec)
    (g : GatewayId) (gw : GatewayImpl Endpoint) (outcome : Int32) :
    (r.destroy κ g gw outcome).Opened ep := by
  obtain ⟨i, x, hx, he⟩ := h
  have hevolves := @evolves_destroy κ r g gw (fun _ => True) outcome (fun _ => none)
    fun _ => trivial
  obtain ⟨x', hx', hchanges⟩ := hevolves.old i x hx
  exact ⟨i, x', hx', hchanges.endpoint.trans he⟩

theorem opened_makeChannel (κ : RouteCodec) (r : ServerRouter) (c : ClientId)
    (mapOfGws : MapOfWeakGateways) (m : RouteChannelMsg) (input : Decoder)
    (realPayload : Bytes) (outcome : Int32) :
    (r.makeChannel κ c mapOfGws m input realPayload outcome).router.Opened ⟨m.tag, c⟩ := by
  let gw : GatewayImpl Endpoint :=
    { endpoint := ⟨m.tag, c⟩, events := [.message m.sequence realPayload] }
  have hmade : Opened ({ r with gateways := r.gateways ++ [gw] }.setMap c
      (some (mapOfGws.insert m.tag r.gateways.length))) ⟨m.tag, c⟩ :=
    ⟨r.gateways.length, gw, by simp [setMap], rfl⟩
  unfold makeChannel
  simp only
  split
  · exact hmade
  · exact hmade.destroy κ _ gw outcome

theorem opened_of_first {κ : RouteCodec} {r : ServerRouter} (hw : r.Wf) {c : ClientId}
    (hc : r.knows c = true) {t : Tag} {serviceId : ServiceId} {size : UInt64}
    (hf : (r.serviceIdToChannelFactory serviceId).isSome = true) {payload : Bytes}
    {outcome : Int32} {reply : Reply ServerRouter}
    (hp : r.perform κ (.pipeMessage c
      (κ.serialize (.channelMsg ⟨t, 0, serviceId, size⟩) ++ payload) outcome) = some reply) :
    reply.router.Opened ⟨t, c⟩ := by
  have hs := step_eq_some.mpr ⟨reply, hp, rfl⟩
  obtain ⟨-, hp⟩ := Option.ite_none_right_eq_some.mp hp
  simp only [handlePipeMessage, κ.deserialize_serialize] at hp
  obtain ⟨realPayload, -, hr⟩ := Option.map_eq_some_iff.mp hp
  obtain ⟨mapOfGws, hm⟩ := Option.isSome_iff_exists.mp hc
  obtain ⟨input, hinput⟩ := Option.isSome_iff_exists.mp hf
  simp only [hm] at hr
  split at hr
  · next g hfound =>
    have hl : r.lookup ⟨t, c⟩ = some g := by
      rw [lookup_eq hm]
      exact (Option.filter_eq_some_iff.mp hfound).1
    obtain ⟨gw, hg, he, -⟩ := hw.registry _ g hl
    exact Opened.step ⟨g, gw, hg, he⟩ hw hs
  · simp only [hinput, if_true] at hr
    rw [← hr]
    exact opened_makeChannel κ r c mapOfGws _ input realPayload outcome

end ServerRouter

namespace ClientRouter

theorem clientPipe_step {κ : RouteCodec} {r r' : ClientRouter} {a : ClientAction}
    (hs : r.step κ a = some r') : r.clientPipe <+: r'.clientPipe := by
  have hbehind : r = (r.withPipe []).behind r.clientPipe := by
    rw [behind_empty rfl]
    rfl
  rw [hbehind, behind_step] at hs
  obtain ⟨m, -, hr⟩ := Option.map_eq_some_iff.mp hs
  rw [← hr]
  exact List.prefix_append _ _

theorem unended_sent {gs : List (GatewayImpl Tag)} (h : Unfinished gs) {g : GatewayId}
    {gw : GatewayImpl Tag} (hg : gs[g]? = some gw) (ha : gw.alive = true) :
    ¬ FifoSession.Ended gw.sent := by
  rintro ⟨e, hend⟩
  obtain ⟨p, hp, hpe⟩ := List.mem_filterMap.mp hend
  have hpost : p.1 = .fin e := by
    split at hpe
    · exact Option.some.inj hpe
    · cases hpe
  exact h g gw hg ha e (List.mem_map.mpr ⟨p, hp, hpost⟩)

theorem posted_first {κ : RouteCodec} {r r' : ClientRouter} (hcount : Counted r.gateways)
    (hw : r.Wf) (hunfinished : Unfinished r.gateways) {g i : GatewayId} {gw gw' : GatewayImpl Tag}
    (hg : r.gateways[g]? = some gw) (hg' : r'.gateways[g]? = some gw')
    (hsent : FifoSession.payloads gw.sent = []) (hsent' : FifoSession.payloads gw'.sent ≠ [])
    {serviceId : ServiceId} {payload : Bytes}
    (hs : r.step κ (.send i serviceId payload 0) = some r') :
    r'.isConnected = true ∧ ∃ size,
      κ.serialize (.channelMsg ⟨gw'.endpoint, 0, serviceId, size⟩) ++ payload ∈ r'.clientPipe := by
  obtain ⟨reply, hp, rfl⟩ := step_eq_some.mp hs
  cases performs hp with
  | nothing code =>
    cases hg.symm.trans hg'
    exact absurd hsent hsent'
  | @sends g' x serviceId payload outcome channel connected registered =>
    simp only [transmit, gateways_pipeSend, gateways_modify] at hg'
    by_cases hi : i = g
    · subst hi
      cases hg.symm.trans (channel_eq_some.mp channel).1
      have halive := (hw.lookup_self hg registered).2
      have hnone : gw.sent = [] := by
        by_contra hne
        exact FifoSession.payloads_ne_nil hne (unended_sent hunfinished hg halive) hsent
      have hzero : gw.nextSequence = 0 := by
        have hlen := hcount i gw hg halive
        rw [hnone] at hlen
        exact UInt64.toNat_inj.mp hlen
      have hend : gw'.endpoint = gw.endpoint := by
        simp [hg] at hg'
        rw [← hg']
        rfl
      refine ⟨by simp [transmit, modify, connected], UInt64.ofNat payload.length, ?_⟩
      rw [hend, transmit, hzero, pipeSend, if_pos rfl]
      exact List.mem_append_right _ (List.mem_singleton.mpr rfl)
    · rw [List.getElem?_modify_ne _ _ hi] at hg'
      cases hg.symm.trans hg'
      exact absurd hsent hsent'

end ClientRouter

end Ocvsmd.Ipc

namespace Ocvsmd.Svc

open Ipc
open FifoSession (payloads)

namespace Sdk

/-- What a step is to the clients: one of the router that leaves alone what they have sent,
and perhaps the request of one of them on top of that. -/
theorem Inv.router_asks {κ : RouteCodec} {spec : ExecCmdSpec} {s s' : Sdk} {a : SdkAction}
    (h : s.Inv) (ha : s.ownAction a = true) (hs : s.step κ spec a = some s') :
    ∃ b r, s.router.ownAction b = true ∧ s.router.step κ b = some r ∧
      (∀ (id : Nat) (x : ExecCmdClient) (gw : GatewayImpl Tag), s.clients[id]? = some x →
        s.router.gateways[x.channel]? = some gw → ∃ gw₁, r.gateways[x.channel]? = some gw₁ ∧
          payloads gw₁.sent = payloads gw.sent) ∧
      (s'.router = r ∨
        ∃ g payload, r.step κ (.send g spec.serviceId payload 0) = some s'.router) := by
  have hframed : ∀ {b reply} {x : ExecCmdClient} {gw : GatewayImpl Tag},
      s.router.perform κ b = some reply → b.asker ≠ some x.channel →
      s.router.gateways[x.channel]? = some gw → ∃ gw₁,
        reply.router.gateways[x.channel]? = some gw₁ ∧ payloads gw₁.sent = payloads gw.sent := by
    intro b reply x gw hp hne hg
    obtain ⟨gw₁, hg₁, hf⟩ := ClientRouter.framed hp hne hg
    exact ⟨gw₁, hg₁, hf.sent⟩
  cases a with
  | make request =>
    obtain ⟨reply, hp, rfl⟩ := Option.map_eq_some_iff.mp hs
    exact ⟨.makeGateway, reply.router, rfl, ClientRouter.step_eq_some.mpr ⟨reply, hp, rfl⟩,
      fun _ x gw _ hg => hframed hp (fun hc => by cases hc) hg, .inl rfl⟩
  | submit id outcome =>
    obtain rfl : outcome = 0 := by simpa [ownAction] using ha
    obtain ⟨x, -, hs⟩ := Option.bind_eq_some_iff.mp hs
    obtain ⟨reply, hp, hs⟩ := Option.bind_eq_some_iff.mp hs
    obtain ⟨hstep, hrest⟩ := h.dispatch_steps hp hs
    refine ⟨_, reply.router, rfl, hstep, fun _ y gw _ hg => ?_, hrest⟩
    by_cases hc : x.channel = y.channel
    · rw [← hc] at hg ⊢
      obtain ⟨gw₁, hg₁, hf⟩ := ClientRouter.framed_subscribe hp hg
      exact ⟨gw₁, hg₁, hf.sent⟩
    · exact hframed hp (fun he => hc (Option.some.inj he)) hg
  | destroy id outcome =>
    obtain rfl : outcome = 0 := by simpa [ownAction] using ha
    obtain ⟨x, -, hs⟩ := Option.bind_eq_some_iff.mp hs
    obtain ⟨reply, hp, rfl⟩ := Option.map_eq_some_iff.mp hs
    refine ⟨.release x.channel 0, reply.router, rfl,
      ClientRouter.step_eq_some.mpr ⟨reply, hp, rfl⟩, fun _ y gw _ hg => ?_, .inl rfl⟩
    obtain ⟨-, gw₁, hg₁, hf⟩ := ClientRouter.framed_release hp hg
    exact ⟨gw₁, hg₁, hf.sent⟩
  | router b outcome =>
    obtain ⟨hb, rfl⟩ : s.router.ownAction b = true ∧ outcome = 0 := by simpa [ownAction] using ha
    obtain ⟨hforeign, hs⟩ := Option.ite_none_right_eq_some.mp hs
    obtain ⟨reply, hp, hs⟩ := Option.bind_eq_some_iff.mp hs
    obtain ⟨hstep, hrest⟩ := h.dispatch_steps hp hs
    exact ⟨b, reply.router, hb, hstep, fun _ y gw hy hg => hframed hp
      (isForeign_iff.mp hforeign y (List.mem_of_getElem? hy)) hg, hrest⟩

theorem Inv.moves_self {spec : ExecCmdSpec} {s : Sdk} (h : s.Inv) : Moves spec s s := by
  intro id x hx
  obtain ⟨gw, hg⟩ := h.gateway hx
  exact ⟨gw, hg, .inr ⟨x, gw, hx, hg, rfl, .heard (.nothing (.refl gw) rfl)⟩⟩

end Sdk

namespace Daemon

def Keeps (a : DaemonAction) : Prop :=
  ∀ c order p outcome, a ≠ .router (.pipeDisconnected c order) p outcome

/-- What a step is to the router: an event at most, and then what channels ask for. -/
theorem step_run {κ : RouteCodec} {spec : ExecCmdSpec} {d d' : Daemon} {a : DaemonAction}
    (ha : Keeps a) (hs : d.step κ spec a = some d') :
    ∃ as, Runs.run (ServerRouter.step κ) d.router as = some d'.router ∧
      ∀ b ∈ as, ∀ c order, b ≠ .pipeDisconnected c order := by
  have hown : ∀ {b : ServerAction}, b.isIncoming = false →
      ∀ c order, b ≠ .pipeDisconnected c order := by
    intro b hb c order he
    rw [he] at hb
    cases hb
  rcases step_cases hs with ⟨b, p, outcome, reply, x, rfl, -, hp, hx, hrun, -⟩ |
    ⟨id, nodeId, result, sendOutcome, outcome, x, rfl, -, hx, hrun, -⟩
  · refine ⟨b :: x.2, Runs.run_cons.mpr ⟨_, ServerRouter.step_eq_some.mpr ⟨reply, hp, rfl⟩, hrun⟩, ?_⟩
    intro b' hb
    rcases List.mem_cons.mp hb with rfl | hb
    · exact fun c order he => ha c order p outcome (by rw [he])
    · exact hown (own_dispatch hx b' hb)
  · exact ⟨x.2, hrun, fun b hb => hown (own_resolve hx b hb)⟩

/-- The request of a client has come to the daemon, or is on its way there. -/
structure Carried (κ : RouteCodec) (spec : ExecCmdSpec) (r : ServerRouter) (queue : List Bytes)
    (ep : Endpoint) : Prop where
  known : r.knows ep.clientId = true
  comes : r.Opened ep ∨ ∃ size payload,
    κ.serialize (.channelMsg ⟨ep.tag, 0, spec.serviceId, size⟩) ++ payload ∈ queue

variable {κ : RouteCodec} {spec : ExecCmdSpec} {d d' : Daemon} {ep : Endpoint}
  {queue : List Bytes}

theorem Carried.mono (h : Carried κ spec d.router queue ep) {queue' : List Bytes}
    (hsub : queue ⊆ queue') : Carried κ spec d.router queue' ep :=
  ⟨h.known, h.comes.imp id fun ⟨size, payload, hin⟩ => ⟨size, payload, hsub hin⟩⟩

theorem Carried.step (h : Carried κ spec d.router queue ep) (hd : Inv spec d) {a : DaemonAction}
    (ha : Keeps a) (hs : d.step κ spec a = some d') : Carried κ spec d'.router queue ep := by
  obtain ⟨as, hrun, hkeeps⟩ := step_run ha hs
  exact ⟨ServerRouter.knows_run hrun h.known fun b hb => hkeeps b hb _,
    h.comes.imp (fun hopened => hopened.run hd.wf hrun) id⟩

theorem Carried.taken {message : Bytes} {rest : List Bytes} {p : Presentation}
    (h : Carried κ spec d.router (message :: rest) ep) (hd : Inv spec d)
    (hs : d.step κ spec (.router (.pipeMessage ep.clientId message 0) p 0) = some d') :
    Carried κ spec d'.router rest ep := by
  have hkeeps : Keeps (.router (.pipeMessage ep.clientId message 0) p 0) :=
    fun _ _ _ _ hc => by cases hc
  refine ⟨(h.step hd hkeeps hs).known, ?_⟩
  rcases h.comes with hopened | ⟨size, payload, hin⟩
  · obtain ⟨as, hrun, -⟩ := step_run hkeeps hs
    exact .inl (hopened.run hd.wf hrun)
  · rcases List.mem_cons.mp hin with rfl | hrest
    · left
      rcases step_cases hs with ⟨_, _, _, reply, x, ha, -, hp, -, hrun, -⟩ | ⟨_, _, _, _, _, _, ha, -⟩
      · cases ha
        have hfactory : (d.router.serviceIdToChannelFactory spec.serviceId).isSome = true := by
          rw [hd.factory, Function.update_self]
          rfl
        have hopened : reply.router.Opened ep :=
          ServerRouter.opened_of_first hd.wf h.known hfactory hp
        exact hopened.run (hd.wf.step (ServerRouter.step_eq_some.mpr ⟨reply, hp, rfl⟩)) hrun
      · cases ha
    · exact .inr ⟨size, payload, hrest⟩

end Daemon

namespace System

inductive SdkSeen (κ : RouteCodec) (spec : ExecCmdSpec) (s s' : System) (c : ClientId) : Prop where
  | still (same : s'.sdk c = s.sdk c)
  | acts (a : SdkAction) (own : (s.sdk c).ownAction a = true) (few : (s.sdk c).fewSends = true)
      (step : (s.sdk c).step κ spec a = some (s'.sdk c)) (daemon : s'.daemon = s.daemon)
  | sends {message : Bytes} {rest : List Bytes} {p : Presentation}
      (queue : (s.sdk c).router.clientPipe = message :: rest)
      (taken : s.daemon.step κ spec (.router (.pipeMessage c message 0) p 0) = some s'.daemon)
      (same : s'.sdk c = (s.sdk c).withPipe rest)
  | hears {message : Bytes} {rest : List Bytes} {order : List GatewayId}
      (queue : s.daemon.router.serverPipe c = message :: rest)
      (step : (s.sdk c).step κ spec (.router (.pipeMessage message order) 0) = some (s'.sdk c))
      (daemon : s'.daemon = s.daemon.withPipe c rest)

inductive DaemonSeen (κ : RouteCodec) (spec : ExecCmdSpec) (d d' : Daemon) : Prop where
  | still (same : d' = d)
  | acts (a : DaemonAction) (keeps : Daemon.Keeps a) (step : d.step κ spec a = some d')
  | hands {c : ClientId} {message : Bytes} {rest : List Bytes}
      (queue : d.router.serverPipe c = message :: rest) (same : d' = d.withPipe c rest)

variable {κ : RouteCodec} {spec : ExecCmdSpec} {s s' : System} {a : SystemAction}

theorem sdk_seen (hs : s.step κ spec a = some s') (c : ClientId) : SdkSeen κ spec s s' c := by
  have hother : ∀ {d : Daemon} {c' : ClientId} {k : Sdk}, c ≠ c' →
      ({ s with daemon := d }.setSdk c' k).sdk c = s.sdk c := by
    intro d c' k hc
    simp [setSdk, hc]
  cases a with
  | sdk c' a =>
    obtain ⟨⟨hown, hfew⟩, hs⟩ := Option.ite_none_right_eq_some.mp hs
    obtain ⟨k, hk, rfl⟩ := Option.map_eq_some_iff.mp hs
    by_cases hc : c = c'
    · subst hc
      exact .acts a hown hfew (by simpa [setSdk] using hk) rfl
    · exact .still (hother (d := s.daemon) hc)
  | toServer c' p =>
    simp only [step, toServer] at hs
    split at hs
    · cases hs
    · next message rest hq =>
      obtain ⟨d, hd, rfl⟩ := Option.map_eq_some_iff.mp hs
      by_cases hc : c = c'
      · subst hc
        exact .sends hq hd (by simp [setSdk])
      · exact .still (hother hc)
  | toClient c' order =>
    simp only [step, toClient] at hs
    split at hs
    · cases hs
    · next message rest hq =>
      obtain ⟨k, hk, rfl⟩ := Option.map_eq_some_iff.mp hs
      by_cases hc : c = c'
      · subst hc
        exact .hears hq (by simpa [setSdk] using hk) rfl
      · exact .still (hother hc)
  | resolve id nodeId result =>
    obtain ⟨d, -, rfl⟩ := Option.map_eq_some_iff.mp hs
    exact .still rfl

theorem daemon_seen (hs : s.step κ spec a = some s') : DaemonSeen κ spec s.daemon s'.daemon := by
  cases a with
  | sdk c a =>
    obtain ⟨-, hs⟩ := Option.ite_none_right_eq_some.mp hs
    obtain ⟨k, -, rfl⟩ := Option.map_eq_some_iff.mp hs
    exact .still rfl
  | toServer c p =>
    simp only [step, toServer] at hs
    split at hs
    · cases hs
    · obtain ⟨d, hd, rfl⟩ := Option.map_eq_some_iff.mp hs
      exact .acts _ (fun _ _ _ _ hc => by cases hc) hd
  | toClient c order =>
    simp only [step, toClient] at hs
    split at hs
    · cases hs
    · next message rest hq =>
      obtain ⟨k, -, rfl⟩ := Option.map_eq_some_iff.mp hs
      exact .hands hq rfl
  | resolve id nodeId result =>
    obtain ⟨d, hd, rfl⟩ := Option.map_eq_some_iff.mp hs
    exact .acts _ (fun _ _ _ _ hc => by cases hc) hd

theorem DaemonSeen.knows {d d' : Daemon} (h : DaemonSeen κ spec d d') {c : ClientId}
    (hc : d.router.knows c = true) : d'.router.knows c = true := by
  cases h with
  | still same => rwa [same]
  | acts a keeps step =>
    obtain ⟨as, hrun, hkeeps⟩ := Daemon.step_run keeps step
    exact ServerRouter.knows_run hrun hc fun b hb => hkeeps b hb c
  | hands queue same =>
    rw [same]
    exact hc

theorem DaemonSeen.answers {d d' : Daemon} (h : DaemonSeen κ spec d d') {c : ClientId}
    (hc : d.router.Answers κ c) : d'.router.Answers κ c := by
  cases h with
  | still same => rwa [same]
  | acts a keeps step =>
    obtain ⟨as, hrun, hkeeps⟩ := Daemon.step_run keeps step
    exact hc.run hrun fun b hb => hkeeps b hb c
  | @hands c' message rest queue same =>
    rw [same]
    intro b hb hconnect
    refine hc b ?_ hconnect
    simp only [Daemon.withPipe, ServerRouter.serverPipe_withPipe] at hb
    by_cases he : c = c'
    · subst he
      rw [Function.update_self] at hb
      rw [queue]
      exact List.mem_cons_of_mem _ hb
    · rwa [Function.update_of_ne he] at hb

theorem DaemonSeen.carried {d d' : Daemon} (h : DaemonSeen κ spec d d') (hd : Daemon.Inv spec d)
    {queue : List Bytes} {ep : Endpoint} (hc : Daemon.Carried κ spec d.router queue ep) :
    Daemon.Carried κ spec d'.router queue ep := by
  cases h with
  | still same => rwa [same]
  | acts a keeps step => exact hc.step hd keeps step
  | hands queue same =>
    rw [same]
    exact ⟨hc.known, hc.comes⟩

/-- Nothing that a client of the program has to be told, or has to ask, is lost. -/
structure Heeded (κ : RouteCodec) (spec : ExecCmdSpec) (s : System) : Prop where
  inv : Inv κ spec s
  attentive : ∀ c, (s.sdk c).Attentive spec
  informed : ∀ c, (s.sdk c).All fun x gw => ∀ e, .completed e ∈ gw.events → x.results ≠ []
  known : ∀ c, (s.sdk c).router.isConnected = true → s.daemon.router.knows c = true
  answers : ∀ c, s.daemon.router.Answers κ c
  carried : ∀ c, (s.sdk c).All fun _ gw => payloads gw.sent ≠ [] →
    Daemon.Carried κ spec s.daemon.router (s.sdk c).router.clientPipe ⟨gw.endpoint, c⟩

theorem heeded_init (κ : RouteCodec) (spec : ExecCmdSpec) : Heeded κ spec (init spec) where
  inv := inv_init κ spec
  attentive := fun _ => Sdk.attentive_init spec
  informed := fun _ _ _ hx => by simp [init] at hx
  known := fun _ hc => by cases hc
  answers := fun _ _ hb => by simp [init, Daemon.init, ServerRouter.registerChannelFactory] at hb
  carried := fun _ _ _ hx => by simp [init] at hx

theorem SdkSeen.attentive {c : ClientId} (h : SdkSeen κ spec s s' c)
    (hc : (s.sdk c).Attentive spec) : (s'.sdk c).Attentive spec := by
  cases h with
  | still same => rwa [same]
  | acts a own few step daemon =>
    refine hc.step step fun order outcome he => ?_
    rw [he] at own
    cases own
  | sends queue taken same =>
    rw [same]
    exact hc.withPipe _
  | hears queue step daemon => exact hc.step step fun _ _ he => by cases he

theorem SdkSeen.moves {c : ClientId} (h : SdkSeen κ spec s s' c) (hc : (s.sdk c).Inv) :
    Sdk.Moves spec (s.sdk c) (s'.sdk c) := by
  cases h with
  | still same =>
    rw [same]
    exact hc.moves_self
  | acts a own few step daemon => exact (hc.step step).2
  | sends queue taken same =>
    rw [same]
    exact hc.moves_self
  | hears queue step daemon => exact (hc.step step).2

theorem informed_moved {x x' : ExecCmdClient} {gw gw' : GatewayImpl Tag}
    (h : ∀ e, .completed e ∈ gw.events → x.results ≠ [])
    (hengaged : ExecCmdClient.Engaged spec x' gw') (hm : ExecCmdClient.Moved spec x gw x' gw')
    (e : Int32) (he : .completed e ∈ gw'.events) : x'.results ≠ [] := by
  have hheard : ∀ {y : ExecCmdClient} {gw₀ : GatewayImpl Tag},
      (∀ e, .completed e ∈ gw₀.events → y.results ≠ []) →
      ExecCmdClient.Heard spec y gw₀ x' gw' → x'.results ≠ [] := by
    intro y gw₀ hy hh
    cases hh with
    | nothing framed events => exact hy e (events ▸ he)
    | ignored framed ev events unended unhandled =>
      rw [events, List.mem_append, List.mem_singleton] at he
      rcases he with hold | rfl
      · exact absurd hold (unended e)
      -- only who was never submitted takes no notice of its end, and is not told of one
      · have hzero : x'.receiver = 0 := by
          by_contra hr
          have hhandler := hengaged.handler
          rw [if_neg hr] at hhandler
          simp [GatewayImpl.handles, GatewayImpl.eventCode, hhandler, Adapter.code] at unhandled
        have hnone := (hengaged.silent hzero).2.2
        rw [ExecCmdClient.got_of_events events] at hnone
        simp [Event.item] at hnone
    | @told gw₁ framed ev events unended handled outcome =>
      rw [ExecCmdClient.events_answered, events, List.mem_append, List.mem_singleton] at he
      rcases he with hold | rfl
      · exact absurd hold (unended e)
      · exact ExecCmdClient.results_handleEvent (.inr (.inr ⟨_, rfl⟩))
  cases hm with
  | heard hh => exact hheard h hh
  | submitted hh => exact @hheard x.submitted (gw.subscribe (some (ExecCmdClient.input spec))) h hh

theorem Heeded.informed_step (h : Heeded κ spec s) (hinv : Inv κ spec s')
    (hs : s.step κ spec a = some s') (c : ClientId) :
    (s'.sdk c).All fun x gw => ∀ e, .completed e ∈ gw.events → x.results ≠ [] := by
  intro id x' hx'
  obtain ⟨gw', hg', hfresh | ⟨x, gw, hx, hg, hch, hm⟩⟩ :=
    (sdk_seen hs c).moves (h.inv.sdk c) id x' hx'
  · refine ⟨gw', hg', fun e he => ?_⟩
    rw [hfresh.events] at he
    cases he
  · obtain ⟨gw₀, hg₀, hold⟩ := h.informed c id x hx
    cases hg.symm.trans hg₀
    exact ⟨gw', hg', informed_moved hold (hinv.engaged hx' hg') hm⟩

theorem Heeded.known_step (h : Heeded κ spec s) (hs : s.step κ spec a = some s') (c : ClientId)
    (hc : (s'.sdk c).router.isConnected = true) : s'.daemon.router.knows c = true := by
  have hkeep := fun hold => (daemon_seen hs).knows (h.known c hold)
  cases sdk_seen hs c with
  | still same => exact hkeep (same ▸ hc)
  | acts a own few step daemon =>
    obtain ⟨b, r, hb, hr, -, hrest⟩ := (h.inv.sdk c).router_asks own step
    have hmid : r.isConnected = true := by
      rcases hrest with heq | ⟨g, payload, hsend⟩
      · exact heq ▸ hc
      · refine (ClientRouter.connected_step hsend hc).resolve_right ?_
        rintro ⟨_, _, he, -⟩
        cases he
    refine hkeep ((ClientRouter.connected_step hr hmid).resolve_right ?_)
    rintro ⟨_, _, rfl, -⟩
    cases hb
  | sends queue taken same =>
    rw [same] at hc
    exact hkeep hc
  | @hears message rest order queue step daemon =>
    rcases ClientRouter.connected_step ((h.inv.sdk c).router_message step) hc with
      hold | ⟨_, _, he, hanswer⟩
    · exact hkeep hold
    · cases he
      refine (daemon_seen hs).knows (h.answers c message ?_ hanswer)
      rw [queue]
      exact List.mem_cons_self

theorem Heeded.carried_acts (h : Heeded κ spec s) {c : ClientId} {a : SdkAction} {k : Sdk}
    (hown : (s.sdk c).ownAction a = true) (hk : (s.sdk c).step κ spec a = some k)
    (hknown : k.router.isConnected = true → s.daemon.router.knows c = true) :
    k.All fun _ gw => payloads gw.sent ≠ [] →
      Daemon.Carried κ spec s.daemon.router k.router.clientPipe ⟨gw.endpoint, c⟩ := by
  obtain ⟨b, r, hb, hr, hsame, hrest⟩ := (h.inv.sdk c).router_asks hown hk
  have hpipe : (s.sdk c).router.clientPipe ⊆ r.clientPipe :=
    (ClientRouter.clientPipe_step hr).subset
  intro id x' hx'
  obtain ⟨gw', hg', hfresh | ⟨x, gw, hx, hg, hch, -⟩⟩ := ((h.inv.sdk c).step hk).2 id x' hx'
  · refine ⟨gw', hg', fun hsent => absurd ?_ hsent⟩
    simp [GatewayImpl.sent, hfresh.posts, payloads]
  · refine ⟨gw', hg', fun hsent => ?_⟩
    obtain ⟨gw₀, hg₀, hold⟩ := h.carried c id x hx
    cases hg.symm.trans hg₀
    obtain ⟨gw₁, hg₁, hpayloads⟩ := hsame id x gw hx hg
    have hinv' := ((h.inv.sdk c).step hk).1
    have hend : gw'.endpoint = gw.endpoint := by
      rw [hinv'.wf.tags _ _ hg', (h.inv.sdk c).wf.tags _ _ hg, hch]
    rw [hch] at hg'
    rw [← hend] at hold
    have hqueue : r.clientPipe ⊆ k.router.clientPipe := by
      rcases hrest with heq | ⟨g, payload, hsend⟩
      · rw [heq]
        exact fun _ hin => hin
      · exact (ClientRouter.clientPipe_step hsend).subset
    by_cases hbefore : payloads gw.sent = []
    · rcases hrest with heq | ⟨g, payload, hsend⟩
      · rw [heq, hg₁] at hg'
        cases hg'
        exact absurd (hpayloads.trans hbefore) hsent
      · obtain ⟨hmid, -⟩ := h.inv.network.client_step (c := c) hb hr
        have hsteady : r.Steady κ := by
          have hclient := hmid.client c
          simpa [Network.setClient] using hclient
        have hunfinished := unfinished_step (h.inv.sdk c).wf (h.inv.unfinished c) hr
        obtain ⟨hconn, size, hposted⟩ := ClientRouter.posted_first hsteady.counted hsteady.wf
          hunfinished hg₁ hg' (hpayloads.trans hbefore) hsent hsend
        exact ⟨hknown hconn, .inr ⟨size, payload, hposted⟩⟩
    · exact (hold hbefore).mono (List.Subset.trans hpipe hqueue)

theorem Heeded.carried_step (h : Heeded κ spec s) (hs : s.step κ spec a = some s')
    (c : ClientId) :
    (s'.sdk c).All fun _ gw => payloads gw.sent ≠ [] →
      Daemon.Carried κ spec s'.daemon.router (s'.sdk c).router.clientPipe ⟨gw.endpoint, c⟩ := by
  have hknown := h.known_step hs c
  cases sdk_seen hs c with
  | still same =>
    rw [same]
    intro id x hx
    obtain ⟨gw, hg, hold⟩ := h.carried c id x hx
    exact ⟨gw, hg, fun hsent => (daemon_seen hs).carried h.inv.daemon (hold hsent)⟩
  | acts a own few step daemon =>
    rw [daemon] at hknown ⊢
    exact h.carried_acts own step hknown
  | sends queue taken same =>
    rw [same]
    intro id x hx
    obtain ⟨gw, hg, hold⟩ := h.carried c id x hx
    refine ⟨gw, hg, fun hsent => ?_⟩
    have hqueued := hold hsent
    rw [queue] at hqueued
    exact hqueued.taken h.inv.daemon taken
  | @hears message rest order queue step daemon =>
    have hrouter := (h.inv.sdk c).router_message step
    obtain ⟨reply, hp, hr⟩ := ClientRouter.step_eq_some.mp hrouter
    intro id x' hx'
    obtain ⟨gw', hg', hfresh | ⟨x, gw, hx, hg, hch, -⟩⟩ := ((h.inv.sdk c).step step).2 id x' hx'
    · refine ⟨gw', hg', fun hsent => absurd ?_ hsent⟩
      simp [GatewayImpl.sent, hfresh.posts, payloads]
    · refine ⟨gw', hg', fun hsent => ?_⟩
      obtain ⟨gw₀, hg₀, hold⟩ := h.carried c id x hx
      cases hg.symm.trans hg₀
      obtain ⟨gw₁, hg₁, hframed⟩ := ClientRouter.framed hp (fun hc => by cases hc) hg
      rw [hr, ← hch] at hg₁
      cases hg'.symm.trans hg₁
      have hend : gw'.endpoint = gw.endpoint := by
        rw [((h.inv.sdk c).step step).1.wf.tags _ _ hg', (h.inv.sdk c).wf.tags _ _ hg, hch]
      rw [hend]
      exact (daemon_seen hs).carried h.inv.daemon
        ((hold (hframed.sent ▸ hsent)).mono (ClientRouter.clientPipe_step hrouter).subset)

theorem Heeded.step (h : Heeded κ spec s) (hs : s.step κ spec a = some s') :
    Heeded κ spec s' where
  inv := h.inv.step hs
  attentive := fun c => (sdk_seen hs c).attentive (h.attentive c)
  informed := h.informed_step (h.inv.step hs) hs
  known := h.known_step hs
  answers := fun c => (daemon_seen hs).answers (h.answers c)
  carried := h.carried_step hs

theorem Reachable.heeded (h : Reachable κ spec s) : Heeded κ spec s :=
  Runs.Reachable.invariant h (heeded_init κ spec) fun hi hs => hi.step hs

end System

end Ocvsmd.Svc
