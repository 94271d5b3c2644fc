import Ocvsmd.Daemon

set_option autoImplicit false

namespace Ocvsmd.Ipc.ServerRouter

theorem own_step {κ : RouteCodec} {r r' : ServerRouter} {a : ServerAction}
    (ha : a.isIncoming = false) (hs : r.step κ a = some r') :
    r'.remaining = r.remaining ∧ ∀ ep, r.lookup ep = none → r'.lookup ep = none := by
  obtain ⟨reply, hp, rfl⟩ := step_eq_some.mp hs
  cases performs hp with
  | nothing code => exact ⟨rfl, fun _ h => h⟩
  | registers serviceId input => exact ⟨rfl, fun _ h => h⟩
  | sends serviceId payload outcome channel =>
    exact ⟨remaining_pipeSend _ _ _ _, fun _ h => by rwa [transmit, lookup_pipeSend]⟩
  | completes errorCode channel => exact ⟨rfl, fun _ h => h⟩
  | subscribes handler channel => exact ⟨rfl, fun _ h => h⟩
  | greets handler channel found =>
    exact ⟨remaining_raise _ _ _, fun _ h => by rw [lookup_raise]; exact h⟩
  | @destroys g gw outcome channel =>
    refine ⟨remaining_destroy κ r g gw outcome, fun ep h => ?_⟩
    simp only [lookup_destroy]
    by_cases he : ep = gw.endpoint
    · subst he
      exact Function.update_self _ _ _
    · rw [Function.update_of_ne he, h]
  | connects c outcome => cases ha
  | passes outcome => cases ha
  | opens outcome => cases ha
  | ends outcome => cases ha
  | loses idle => cases ha
  | notifies remaining alive => cases ha
  | skips remaining dead => cases ha

theorem own_run {κ : RouteCodec} {r r' : ServerRouter} {as : List ServerAction}
    (ha : ∀ a ∈ as, a.isIncoming = false)
    (h : Runs.run (step κ) r as = some r') :
    r'.remaining = r.remaining ∧ ∀ ep, r.lookup ep = none → r'.lookup ep = none := by
  induction as generalizing r with
  | nil => cases h; exact ⟨rfl, fun _ h => h⟩
  | cons a as ih =>
    obtain ⟨m, hm, h⟩ := Runs.run_cons.mp h
    obtain ⟨hrem, hlookup⟩ := own_step (ha a List.mem_cons_self) hm
    obtain ⟨hrem', hlookup'⟩ := ih (fun b hb => ha b (List.mem_cons_of_mem _ hb)) h
    exact ⟨hrem'.trans hrem, fun ep he => hlookup' ep (hlookup ep he)⟩

theorem own_run_unmapped {κ : RouteCodec} {r r' : ServerRouter} {as : List ServerAction}
    (ha : ∀ a ∈ as, a.isIncoming = false) {c : ClientId}
    (hc : r.clientIdToMapOfGateways c = none) (h : Runs.run (step κ) r as = some r') :
    r'.clientIdToMapOfGateways c = none := by
  induction as generalizing r with
  | nil => cases h; exact hc
  | cons a as ih =>
    obtain ⟨m, hm, h⟩ := Runs.run_cons.mp h
    refine ih (fun b hb => ha b (List.mem_cons_of_mem _ hb)) (unmapped_step hm hc ?_) h
    intro payload outcome he
    have hown := ha a List.mem_cons_self
    rw [he] at hown
    cases hown

theorem Wf.channelEnd {κ : RouteCodec} {r : ServerRouter} (h : r.Wf) {c : ClientId}
    {payload : Bytes} {outcome : Int32} {e : RouteChannelEnd} {reply : Reply ServerRouter}
    (hd : κ.deserialize payload = some (.channelEnd e))
    (hp : r.perform κ (.pipeMessage c payload outcome) = some reply) :
    reply.router.remaining = [] ∧ reply.router.lookup ⟨e.tag, c⟩ = none := by
  simp only [perform] at hp
  split at hp
  · next hidle =>
    have hi : r.remaining = [] := List.isEmpty_iff.mp hidle
    simp only [ServerRouter.handlePipeMessage, hd, Option.some.injEq] at hp
    subst hp
    unfold handleRouteChannelEnd
    split
    · next hm => exact ⟨hi, by simp [lookup, hm]⟩
    · next mapOfGws hm =>
      have hfound : r.findGateway ⟨e.tag, c⟩ = r.lookup ⟨e.tag, c⟩ := h.registry.lock _
      rw [hfound]
      split
      · refine ⟨(remaining_raise _ _ _).trans hi, ?_⟩
        rw [lookup_raise, lookup_erase ⟨e.tag, c⟩ hm]
        exact Function.update_self _ _ _
      · next hl => exact ⟨hi, hl⟩
  · cases hp

end Ocvsmd.Ipc.ServerRouter

namespace Ocvsmd.Svc

open Ipc

theorem Fsm.own_goodbye (fsm : Fsm) (outcome : Int32) :
    ∀ a ∈ fsm.goodbye outcome, a.isIncoming = false := by
  cases hr : fsm.released <;> simp [goodbye, hr, ServerAction.isIncoming, ServerAction.isPipeEvent]

namespace Daemon

/-- What a call of the router leads to: a subscription at most, and a goodbye at most. -/
theorem dispatch_actions {spec : ExecCmdSpec} {p : Presentation} {outcome : Int32}
    {s : ExecCmdService} {call : Option Call} {x : ExecCmdService × List ServerAction}
    (h : dispatch spec p outcome s call = some x) :
    x.2 = [] ∨ ∃ fsm : Fsm, x.2 = fsm.goodbye outcome ∨
      ∃ g, x.2 = .subscribe g (some (ExecCmdService.input spec)) :: fsm.goodbye outcome := by
  cases call with
  | none =>
    cases h
    exact Or.inl rfl
  | some call =>
    cases call with
    | event g e =>
      simp only [dispatch, ExecCmdService.handleEvent] at h
      split at h
      · obtain ⟨fsm, _, rfl⟩ := Option.map_eq_some_iff.mp h
        cases e with
        | completed errorCode => exact Or.inr ⟨(fsm.complete ECANCELED outcome).1, Or.inl rfl⟩
        | connected => exact Or.inl rfl
        | message sequence payload => exact Or.inl rfl
      · cases h
        exact Or.inl rfl
    | newChannel g serviceId payload =>
      obtain ⟨request, _, h⟩ := Option.bind_eq_some_iff.mp h
      obtain ⟨_, rfl⟩ := ExecCmdService.newChannel_eq_some.mp h
      have hr : ({ channel := g, request := request } : Fsm).released = none := rfl
      obtain ⟨_, _, _, hacts⟩ := Fsm.start_keeps hr p outcome
      exact Or.inr ⟨_, Or.inr ⟨g, by rw [hacts]⟩⟩

theorem own_dispatch {spec : ExecCmdSpec} {p : Presentation} {outcome : Int32}
    {s : ExecCmdService} {call : Option Call} {x : ExecCmdService × List ServerAction}
    (h : dispatch spec p outcome s call = some x) : ∀ a ∈ x.2, a.isIncoming = false := by
  intro a ha
  rcases dispatch_actions h with hx | ⟨fsm, hx | ⟨g, hx⟩⟩
  · rw [hx] at ha
    cases ha
  · rw [hx] at ha
    exact Fsm.own_goodbye fsm outcome a ha
  · rw [hx] at ha
    rcases List.mem_cons.mp ha with rfl | ha
    · rfl
    · exact Fsm.own_goodbye fsm outcome a ha

theorem resolve_actions {spec : ExecCmdSpec} {s : ExecCmdService} {id : Nat} {nodeId : NodeId}
    {result : PromiseResult} {sendOutcome outcome : Int32}
    {x : ExecCmdService × List ServerAction}
    (h : s.resolve spec id nodeId result sendOutcome outcome = some x) :
    ∃ fsm fsm' : Fsm, s.idToFsm id = some fsm ∧
      x.2 = fsm.respond spec nodeId result sendOutcome ++ fsm'.goodbye outcome := by
  unfold ExecCmdService.resolve at h
  split at h
  · obtain ⟨fsm, hid, rfl⟩ := Option.map_eq_some_iff.mp h
    obtain ⟨_, hr⟩ := ExecCmdService.idToFsm_eq_some.mp hid
    obtain ⟨_, _, _, hacts⟩ := Fsm.resolve_keeps hr spec nodeId result sendOutcome outcome
    exact ⟨fsm, _, hid, hacts⟩
  · cases h

theorem own_resolve {spec : ExecCmdSpec} {s : ExecCmdService} {id : Nat} {nodeId : NodeId}
    {result : PromiseResult} {sendOutcome outcome : Int32}
    {x : ExecCmdService × List ServerAction}
    (h : s.resolve spec id nodeId result sendOutcome outcome = some x) :
    ∀ a ∈ x.2, a.isIncoming = false := by
  obtain ⟨fsm, fsm', _, hacts⟩ := resolve_actions h
  intro a ha
  rw [hacts] at ha
  rcases List.mem_append.mp ha with ha | ha
  · cases result <;> simp [Fsm.respond] at ha
    subst ha
    rfl
  · exact Fsm.own_goodbye fsm' outcome a ha

def channelOf (d : Daemon) (id : Nat) : Option Endpoint :=
  (d.service.idToFsm id).bind fun fsm => (d.router.gateways[fsm.channel]?).map (·.endpoint)

structure OnePerChannel (d : Daemon) : Prop where
  channel : ∀ id fsm, d.service.idToFsm id = some fsm →
    ∃ ep, d.channelOf id = some ep ∧ d.router.isRegisteredGateway ep = true
  machine : ∀ ep, d.router.isRegisteredGateway ep = true → ∃! id, d.channelOf id = some ep
  pending : ∀ id fsm, d.service.idToFsm id = some fsm → fsm.nodeIdToOp.keys ≠ []

/-- No state machine of this channel is held, and none has anything pending. -/
def Rid (d : Daemon) (ep : Endpoint) : Prop :=
  ∀ (id : Nat) (fsm : Fsm) (gw : GatewayImpl Endpoint), d.service.fsms[id]? = some fsm →
    d.router.gateways[fsm.channel]? = some gw → gw.endpoint = ep →
    d.service.idToFsm id = none ∧ fsm.nodeIdToOp.keys = []

theorem Inv.onePerChannel {spec : ExecCmdSpec} {d : Daemon} (h : Inv spec d)
    (hi : d.router.idle = true) : d.OnePerChannel where
  channel := by
    intro id fsm hid
    obtain ⟨gw, hg, ha, _⟩ := h.gateway hid
    refine ⟨gw.endpoint, by simp [channelOf, hid, hg], ?_⟩
    simp [ServerRouter.isRegisteredGateway, h.registered_of_idle (List.isEmpty_iff.mp hi) hg ha]
  machine := by
    intro ep hreg
    obtain ⟨g, hl⟩ := Option.isSome_iff_exists.mp hreg
    obtain ⟨gw, hg, rfl, ha⟩ := h.wf.registry _ _ hl
    obtain ⟨id, fsm, hid, rfl, _, _⟩ := h.machine hg ha
    refine ⟨id, by simp [channelOf, hid, hg], fun id' hc => ?_⟩
    obtain ⟨fsm', hid', hc⟩ := Option.bind_eq_some_iff.mp hc
    obtain ⟨gw', hg', he⟩ := Option.map_eq_some_iff.mp hc
    obtain ⟨gw'', hg'', ha', _⟩ := h.gateway hid'
    rw [hg'] at hg''
    cases hg''
    have hl' := h.registered_of_idle (List.isEmpty_iff.mp hi) hg' ha'
    rw [he, hl] at hl'
    exact h.partners.one id' id fsm' fsm (ExecCmdService.idToFsm_eq_some.mp hid').1
      (ExecCmdService.idToFsm_eq_some.mp hid).1 (Option.some.inj hl').symm
  pending := by
    intro id fsm hid
    obtain ⟨hf, hr⟩ := ExecCmdService.idToFsm_eq_some.mp hid
    exact (h.fsms id fsm hf).waiting hr

/-- Between events a channel that is not registered has nothing left. -/
theorem Inv.rid {spec : ExecCmdSpec} {d : Daemon} (h : Inv spec d) (hi : d.router.idle = true)
    {ep : Endpoint} (hl : d.router.lookup ep = none) : d.Rid ep := by
  intro id fsm gw hf hg he
  have hreleased : fsm.released ≠ none := fun hr => by
    have hid := ExecCmdService.idToFsm_eq_some.mpr ⟨hf, hr⟩
    obtain ⟨gw', hg', ha, _⟩ := h.gateway hid
    rw [hg] at hg'
    cases hg'
    have hreg := h.registered_of_idle (List.isEmpty_iff.mp hi) hg ha
    rw [he, hl] at hreg
    cases hreg
  constructor
  · cases hid : d.service.idToFsm id with
    | none => rfl
    | some fsm' =>
      obtain ⟨hf', hr⟩ := ExecCmdService.idToFsm_eq_some.mp hid
      rw [hf] at hf'
      cases hf'
      exact absurd hr hreleased
  · refine List.eq_nil_iff_forall_not_mem.mpr fun n hn => ?_
    exact hreleased (((h.fsms id fsm hf).pending n).mp (AList.mem_keys.mpr hn)).1

theorem Inv.rid_of_channelEnd {κ : RouteCodec} {spec : ExecCmdSpec} {d d' : Daemon}
    (h : Inv spec d) {c : ClientId} {payload : Bytes} {outcome goodbyeOutcome : Int32}
    {e : RouteChannelEnd} {p : Presentation}
    (hd : κ.deserialize payload = some (.channelEnd e))
    (hs : d.step κ spec (.router (.pipeMessage c payload outcome) p goodbyeOutcome) = some d') :
    d'.Rid ⟨e.tag, c⟩ := by
  have h' := h.step hs
  rcases step_cases hs with ⟨b, p', outcome', reply, x, ha, _, hp, hx, hrun, _⟩ |
    ⟨_, _, _, _, _, _, ha, _⟩
  · cases ha
    obtain ⟨hrem, hl⟩ := h.wf.channelEnd hd hp
    obtain ⟨hrem', hl'⟩ := ServerRouter.own_run (own_dispatch hx) hrun
    exact h'.rid (List.isEmpty_iff.mpr (hrem'.trans hrem)) (hl' _ hl)
  · cases ha

theorem unmapped_step {κ : RouteCodec} {spec : ExecCmdSpec} {d d' : Daemon} {a : DaemonAction}
    {c : ClientId} (hc : d.router.clientIdToMapOfGateways c = none)
    (ha : ∀ payload outcome p o, a ≠ .router (.pipeMessage c payload outcome) p o)
    (hs : d.step κ spec a = some d') : d'.router.clientIdToMapOfGateways c = none := by
  rcases step_cases hs with ⟨b, p, outcome, reply, x, rfl, _, hp, hx, hrun, _⟩ |
    ⟨id, nodeId, result, sendOutcome, outcome, x, _, _, hx, hrun, _⟩
  · have hreply : reply.router.clientIdToMapOfGateways c = none :=
      ServerRouter.unmapped_step (ServerRouter.step_eq_some.mpr ⟨reply, hp, rfl⟩) hc
        fun payload outcome' he => ha payload outcome' p outcome (by rw [he])
    exact ServerRouter.own_run_unmapped (own_dispatch hx) hreply hrun
  · exact ServerRouter.own_run_unmapped (own_resolve hx) hc hrun

theorem unmapped_of_disconnected {κ : RouteCodec} {spec : ExecCmdSpec} {d d' : Daemon}
    {c : ClientId} {order : List GatewayId} {p : Presentation} {outcome : Int32}
    (hs : d.step κ spec (.router (.pipeDisconnected c order) p outcome) = some d') :
    d'.router.clientIdToMapOfGateways c = none := by
  rcases step_cases hs with ⟨b, p', outcome', reply, x, ha, _, hp, hx, hrun, _⟩ |
    ⟨_, _, _, _, _, _, ha, _⟩
  · cases ha
    refine ServerRouter.own_run_unmapped (own_dispatch hx) ?_ hrun
    simp only [ServerRouter.perform] at hp
    split at hp
    · cases hp
      unfold ServerRouter.handlePipeDisconnected
      split
      · simp [ServerRouter.setMap]
      · next hm => exact hm
    · cases hp
  · cases ha

/-- Between events the state machines and the registered channels are one to one, and each
state machine waits for a node. Neither an end nor a disconnection leaves one behind. -/
theorem machine_per_channel {κ : RouteCodec} {spec : ExecCmdSpec} {d : Daemon}
    (h : Reachable κ spec d) :
    (d.router.idle = true → d.OnePerChannel) ∧
    (∀ c payload outcome p o e d', κ.deserialize payload = some (.channelEnd e) →
      d.step κ spec (.router (.pipeMessage c payload outcome) p o) = some d' →
      d'.Rid ⟨e.tag, c⟩) ∧
    (∀ c order p o d₁ as d₂,
      d.step κ spec (.router (.pipeDisconnected c order) p o) = some d₁ →
      (∀ a ∈ as, ∀ payload outcome p o, a ≠ .router (.pipeMessage c payload outcome) p o) →
      Runs.run (step κ spec) d₁ as = some d₂ → d₂.router.idle = true →
      ∀ t, d₂.Rid ⟨t, c⟩) := by
  refine ⟨h.inv.onePerChannel, fun c payload outcome p o e d' hd hs =>
    h.inv.rid_of_channelEnd hd hs, ?_⟩
  intro c order p o d₁ as d₂ hs has hrun hi t
  have hunmapped : d₂.router.clientIdToMapOfGateways c = none := by
    have hc := unmapped_of_disconnected hs
    clear hs
    induction as generalizing d₁ with
    | nil => cases hrun; exact hc
    | cons a as ih =>
      obtain ⟨m, hm, hrun⟩ := Runs.run_cons.mp hrun
      exact ih m (fun b hb => has b (List.mem_cons_of_mem _ hb)) hrun
        (unmapped_step hc (has a List.mem_cons_self) hm)
  exact (Reachable.inv ((h.step hs).run hrun)).rid hi (by simp [ServerRouter.lookup, hunmapped])

/-- Nothing fails, and the set is iterated in this order. -/
def smooth (order : List NodeId) : Presentation := ⟨0, order, fun _ => none, fun _ => none⟩

def commandTo (nodeIds : List NodeId) : Bytes :=
  (Request.serialize ⟨1000000, nodeIds, ⟨65535, []⟩⟩).getD []

def opening (c : ClientId) (t : Tag) (nodeIds order : List NodeId) : DaemonAction :=
  .router (.pipeMessage c (cyphalCodec.serialize
    (.channelMsg ⟨t, 0, 7, UInt64.ofNat (commandTo nodeIds).length⟩) ++ commandTo nodeIds) 0)
    (smooth order) 0

def greeting (c : ClientId) : DaemonAction :=
  .router (.pipeMessage c (cyphalCodec.serialize (.connect ⟨currentVersion, 0⟩)) 0) (smooth []) 0

def busy : List DaemonAction :=
  [greeting 1, greeting 2, opening 1 0 [3, 4, 3, 9] [9, 3, 4], opening 2 0 [5] [5],
   .resolve 0 3 (.ok ⟨0, [1], by decide⟩) 0 0]

def busyDaemon : Daemon :=
  (Runs.run (step cyphalCodec (cyphalExecCmdSpec 7)) (init (cyphalExecCmdSpec 7)) busy).getD
    (init (cyphalExecCmdSpec 7))

theorem busy_reachable : Reachable cyphalCodec (cyphalExecCmdSpec 7) busyDaemon :=
  Runs.Reachable.getD (by decide +kernel)

def endOf (t : Tag) : Bytes := cyphalCodec.serialize (.channelEnd ⟨t, 0⟩)

theorem machine_per_channel_busy :
    busyDaemon.channelOf 0 = some ⟨0, 1⟩ ∧ busyDaemon.channelOf 1 = some ⟨0, 2⟩ ∧
    ((busyDaemon.service.idToFsm 0).map (·.nodeIdToOp.keys)) = some [4, 9] ∧
    busyDaemon.OnePerChannel ∧
    (∃ d, busyDaemon.step cyphalCodec (cyphalExecCmdSpec 7)
      (.router (.pipeMessage 1 (endOf 0) 0) (smooth []) 0) = some d ∧ d.Rid ⟨0, 1⟩) ∧
    (∃ d, Runs.run (step cyphalCodec (cyphalExecCmdSpec 7)) busyDaemon
      [.router (.pipeDisconnected 1 [0]) (smooth []) 0, .router .notifyNext (smooth []) 0] =
        some d ∧ d.Rid ⟨0, 1⟩) := by
  obtain ⟨hone, hend, hlost⟩ := machine_per_channel busy_reachable
  refine ⟨by decide +kernel, by decide +kernel, by decide +kernel, hone (by decide +kernel), ?_, ?_⟩
  · have hsome : (busyDaemon.step cyphalCodec (cyphalExecCmdSpec 7)
        (.router (.pipeMessage 1 (endOf 0) 0) (smooth []) 0)).isSome = true := by decide +kernel
    obtain ⟨d, hd⟩ := Option.isSome_iff_exists.mp hsome
    exact ⟨d, hd, hend 1 (endOf 0) 0 (smooth []) 0 ⟨0, 0⟩ d (by decide +kernel) hd⟩
  · have hidle : ((Runs.run (step cyphalCodec (cyphalExecCmdSpec 7)) busyDaemon
        [.router (.pipeDisconnected 1 [0]) (smooth []) 0,
          .router .notifyNext (smooth []) 0]).any (·.router.idle)) = true := by decide +kernel
    obtain ⟨d, hd, hi⟩ := (Option.any_eq_true _ _).mp hidle
    obtain ⟨m, hm, hrun⟩ := Runs.run_cons.mp hd
    exact ⟨d, hd, hlost 1 [0] (smooth []) 0 m [.router .notifyNext (smooth []) 0] d hm
      (by simp) hrun hi 0⟩

end Daemon

end Ocvsmd.Svc
