import Ocvsmd.ExecCmdService
import Ocvsmd.Partners
import Ocvsmd.ServerEvents

/-!
The daemon: a server router with the exec-command service registered, over any pipe and
any Cyphal network. The executor runs one event at a time, either of the pipe or of a
promise, and the state machines act inside the calls that the router makes.
-/

set_option autoImplicit false

namespace Ocvsmd.Svc

open Ipc
open FifoSession (payloads)

structure Daemon where
  router : ServerRouter
  service : ExecCmdService

/-- The presentation answers if the event starts a request. The last `Int32` is the code
that the pipe returns if the channel of a state machine says goodbye. -/
inductive DaemonAction where
  | router : ServerAction → Presentation → Int32 → DaemonAction
  | resolve : Nat → NodeId → PromiseResult → Int32 → Int32 → DaemonAction

namespace Daemon

def init (spec : ExecCmdSpec) : Daemon where
  router := ({} : ServerRouter).registerChannelFactory spec.serviceId (ExecCmdService.input spec)
  service := {}

def dispatch (spec : ExecCmdSpec) (p : Presentation) (outcome : Int32) (s : ExecCmdService) :
    Option Call → Option (ExecCmdService × List ServerAction)
  | some (.newChannel g _ payload) =>
    (spec.deserializeRequest payload).bind fun request => s.newChannel spec p g request outcome
  | some (.event g e) => s.handleEvent g e outcome
  | none => some (s, [])

def follow (κ : RouteCodec) (r : ServerRouter) (x : ExecCmdService × List ServerAction) :
    Option Daemon :=
  (Runs.run (ServerRouter.step κ) r x.2).map fun r => ⟨r, x.1⟩

def step (κ : RouteCodec) (spec : ExecCmdSpec) (d : Daemon) : DaemonAction → Option Daemon
  | .router a p outcome =>
    if a.isIncoming then
      (d.router.perform κ a).bind fun reply =>
        (dispatch spec p outcome d.service reply.call).bind (follow κ reply.router)
    else none
  | .resolve id nodeId result sendOutcome outcome =>
    if d.router.idle then
      (d.service.resolve spec id nodeId result sendOutcome outcome).bind (follow κ d.router)
    else none

def Reachable (κ : RouteCodec) (spec : ExecCmdSpec) (d : Daemon) : Prop :=
  Runs.Reachable (step κ spec) (init spec) d

/-- A state machine and the gateway of its channel. -/
structure Told (spec : ExecCmdSpec) (fsm : Fsm) (gw : GatewayImpl Endpoint) : Prop where
  alive : gw.alive = fsm.released.isNone
  handler : fsm.released = none → gw.eventHandler = some (ExecCmdService.input spec)
  request : ∃ payload rest, gw.got = .msg 0 payload :: rest ∧
    spec.deserializeRequest payload = some fsm.request
  answers : payloads gw.offered = fsm.responses.map spec.serializeResponse
  completion : ∀ e, .fin e ∈ gw.offered → fsm.released = some e
  refusal : ∀ n e, CyphalCall.refused n e ∈ fsm.calls → .fin e ∈ gw.offered

/-- A gateway that was dropped because its first message made no sense. -/
structure Orphan (spec : ExecCmdSpec) (gw : GatewayImpl Endpoint) : Prop where
  dead : gw.alive = false
  request : ∃ payload, gw.got = [.msg 0 payload] ∧ spec.deserializeRequest payload = none

structure Inv (spec : ExecCmdSpec) (d : Daemon) : Prop where
  wf : d.router.Wf
  factory : d.router.serviceIdToChannelFactory =
    Function.update (fun _ => none) spec.serviceId (some (ExecCmdService.input spec))
  fsms : ∀ (id : Nat) (fsm : Fsm), d.service.fsms[id]? = some fsm → fsm.Wf
  partners : Partners (Told spec) (Orphan spec) Fsm.channel d.service.fsms d.router.gateways
  registered : Each d.router.gateways fun g gw => gw.alive = true →
    d.router.lookup gw.endpoint = some g ∨ g ∈ d.router.remaining
  lost : ∀ g ∈ d.router.remaining, ∀ gw, d.router.gateways[g]? = some gw →
    d.router.lookup gw.endpoint = none

theorem inv_init (spec : ExecCmdSpec) : Inv spec (init spec) where
  wf := ServerRouter.wf_init.congr rfl fun _ _ h => h
  factory := rfl
  fsms := fun _ _ h => by simp [init] at h
  partners := Partners.nil
  registered := Each.nil
  lost := fun _ h => by simp [init, ServerRouter.registerChannelFactory] at h

theorem Told.hear {spec : ExecCmdSpec} {fsm : Fsm} {gw : GatewayImpl Endpoint}
    (h : Told spec fsm gw) (e : Event) : Told spec fsm (gw.hear e) where
  alive := h.alive
  handler := h.handler
  request := by
    obtain ⟨payload, rest, hgot, hd⟩ := h.request
    exact ⟨payload, rest ++ e.item.toList, by simp [hgot], hd⟩
  answers := h.answers
  completion := h.completion
  refusal := h.refusal

theorem payloads_append (l r : List Item) : payloads (l ++ r) = payloads l ++ payloads r :=
  List.filterMap_append

theorem Told.close {spec : ExecCmdSpec} {fsm fsm' : Fsm} {gw : GatewayImpl Endpoint}
    (h : Told spec fsm gw) (hr : fsm.released = none) {err : Int32} (hr' : fsm'.released = some err)
    (hq : fsm'.request = fsm.request) (ha : fsm'.responses = fsm.responses) (registered : Bool)
    (hc : ∀ n e, CyphalCall.refused n e ∈ fsm'.calls → registered = true ∧ e = err)
    (outcome : Int32) : Told spec fsm' (gw.closed registered err outcome) where
  alive := by rw [GatewayImpl.alive_closed, hr']; rfl
  handler := fun hn => by rw [hr'] at hn; cases hn
  request := by
    rw [GatewayImpl.got_closed, hq]
    exact h.request
  answers := by
    rw [GatewayImpl.offered_closed, payloads_append, h.answers, ha]
    cases registered <;> simp [payloads]
  completion := by
    intro e he
    rw [GatewayImpl.offered_closed] at he
    rcases List.mem_append.mp he with he | he
    · have hrel := h.completion e he
      rw [hr] at hrel
      cases hrel
    · cases registered
      · cases he
      · simp only [if_true, List.mem_singleton] at he
        cases he
        exact hr'
  refusal := by
    intro n e he
    obtain ⟨hreg, rfl⟩ := hc n e he
    rw [GatewayImpl.offered_closed, hreg]
    simp

theorem factory_run {κ : RouteCodec} {r r' : ServerRouter} {as : List ServerAction}
    (ha : ∀ a ∈ as, ∀ serviceId input, a ≠ .registerChannelFactory serviceId input)
    (h : Runs.run (ServerRouter.step κ) r as = some r') :
    r'.serviceIdToChannelFactory = r.serviceIdToChannelFactory := by
  induction as generalizing r with
  | nil => cases h; rfl
  | cons a as ih =>
    obtain ⟨m, hm, h⟩ := Runs.run_cons.mp h
    rw [ih (fun b hb => ha b (List.mem_cons_of_mem _ hb)) h,
      ServerRouter.factory_step hm (ha a List.mem_cons_self)]

theorem wf_run {κ : RouteCodec} {r r' : ServerRouter} {as : List ServerAction} (hw : r.Wf)
    (h : Runs.run (ServerRouter.step κ) r as = some r') : r'.Wf :=
  Runs.run_preserves (P := ServerRouter.Wf) (fun hw hs => hw.step hs) hw h

theorem not_orphan {spec : ExecCmdSpec} {gw : GatewayImpl Endpoint} (ha : gw.alive = true) :
    ¬ Orphan spec gw := fun h => by
  have hdead := h.dead
  rw [ha] at hdead
  cases hdead

theorem Inv.machine {spec : ExecCmdSpec} {d : Daemon} (h : Inv spec d) {g : GatewayId}
    {gw : GatewayImpl Endpoint} (hg : d.router.gateways[g]? = some gw) (ha : gw.alive = true) :
    ∃ id fsm, d.service.idToFsm id = some fsm ∧ fsm.channel = g ∧ Told spec fsm gw ∧
      d.service.handlerOf g = some id := by
  obtain ⟨id, fsm, hf, rfl, htold⟩ := h.partners.owner hg (not_orphan ha)
  have hr : fsm.released = none := by
    have halive := htold.alive
    rw [ha] at halive
    simpa using halive.symm
  have hid := ExecCmdService.idToFsm_eq_some.mpr ⟨hf, hr⟩
  exact ⟨id, fsm, hid, rfl, htold, ExecCmdService.handlerOf_eq hid fun i fsm' hi hc =>
    h.partners.one i id fsm' fsm hi hf hc⟩

theorem Inv.gateway {spec : ExecCmdSpec} {d : Daemon} (h : Inv spec d) {id : Nat} {fsm : Fsm}
    (hid : d.service.idToFsm id = some fsm) :
    ∃ gw, d.router.gateways[fsm.channel]? = some gw ∧ gw.alive = true ∧ Told spec fsm gw := by
  obtain ⟨hf, hr⟩ := ExecCmdService.idToFsm_eq_some.mp hid
  obtain ⟨gw, hg, htold⟩ := h.partners.has id fsm hf
  exact ⟨gw, hg, by rw [htold.alive, hr]; rfl, htold⟩

/-- Outside a loop, a gateway that is there is registered. -/
theorem Inv.registered_of_idle {spec : ExecCmdSpec} {d : Daemon} (h : Inv spec d)
    (hi : d.router.remaining = []) {g : GatewayId} {gw : GatewayImpl Endpoint}
    (hg : d.router.gateways[g]? = some gw) (ha : gw.alive = true) :
    d.router.lookup gw.endpoint = some g :=
  (h.registered g gw hg ha).resolve_right fun hmem => by
    rw [hi] at hmem
    cases hmem

theorem Inv.handles {spec : ExecCmdSpec} {d : Daemon} (h : Inv spec d) {g : GatewayId}
    {gw : GatewayImpl Endpoint} (hg : d.router.gateways[g]? = some gw) (ha : gw.alive = true)
    (errorCode : Int32) : gw.handles (.completed errorCode) = true := by
  obtain ⟨id, fsm, hid, _, htold, _⟩ := h.machine hg ha
  have hh := htold.handler (ExecCmdService.idToFsm_eq_some.mp hid).2
  simp [GatewayImpl.handles, GatewayImpl.eventCode, hh, Adapter.code]

theorem Inv.change {spec : ExecCmdSpec} {d : Daemon} (h : Inv spec d) {id : Nat} {fsm fsm' : Fsm}
    {gw gw' : GatewayImpl Endpoint} (hf : d.service.fsms[id]? = some fsm)
    (hg : d.router.gateways[fsm.channel]? = some gw) (hwf : fsm'.Wf)
    (hc : fsm'.channel = fsm.channel) (htold : Told spec fsm' gw')
    (he : gw'.endpoint = gw.endpoint) (ha : gw'.alive = true → gw.alive = true)
    {r : ServerRouter} (hw : r.Wf)
    (hfac : r.serviceIdToChannelFactory = d.router.serviceIdToChannelFactory)
    (hgs : r.gateways = d.router.gateways.modify fsm.channel fun _ => gw')
    (hl : ∀ ep, ep ≠ gw.endpoint → r.lookup ep = d.router.lookup ep)
    (hself : r.lookup gw.endpoint =
      if gw'.alive then d.router.lookup gw.endpoint else none)
    (hown : ∀ i, d.router.lookup gw.endpoint = some i → i = fsm.channel)
    (hturn : ∀ i ∈ d.router.remaining,
      i ∈ r.remaining ∨ i = fsm.channel ∧ gw'.alive = false)
    (hsub : ∀ i ∈ r.remaining, i ∈ d.router.remaining) :
    Inv spec ⟨r, { fsms := d.service.fsms.set id fsm' }⟩ := by
  have hlt : id < d.service.fsms.length := (List.getElem?_eq_some_iff.mp hf).1
  have hold : ∀ {i : GatewayId} {x : GatewayImpl Endpoint}, r.gateways[i]? = some x →
      i = fsm.channel ∧ x = gw' ∨ i ≠ fsm.channel ∧ d.router.gateways[i]? = some x := by
    intro i x hx
    rw [hgs] at hx
    by_cases hi : fsm.channel = i
    · subst hi
      simp only [List.getElem?_modify_eq, hg, Option.map_eq_map, Option.map_some,
        Option.some.injEq] at hx
      exact Or.inl ⟨rfl, hx.symm⟩
    · rw [List.getElem?_modify_ne _ _ hi] at hx
      exact Or.inr ⟨Ne.symm hi, hx⟩
  constructor
  · exact hw
  · exact hfac.trans h.factory
  · intro i x hx
    by_cases hi : id = i
    · subst hi
      simp only [List.getElem?_set_self hlt, Option.some.injEq] at hx
      exact hx ▸ hwf
    · exact h.fsms i x (by simpa [List.getElem?_set_ne hi] using hx)
  · simp only [hgs]
    exact h.partners.set hf hc fun _ _ _ => htold
  · intro i x hx hal
    rcases hold hx with ⟨rfl, rfl⟩ | ⟨hi, hx⟩
    · rcases h.registered _ gw hg (ha hal) with hreg | hmem
      · left
        simp only [he, hself, hal, if_true]
        exact hreg
      · refine Or.inr ((hturn _ hmem).resolve_right fun hdead => ?_)
        rw [hal] at hdead
        cases hdead.2
    · rcases h.registered i x hx hal with hreg | hmem
      · left
        simp only
        rw [hl _ fun heq => hi (hown i (by rw [← heq]; exact hreg))]
        exact hreg
      · exact Or.inr ((hturn i hmem).resolve_right fun hdead => hi hdead.1)
  · intro i hmem x hx
    have hnone : ∀ y, d.router.gateways[i]? = some y → r.lookup y.endpoint = none := by
      intro y hy
      have hlost := h.lost i (hsub i hmem) y hy
      by_cases hep : y.endpoint = gw.endpoint
      · rw [hep, hself, ← hep, hlost, ite_self]
      · rw [hl _ hep, hlost]
    rcases hold hx with ⟨rfl, rfl⟩ | ⟨_, hx⟩
    · simp only [he]
      exact hnone gw hg
    · exact hnone x hx

theorem Inv.cancel {κ : RouteCodec} {spec : ExecCmdSpec} {d : Daemon} (h : Inv spec d)
    {g : GatewayId} {gw : GatewayImpl Endpoint} (hg : d.router.gateways[g]? = some gw)
    (ha : gw.alive = true) {r : ServerRouter} (hw : r.Wf)
    (hfac : r.serviceIdToChannelFactory = d.router.serviceIdToChannelFactory) {errorCode : Int32}
    (hgs : r.gateways = d.router.gateways.modify g (·.hear (.completed errorCode)))
    (hl : ∀ ep, ep ≠ gw.endpoint → r.lookup ep = d.router.lookup ep)
    (hrem : ∀ i ∈ d.router.remaining, i = g ∨ i ∈ r.remaining)
    (hsub : ∀ i ∈ r.remaining, i ∈ d.router.remaining)
    (hown : ∀ i, d.router.lookup gw.endpoint = some i → i = g) (outcome : Int32) :
    ∃ x r', d.service.handleEvent g (.completed errorCode) outcome = some x ∧
      Runs.run (ServerRouter.step κ) r x.2 = some r' ∧ Inv spec ⟨r', x.1⟩ := by
  obtain ⟨id, fsm, hid, rfl, htold, hhandler⟩ := h.machine hg ha
  obtain ⟨hf, hr⟩ := ExecCmdService.idToFsm_eq_some.mp hid
  have hwf := h.fsms id fsm hf
  have hg1 : r.gateways[fsm.channel]? = some (gw.hear (.completed errorCode)) := by
    simp [hgs, hg]
  have ho1 : (gw.hear (.completed errorCode)).owned = true := by
    rw [hw.owned _ _ hg1]
    exact ha
  obtain ⟨r', hrun, hl', hrem', hgs'⟩ := ServerRouter.run_close (κ := κ) hg1 ho1 ECANCELED outcome
  have hep : (gw.hear (.completed errorCode)).endpoint = gw.endpoint := rfl
  rw [hep] at hl' hgs'
  refine ⟨({ fsms := d.service.fsms.set id (fsm.complete ECANCELED outcome).1 },
    (fsm.complete ECANCELED outcome).2), r', ?_, hrun, ?_⟩
  · simp only [ExecCmdService.handleEvent, hhandler, ExecCmdService.act_eq hid]
    rfl
  · refine h.change hf hg (hwf.complete hr (by decide) outcome) rfl
      ((htold.hear (.completed errorCode)).close hr
        (show (fsm.complete ECANCELED outcome).1.released = some ECANCELED from rfl) rfl rfl
        (r.lookup gw.endpoint).isSome (fun n e hc => absurd hc (hwf.not_refused hr n e)) outcome)
      (by simp [GatewayImpl.hear]) (by simp) (wf_run hw hrun)
      ((factory_run (by simp) hrun).trans hfac) ?_ (fun ep hne => ?_) ?_ hown (fun i hmem => ?_)
      fun i hmem => ?_
    · rw [hgs', hgs, List.modify_modify_eq]
      exact modify_const hg _
    · rw [hl', Function.update_of_ne hne, hl ep hne]
    · rw [hl']
      simp
    · rw [hrem']
      exact (hrem i hmem).symm.imp_right fun heq => ⟨heq, by simp⟩
    · rw [hrem'] at hmem
      exact hsub i hmem

theorem Inv.grow {spec : ExecCmdSpec} {d : Daemon} (h : Inv spec d)
    (hi : d.router.remaining = []) {r : ServerRouter} (hw : r.Wf)
    (hfac : r.serviceIdToChannelFactory = d.router.serviceIdToChannelFactory) {fsm : Fsm}
    {gw : GatewayImpl Endpoint} (hwf : fsm.Wf) (hc : fsm.channel = d.router.gateways.length)
    (htold : Told spec fsm gw) (hgs : r.gateways = d.router.gateways ++ [gw])
    (hnew : d.router.lookup gw.endpoint = none)
    (hl : ∀ ep, ep ≠ gw.endpoint → r.lookup ep = d.router.lookup ep)
    (hself : gw.alive = true → r.lookup gw.endpoint = some d.router.gateways.length)
    (hrem : r.remaining = []) : Inv spec ⟨r, { fsms := d.service.fsms ++ [fsm] }⟩ where
  wf := hw
  factory := hfac.trans h.factory
  fsms := by
    intro id x hx
    rcases Partners.concat_cases hx with hx | ⟨_, rfl⟩
    · exact h.fsms id x hx
    · exact hwf
  partners := by
    simp only [hgs]
    exact h.partners.append hc htold
  registered := by
    intro i x hx hal
    left
    simp only [hgs] at hx
    rcases Partners.concat_cases hx with hx | ⟨rfl, rfl⟩
    · have hreg : d.router.lookup x.endpoint = some i :=
        h.registered_of_idle hi hx hal
      have hne : x.endpoint ≠ gw.endpoint := fun he => by
        rw [he, hnew] at hreg
        cases hreg
      exact (hl _ hne).trans hreg
    · exact hself hal
  lost := fun i hmem => by
    simp only [hrem] at hmem
    cases hmem

theorem Inv.opened {κ : RouteCodec} {spec : ExecCmdSpec} {d : Daemon} (h : Inv spec d)
    {r : ServerRouter} (hw : r.Wf)
    (hfac : r.serviceIdToChannelFactory = d.router.serviceIdToChannelFactory) {ep : Endpoint}
    {payload : Bytes} {request : Request}
    (hreq : spec.deserializeRequest payload = some request)
    (hnew : d.router.lookup ep = none)
    (hgs : r.gateways =
      d.router.gateways ++ [{ endpoint := ep, events := [.message 0 payload] }])
    (hl : r.lookup = Function.update d.router.lookup ep (some d.router.gateways.length))
    (hi : d.router.remaining = []) (hrem : r.remaining = []) {p : Presentation}
    {outcome : Int32} {x : ExecCmdService × List ServerAction}
    (hx : d.service.newChannel spec p d.router.gateways.length request outcome = some x) :
    ∃ r', Runs.run (ServerRouter.step κ) r x.2 = some r' ∧ Inv spec ⟨r', x.1⟩ := by
  obtain ⟨⟨_, hperm⟩, rfl⟩ := ExecCmdService.newChannel_eq_some.mp hx
  let g := d.router.gateways.length
  let gw : GatewayImpl Endpoint := { endpoint := ep, events := [.message 0 payload] }
  let heard := (gw.subscribe (some (ExecCmdService.input spec))).hear .connected
  let fresh : Fsm := { channel := g, request := request }
  have hr : fresh.released = none := rfl
  have hwf : (fresh.start p outcome).1.Wf := Fsm.wf_start rfl rfl rfl hperm outcome
  obtain ⟨hc, hq, hresp, hacts⟩ := Fsm.start_keeps hr p outcome
  have hgw : r.gateways[g]? = some gw := by simp [hgs, g, gw]
  have hlg : r.lookup gw.endpoint = some g := by rw [hl]; exact Function.update_self _ _ _
  obtain ⟨r1, hsub, hl1, hrem1, hgs1⟩ := ServerRouter.step_subscribe (κ := κ) hgw rfl rfl hlg
    (some (ExecCmdService.input spec))
  have hgs1 : r1.gateways = d.router.gateways ++ [heard] := by
    rw [hgs1, hgs]
    exact modify_concat _ _ _
  have hfac1 := (ServerRouter.factory_step hsub (by simp)).trans hfac
  have hother : ∀ e, e ≠ ep → r1.lookup e = d.router.lookup e := fun e he => by
    rw [hl1, hl, Function.update_of_ne he]
  have htold : Told spec fresh heard := {
    alive := rfl
    handler := fun _ => rfl
    request := ⟨payload, [], rfl, hreq⟩
    answers := rfl
    completion := fun e he => by cases he
    refusal := fun n e he => by cases he }
  cases hrel : (fresh.start p outcome).1.released with
  | none =>
    have hnil : (fresh.start p outcome).2 = [] := by
      rw [hacts, Fsm.goodbye, hrel]
    refine ⟨r1, Runs.run_cons.mpr ⟨r1, hsub, by rw [hnil]; rfl⟩, ?_⟩
    refine h.grow hi (hw.step hsub) hfac1 hwf hc ?_ hgs1 hnew hother
      (fun _ => by rw [hl1]; exact hlg) (hrem1.trans hrem)
    exact {
      alive := by rw [hrel]; rfl
      handler := fun _ => rfl
      request := by rw [hq]; exact htold.request
      answers := by rw [hresp]; rfl
      completion := fun e he => by cases he
      refusal := fun n e he => absurd he (hwf.not_refused hrel n e) }
  | some err =>
    have hbye : (fresh.start p outcome).2 = [.complete g err, .release g outcome] := by
      rw [hacts, Fsm.goodbye, hrel, hc]
    have hg1 : r1.gateways[g]? = some heard := by simp [hgs1, g]
    obtain ⟨r2, hrun, hl2, hrem2, hgs2⟩ := ServerRouter.run_close (κ := κ) hg1 rfl err outcome
    have hreg : (r1.lookup heard.endpoint).isSome = true := by
      rw [hl1]
      exact Option.isSome_iff_exists.mpr ⟨g, hlg⟩
    have hgs2 : r2.gateways = d.router.gateways ++ [heard.closed true err outcome] := by
      rw [hgs2, hgs1, hreg]
      exact modify_concat _ _ _
    refine ⟨r2, Runs.run_cons.mpr ⟨r1, hsub, by rw [hbye]; exact hrun⟩, ?_⟩
    refine h.grow hi (wf_run (hw.step hsub) hrun) ((factory_run (by simp) hrun).trans hfac1)
      hwf hc ?_ hgs2 hnew (fun e he => ?_) (fun hal => ?_) (hrem2.trans (hrem1.trans hrem))
    · exact htold.close hr hrel hq hresp true (fun n e he => ⟨rfl, hwf.refusal_eq hrel he⟩) outcome
    · rw [hl2]
      exact (Function.update_of_ne he _ _).trans (hother e he)
    · simp at hal

theorem Inv.still {spec : ExecCmdSpec} {d : Daemon} (h : Inv spec d) {r : ServerRouter}
    (hw : r.Wf) (hfac : r.serviceIdToChannelFactory = d.router.serviceIdToChannelFactory)
    (hgs : r.gateways = d.router.gateways) (hl : r.lookup = d.router.lookup)
    (hturn : ∀ g ∈ d.router.remaining,
      g ∈ r.remaining ∨ isAlive d.router.gateways g = false)
    (hrem : ∀ g ∈ r.remaining, g ∈ d.router.remaining) : Inv spec ⟨r, d.service⟩ where
  wf := hw
  factory := hfac.trans h.factory
  fsms := h.fsms
  partners := by simpa only [hgs] using h.partners
  registered := by
    intro g gw hg hal
    simp only [hgs] at hg
    rcases h.registered g gw hg hal with hreg | hmem
    · exact Or.inl (by simpa only [hl] using hreg)
    · refine Or.inr ((hturn g hmem).resolve_right fun hdead => ?_)
      rw [isAlive_iff.mpr ⟨gw, hg, hal⟩] at hdead
      cases hdead
  lost := by
    intro g hmem gw hg
    simp only [hgs, hl] at hg ⊢
    exact h.lost g (hrem g hmem) gw hg

theorem Inv.heard {spec : ExecCmdSpec} {d : Daemon} (h : Inv spec d) {r : ServerRouter}
    (hw : r.Wf) (hfac : r.serviceIdToChannelFactory = d.router.serviceIdToChannelFactory)
    {g : GatewayId} {gw : GatewayImpl Endpoint} (hg : d.router.gateways[g]? = some gw)
    (hal : gw.alive = true) {e : Event} (hgs : r.gateways = d.router.gateways.modify g (·.hear e))
    (hl : r.lookup = d.router.lookup) (hi : d.router.remaining = []) (hrem : r.remaining = []) :
    Inv spec ⟨r, d.service⟩ := by
  obtain ⟨id, fsm, hid, rfl, htold, _⟩ := h.machine hg hal
  obtain ⟨hf, _⟩ := ExecCmdService.idToFsm_eq_some.mp hid
  have hsame : d.service.fsms.set id fsm = d.service.fsms := by
    obtain ⟨hlt, rfl⟩ := List.getElem?_eq_some_iff.mp hf
    simp
  have hreg := h.registered_of_idle hi hg hal
  have hchange := h.change hf hg (h.fsms id fsm hf) rfl (htold.hear e) rfl (fun _ => hal) hw hfac
    (by rw [hgs]; exact modify_const hg _) (fun ep _ => by rw [hl])
    (by rw [hl]; exact (if_pos hal).symm)
    (fun i hl' => by rw [hreg] at hl'; exact (Option.some.inj hl').symm)
    (fun i hmem => by rw [hi] at hmem; cases hmem) (fun i hmem => by rw [hrem] at hmem; cases hmem)
  rwa [hsame] at hchange

theorem handleEvent_message {s : ExecCmdService} {g : GatewayId} {sequence : UInt64}
    {payload : Bytes} {outcome : Int32} {x : ExecCmdService × List ServerAction}
    (h : s.handleEvent g (.message sequence payload) outcome = some x) : x = (s, []) := by
  unfold ExecCmdService.handleEvent at h
  split at h
  · next id _ =>
    obtain ⟨fsm, hid, rfl⟩ := Option.map_eq_some_iff.mp h
    obtain ⟨hf, _⟩ := ExecCmdService.idToFsm_eq_some.mp hid
    obtain ⟨hlt, rfl⟩ := List.getElem?_eq_some_iff.mp hf
    simp [Fsm.handleEvent]
  · cases h
    rfl

theorem Inv.dropped {spec : ExecCmdSpec} {d : Daemon} (h : Inv spec d) {r : ServerRouter}
    (hw : r.Wf) (hfac : r.serviceIdToChannelFactory = d.router.serviceIdToChannelFactory)
    {gw : GatewayImpl Endpoint} {serviceId : ServiceId} {input : Decoder} {payload : Bytes}
    (hf : d.router.serviceIdToChannelFactory serviceId = some input)
    (hinput : input payload = false) (hdead : gw.alive = false) (hgot : gw.got = [.msg 0 payload])
    (hgs : r.gateways = d.router.gateways ++ [gw]) (hl : r.lookup = d.router.lookup)
    (hi : d.router.remaining = []) (hrem : r.remaining = []) : Inv spec ⟨r, d.service⟩ where
  wf := hw
  factory := hfac.trans h.factory
  fsms := h.fsms
  partners := by
    simp only [hgs]
    have hrequest : input = ExecCmdService.input spec := by
      rw [h.factory] at hf
      by_cases hs : serviceId = spec.serviceId
      · subst hs
        simpa using hf.symm
      · simp [Function.update_of_ne hs] at hf
    refine h.partners.orphan_append ⟨hdead, payload, hgot, ?_⟩
    simpa [hrequest, ExecCmdService.input] using hinput
  registered := by
    intro i y hy hal
    simp only [hgs, hl] at hy ⊢
    rcases Partners.concat_cases hy with hy | ⟨_, rfl⟩
    · exact Or.inl (h.registered_of_idle hi hy hal)
    · rw [hdead] at hal
      cases hal
  lost := by
    intro i hmem
    simp only [hrem] at hmem
    cases hmem

theorem Inv.leave {spec : ExecCmdSpec} {d : Daemon} (h : Inv spec d) {r : ServerRouter}
    (hw : r.Wf) (hfac : r.serviceIdToChannelFactory = d.router.serviceIdToChannelFactory)
    {c : ClientId} (hgs : r.gateways = d.router.gateways)
    (hl : ∀ ep, r.lookup ep = if ep.clientId = c then none else d.router.lookup ep)
    (hi : d.router.remaining = [])
    (hrem : ∀ g, g ∈ r.remaining ↔ ∃ t, d.router.lookup ⟨t, c⟩ = some g) :
    Inv spec ⟨r, d.service⟩ where
  wf := hw
  factory := hfac.trans h.factory
  fsms := h.fsms
  partners := by simpa only [hgs] using h.partners
  registered := by
    intro g gw hg hal
    simp only [hgs, hl] at hg ⊢
    have hreg := h.registered_of_idle hi hg hal
    by_cases hc : gw.endpoint.clientId = c
    · exact Or.inr ((hrem g).mpr ⟨gw.endpoint.tag, by subst hc; exact hreg⟩)
    · exact Or.inl (by rw [if_neg hc]; exact hreg)
  lost := by
    intro g hmem gw hg
    simp only [hgs, hl] at hg ⊢
    obtain ⟨t, ht⟩ := (hrem g).mp hmem
    obtain ⟨gw', hg', he, _⟩ := h.wf.registry _ _ ht
    rw [hg] at hg'
    cases hg'
    rw [he]
    exact if_pos rfl

/-- Whatever comes in, what the state machines ask of their channels can be done. -/
theorem Inv.incoming {κ : RouteCodec} {spec : ExecCmdSpec} {d : Daemon} (h : Inv spec d)
    {a : ServerAction} (ha : a.isIncoming = true) {reply : Reply ServerRouter}
    (hp : d.router.perform κ a = some reply) {p : Presentation} {outcome : Int32}
    {x : ExecCmdService × List ServerAction}
    (hx : dispatch spec p outcome d.service reply.call = some x) :
    ∃ r', Runs.run (ServerRouter.step κ) reply.router x.2 = some r' ∧ Inv spec ⟨r', x.1⟩ := by
  have hstep : d.router.step κ a = some reply.router :=
    ServerRouter.step_eq_some.mpr ⟨reply, hp, rfl⟩
  have hw := h.wf.step hstep
  have hfac := ServerRouter.factory_step hstep fun serviceId input he => by
    rw [he] at ha
    cases ha
  cases h.wf.handled ha hp with
  | quiet gateways lookup turns remaining call =>
    rw [call] at hx
    cases hx
    exact ⟨reply.router, rfl, h.still hw hfac gateways lookup turns remaining⟩
  | heard g gw sequence payload found registered gateways lookup idle remaining call =>
    have hal := h.wf.registry.alive registered found
    have hsame : x = (d.service, []) := by
      rw [call] at hx
      split at hx
      · exact handleEvent_message hx
      · cases hx
        rfl
    subst hsame
    exact ⟨reply.router, rfl, h.heard hw hfac found hal gateways lookup idle remaining⟩
  | dropped gw serviceId input payload factory undecodable _ dead got gateways lookup idle
      remaining call =>
    rw [call] at hx
    cases hx
    exact ⟨reply.router, rfl, h.dropped hw hfac factory undecodable dead got gateways lookup idle
      remaining⟩
  | opened ep serviceId input payload factory decodable unregistered gateways lookup idle
      remaining call =>
    rw [call] at hx
    obtain ⟨request, hreq, hx⟩ := Option.bind_eq_some_iff.mp hx
    exact h.opened hw hfac hreq unregistered gateways lookup idle remaining hx
  | ended g gw errorCode found registered gateways lookup idle remaining call =>
    have hal := h.wf.registry.alive registered found
    obtain ⟨x', r', hevent, hrun, hinv⟩ := h.cancel (κ := κ) found hal hw hfac gateways
      (fun ep he => by rw [lookup, Function.update_of_ne he])
      (fun i hmem => by rw [idle] at hmem; cases hmem)
      (fun i hmem => by rw [remaining] at hmem; cases hmem)
      (fun i hl => by rw [registered] at hl; exact (Option.some.inj hl).symm) outcome
    rw [call, if_pos (h.handles found hal errorCode), dispatch, hevent] at hx
    cases hx
    exact ⟨r', hrun, hinv⟩
  | lost c gateways lookup idle remaining call =>
    rw [call] at hx
    cases hx
    exact ⟨reply.router, rfl, h.leave hw hfac gateways lookup idle remaining⟩
  | turn g gw found alive gateways lookup remaining call =>
    have hlost := h.lost g (by rw [remaining]; exact List.mem_cons_self) gw found
    obtain ⟨x', r', hevent, hrun, hinv⟩ := h.cancel (κ := κ) found alive hw hfac
      gateways (fun ep _ => by rw [lookup])
      (fun i hmem => by rw [remaining] at hmem; exact List.mem_cons.mp hmem)
      (fun i hmem => by rw [remaining]; exact List.mem_cons_of_mem _ hmem)
      (fun i hl => by rw [hlost] at hl; cases hl) outcome
    rw [call, if_pos (h.handles found alive _), dispatch, hevent] at hx
    cases hx
    exact ⟨r', hrun, hinv⟩

structure Answered (spec : ExecCmdSpec) (responses : List Response)
    (gw gw' : GatewayImpl Endpoint) : Prop where
  endpoint : gw'.endpoint = gw.endpoint
  alive : gw'.alive = gw.alive
  owned : gw'.owned = gw.owned
  handler : gw'.eventHandler = gw.eventHandler
  got : gw'.got = gw.got
  answers : payloads gw'.offered =
    payloads gw.offered ++ responses.map spec.serializeResponse
  completion : ∀ e, .fin e ∈ gw'.offered ↔ .fin e ∈ gw.offered

theorem run_respond {κ : RouteCodec} (spec : ExecCmdSpec) {r : ServerRouter} {fsm : Fsm}
    {gw : GatewayImpl Endpoint} (hg : r.gateways[fsm.channel]? = some gw)
    (ho : gw.owned = true) (hl : (r.lookup gw.endpoint).isSome = true) (nodeId : NodeId)
    (result : PromiseResult) (outcome : Int32) :
    ∃ r' gw', Runs.run (ServerRouter.step κ) r (fsm.respond spec nodeId result outcome) = some r' ∧
      r'.lookup = r.lookup ∧ r'.remaining = r.remaining ∧
      r'.gateways = r.gateways.modify fsm.channel (fun _ => gw') ∧
      Answered spec (Fsm.answer nodeId result) gw gw' := by
  cases result with
  | error failure =>
    refine ⟨r, gw, rfl, rfl, rfl, ?_, rfl, rfl, rfl, rfl, rfl, by simp [Fsm.answer],
      fun _ => Iff.rfl⟩
    have hid := modify_const hg id
    rw [List.modify_id] at hid
    exact hid
  | ok response =>
    obtain ⟨r', hs, hl', hrem', hgs'⟩ := ServerRouter.step_send (κ := κ) hg ho hl spec.serviceId
      (spec.serializeResponse ⟨nodeId, response⟩) outcome
    refine ⟨r', gw.advance.post (.msg gw.nextSequence.toNat
      (spec.serializeResponse ⟨nodeId, response⟩)) outcome, Runs.run_one.mpr hs, hl', hrem', ?_, ?_⟩
    · rw [hgs']
      exact modify_const hg _
    · refine ⟨rfl, rfl, rfl, rfl, rfl, ?_, fun e => ?_⟩
      · simp [GatewayImpl.offered, GatewayImpl.post, GatewayImpl.advance, Fsm.answer, payloads]
      · simp [GatewayImpl.offered, GatewayImpl.post, GatewayImpl.advance]

theorem Told.answered {spec : ExecCmdSpec} {fsm fsm' : Fsm} {gw gw' : GatewayImpl Endpoint}
    {responses : List Response} (h : Told spec fsm gw) (ha : Answered spec responses gw gw')
    (hr : fsm'.released = fsm.released) (hq : fsm'.request = fsm.request)
    (hresp : fsm'.responses = fsm.responses ++ responses)
    (hc : ∀ n e, CyphalCall.refused n e ∈ fsm'.calls → CyphalCall.refused n e ∈ fsm.calls) :
    Told spec fsm' gw' where
  alive := by rw [ha.alive, hr]; exact h.alive
  handler := fun hn => by rw [ha.handler]; exact h.handler (hr ▸ hn)
  request := by rw [ha.got, hq]; exact h.request
  answers := by rw [ha.answers, h.answers, hresp, List.map_append]
  completion := fun e he => by rw [hr]; exact h.completion e ((ha.completion e).mp he)
  refusal := fun n e he => (ha.completion e).mpr (h.refusal n e (hc n e he))

theorem Inv.resolve {κ : RouteCodec} {spec : ExecCmdSpec} {d : Daemon} (h : Inv spec d)
    (hi : d.router.remaining = []) {id : Nat} {nodeId : NodeId} {result : PromiseResult}
    {sendOutcome outcome : Int32} {x : ExecCmdService × List ServerAction}
    (hx : d.service.resolve spec id nodeId result sendOutcome outcome = some x) :
    ∃ r', Runs.run (ServerRouter.step κ) d.router x.2 = some r' ∧ Inv spec ⟨r', x.1⟩ := by
  unfold ExecCmdService.resolve at hx
  split at hx
  · next hpending =>
    obtain ⟨fsm, hid, rfl⟩ := Option.map_eq_some_iff.mp hx
    obtain ⟨hf, hr⟩ := ExecCmdService.idToFsm_eq_some.mp hid
    obtain ⟨gw, hg, hal, htold⟩ := h.gateway hid
    have hnode : nodeId ∈ fsm.nodeIdToOp := by simpa [hid] using hpending
    have hreg := h.registered_of_idle hi hg hal
    have hwf := Fsm.wf_resolve (h.fsms id fsm hf) hr hnode spec result sendOutcome outcome
    obtain ⟨hc, hq, hresp, hacts⟩ := Fsm.resolve_keeps hr spec nodeId result sendOutcome outcome
    obtain ⟨r1, gw1, hrun1, hl1, hrem1, hgs1, hans⟩ := run_respond (κ := κ) spec hg
      (by rw [h.wf.owned _ _ hg]; exact hal) (by rw [hreg]; rfl) nodeId result sendOutcome
    have hown : ∀ i, d.router.lookup gw.endpoint = some i → i = fsm.channel := fun i hl => by
      rw [hreg] at hl
      exact (Option.some.inj hl).symm
    have hturn : ∀ i ∈ d.router.remaining, ∀ P : Prop, P := fun i hmem => by
      rw [hi] at hmem
      cases hmem
    have hfac1 := factory_run (by cases result <;> simp [Fsm.respond]) hrun1
    have hw1 := wf_run h.wf hrun1
    have hal1 : gw1.alive = true := by rw [hans.alive]; exact hal
    simp only [hacts]
    cases hrel : (fsm.resolve spec nodeId result sendOutcome outcome).1.released with
    | none =>
      refine ⟨r1, by simpa [Fsm.goodbye, hrel] using hrun1, ?_⟩
      exact h.change hf hg hwf hc (htold.answered hans (hrel.trans hr.symm) hq hresp
          fun n e he => absurd he (hwf.not_refused hrel n e))
        hans.endpoint (fun _ => hal) hw1 hfac1 hgs1 (fun ep _ => by rw [hl1])
        (by rw [hl1, if_pos hal1]) hown (fun i hmem => hturn i hmem _)
        fun i hmem => by rwa [hrem1] at hmem
    | some err =>
      have hg1 : r1.gateways[fsm.channel]? = some gw1 := by simp [hgs1, hg]
      obtain ⟨r2, hrun2, hl2, hrem2, hgs2⟩ := ServerRouter.run_close (κ := κ) hg1
        (by rw [hw1.owned _ _ hg1]; exact hal1) err outcome
      have hreg1 : (r1.lookup gw1.endpoint).isSome = true := by
        rw [hl1, hans.endpoint, hreg]
        rfl
      rw [hans.endpoint] at hl2
      rw [hreg1] at hgs2
      have hmid : Told spec { fsm with calls := fsm.calls ++ [.resolved nodeId result] } gw1 :=
        htold.answered hans rfl rfl (by cases result <;>
          simp [Fsm.responses, Fsm.resolutions, Fsm.answer]) (by simp)
      refine ⟨r2, Runs.run_append.mpr ⟨r1, hrun1, by simpa [Fsm.goodbye, hrel, hc] using hrun2⟩, ?_⟩
      refine h.change hf hg hwf hc
        (hmid.close hr hrel hq ?_ true (fun n e he => ⟨rfl, hwf.refusal_eq hrel he⟩) outcome)
        (by simp [hans.endpoint]) (fun hal2 => by simp at hal2) (wf_run hw1 hrun2)
        ((factory_run (by simp) hrun2).trans hfac1) ?_ (fun ep hne => ?_) ?_ hown
        (fun i hmem => hturn i hmem _) fun i hmem => by rwa [hrem2, hrem1] at hmem
      · rw [hresp]
        cases result <;> simp [Fsm.responses, Fsm.resolutions, Fsm.answer]
      · rw [hgs2, hgs1, List.modify_modify_eq]
        rfl
      · rw [hl2, Function.update_of_ne hne, hl1]
      · rw [hl2]
        simp
  · cases hx

theorem step_cases {κ : RouteCodec} {spec : ExecCmdSpec} {d d' : Daemon} {a : DaemonAction}
    (hs : d.step κ spec a = some d') :
    (∃ b p outcome reply x, a = .router b p outcome ∧ b.isIncoming = true ∧
      d.router.perform κ b = some reply ∧ dispatch spec p outcome d.service reply.call = some x ∧
      Runs.run (ServerRouter.step κ) reply.router x.2 = some d'.router ∧ d'.service = x.1) ∨
    (∃ id nodeId result sendOutcome outcome x, a = .resolve id nodeId result sendOutcome outcome ∧
      d.router.idle = true ∧
      d.service.resolve spec id nodeId result sendOutcome outcome = some x ∧
      Runs.run (ServerRouter.step κ) d.router x.2 = some d'.router ∧ d'.service = x.1) := by
  cases a with
  | router b p outcome =>
    simp only [step] at hs
    split at hs
    · next hb =>
      obtain ⟨reply, hp, hs⟩ := Option.bind_eq_some_iff.mp hs
      obtain ⟨x, hx, hs⟩ := Option.bind_eq_some_iff.mp hs
      obtain ⟨r', hrun, rfl⟩ := Option.map_eq_some_iff.mp hs
      exact Or.inl ⟨b, p, outcome, reply, x, rfl, hb, hp, hx, hrun, rfl⟩
    · cases hs
  | resolve id nodeId result sendOutcome outcome =>
    simp only [step] at hs
    split at hs
    · next hidle =>
      obtain ⟨x, hx, hs⟩ := Option.bind_eq_some_iff.mp hs
      obtain ⟨r', hrun, rfl⟩ := Option.map_eq_some_iff.mp hs
      exact Or.inr ⟨id, nodeId, result, sendOutcome, outcome, x, rfl, hidle, hx, hrun, rfl⟩
    · cases hs

theorem Inv.step {κ : RouteCodec} {spec : ExecCmdSpec} {d d' : Daemon} {a : DaemonAction}
    (h : Inv spec d) (hs : d.step κ spec a = some d') : Inv spec d' := by
  obtain ⟨r, s⟩ := d'
  rcases step_cases hs with ⟨b, p, outcome, reply, x, _, hb, hp, hx, hrun, rfl⟩ |
    ⟨id, nodeId, result, sendOutcome, outcome, x, _, hidle, hx, hrun, rfl⟩
  · obtain ⟨r', hrun', hinv⟩ := h.incoming hb hp hx
    rw [hrun] at hrun'
    cases hrun'
    exact hinv
  · obtain ⟨r', hrun', hinv⟩ := h.resolve (κ := κ) (List.isEmpty_iff.mp hidle) hx
    rw [hrun] at hrun'
    cases hrun'
    exact hinv

theorem Reachable.inv {κ : RouteCodec} {spec : ExecCmdSpec} {d : Daemon}
    (h : Reachable κ spec d) : Inv spec d :=
  Runs.Reachable.invariant h (inv_init spec) fun hi hs => hi.step hs

/-- No event is refused because of what a state machine does about it. -/
theorem Reachable.takes {κ : RouteCodec} {spec : ExecCmdSpec} {d : Daemon}
    (h : Reachable κ spec d) :
    (∀ a p outcome reply x, a.isIncoming = true → d.router.perform κ a = some reply →
      dispatch spec p outcome d.service reply.call = some x →
      (d.step κ spec (.router a p outcome)).isSome = true) ∧
    (∀ id nodeId result sendOutcome outcome x, d.router.idle = true →
      d.service.resolve spec id nodeId result sendOutcome outcome = some x →
      (d.step κ spec (.resolve id nodeId result sendOutcome outcome)).isSome = true) := by
  constructor
  · intro a p outcome reply x ha hp hx
    obtain ⟨r', hrun, _⟩ := h.inv.incoming ha hp hx
    simp [step, ha, hp, hx, follow, hrun]
  · intro id nodeId result sendOutcome outcome x hi hx
    obtain ⟨r', hrun, _⟩ := h.inv.resolve (κ := κ) (List.isEmpty_iff.mp hi) hx
    simp [step, hi, hx, follow, hrun]

end Daemon

end Ocvsmd.Svc
