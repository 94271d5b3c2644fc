import Ocvsmd.ExecCmdService
import Ocvsmd.Runs

set_option autoImplicit false

namespace Ocvsmd.Svc

open Ipc (GatewayId Event ServerAction)

/-- What a state machine is called for once it has started. An `Int32` is the code that the
pipe would return to an action that sends. -/
inductive FsmAction where
  | event : Event → Int32 → FsmAction
  | promise : NodeId → PromiseResult → Int32 → Int32 → FsmAction

structure FsmLife where
  fsm : Fsm
  actions : List ServerAction

namespace FsmLife

def begin (p : Presentation) (channel : GatewayId) (request : Request) (outcome : Int32) :
    FsmLife :=
  let x := ({ channel := channel, request := request } : Fsm).start p outcome
  ⟨x.1, x.2⟩

/-- A released state machine is no more, and the handler has gone with its channel. A
promise is resolved while its operation is there. -/
def step (spec : ExecCmdSpec) (x : FsmLife) : FsmAction → Option FsmLife
  | .event e outcome =>
    if x.fsm.released.isSome then some x
    else
      let y := x.fsm.handleEvent e outcome
      some ⟨y.1, x.actions ++ y.2⟩
  | .promise nodeId result sendOutcome outcome =>
    if nodeId ∈ x.fsm.nodeIdToOp then
      let y := x.fsm.resolve spec nodeId result sendOutcome outcome
      some ⟨y.1, x.actions ++ y.2⟩
    else none

end FsmLife

def completions (actions : List ServerAction) : List Int32 :=
  actions.filterMap fun a => match a with
    | .complete _ err => some err
    | _ => none

/-- The messages that were given to a channel, whether it could send them or not. -/
def sends (actions : List ServerAction) : List Ipc.Bytes :=
  actions.filterMap fun a => match a with
    | .send _ _ payload _ => some payload
    | _ => none

def resolved (as : List FsmAction) : List (NodeId × PromiseResult) :=
  as.filterMap fun a => match a with
    | .promise nodeId result _ _ => some (nodeId, result)
    | .event _ _ => none

def responseOf (spec : ExecCmdSpec) (r : NodeId × PromiseResult) : Option Ipc.Bytes :=
  match r.2 with
  | .ok response => some (spec.serializeResponse ⟨r.1, response⟩)
  | .error _ => none

/-- What a state machine asks of the channel that it serves. -/
inductive OnChannel (spec : ExecCmdSpec) (channel : GatewayId) : ServerAction → Prop where
  | send (payload : Ipc.Bytes) (outcome : Int32) :
      OnChannel spec channel (.send channel spec.serviceId payload outcome)
  | complete (err : Int32) : OnChannel spec channel (.complete channel err)
  | release (outcome : Int32) : OnChannel spec channel (.release channel outcome)

def FirstRefusal (p : Presentation) (n : NodeId) (failure : CyphalFailure) : Prop :=
  ∃ before after, p.order = before ++ n :: after ∧
    (∀ m ∈ before, (p.makeClient m).or (p.request m) = none) ∧
    (p.makeClient n).or (p.request n) = some failure

theorem completions_append (l r : List ServerAction) :
    completions (l ++ r) = completions l ++ completions r := List.filterMap_append

theorem sends_append (l r : List ServerAction) : sends (l ++ r) = sends l ++ sends r :=
  List.filterMap_append

theorem resolved_append (l r : List FsmAction) : resolved (l ++ r) = resolved l ++ resolved r :=
  List.filterMap_append

namespace Fsm

theorem completions_goodbye (fsm : Fsm) (outcome : Int32) :
    completions (fsm.goodbye outcome) = fsm.released.toList := by
  unfold goodbye
  cases fsm.released <;> rfl

theorem sends_goodbye (fsm : Fsm) (outcome : Int32) : sends (fsm.goodbye outcome) = [] := by
  unfold goodbye
  cases fsm.released <;> rfl

theorem onChannel_goodbye (spec : ExecCmdSpec) (fsm : Fsm) (outcome : Int32) :
    ∀ a ∈ fsm.goodbye outcome, OnChannel spec fsm.channel a := by
  intro a ha
  unfold goodbye at ha
  split at ha
  · next err hr =>
    rcases List.mem_cons.mp ha with rfl | ha
    · exact .complete err
    · rw [List.mem_singleton.mp ha]
      exact .release outcome
  · cases ha

theorem onChannel_respond (spec : ExecCmdSpec) (nodeId : NodeId) (result : PromiseResult)
    (outcome : Int32) (fsm : Fsm) :
    ∀ a ∈ fsm.respond spec nodeId result outcome, OnChannel spec fsm.channel a := by
  intro a ha
  cases result with
  | ok response =>
    rw [respond, List.mem_singleton] at ha
    rw [ha]
    exact .send _ outcome
  | error failure => cases ha

theorem completions_respond (fsm : Fsm) (spec : ExecCmdSpec) (nodeId : NodeId)
    (result : PromiseResult) (outcome : Int32) :
    completions (fsm.respond spec nodeId result outcome) = [] := by
  cases result <;> rfl

theorem sends_respond (fsm : Fsm) (spec : ExecCmdSpec) (nodeId : NodeId)
    (result : PromiseResult) (outcome : Int32) :
    sends (fsm.respond spec nodeId result outcome) =
      (answer nodeId result).map spec.serializeResponse := by
  cases result <;> rfl

theorem callEach_refused {p : Presentation} {failure : CyphalFailure} {n : NodeId}
    (deadline : Int) (cyRequest : NodeRequest) {before : List NodeId} (after : List NodeId)
    (hb : ∀ m ∈ before, (p.makeClient m).or (p.request m) = none)
    (hn : (p.makeClient n).or (p.request n) = some failure) (fsm : Fsm) :
    (fsm.callEach p deadline cyRequest (before ++ n :: after)).2 = failureToErrorCode failure := by
  induction before generalizing fsm with
  | nil =>
    have he := failureToErrorCode_ne_zero failure
    simp [callEach, makeCyphalSvcCallFor, hn, he]
  | cons m before ih =>
    have hm := hb m List.mem_cons_self
    simp only [List.cons_append, callEach, makeCyphalSvcCallFor, hm, ne_eq, not_true_eq_false,
      if_false]
    exact ih (fun m' hm' => hb m' (List.mem_cons_of_mem _ hm')) _

theorem start_refused {p : Presentation} {fsm : Fsm} {n : NodeId} {failure : CyphalFailure}
    (hp : p.order.Perm fsm.request.nodeIds.dedup) (h : FirstRefusal p n failure)
    (outcome : Int32) : (fsm.start p outcome).1.released = some (failureToErrorCode failure) := by
  obtain ⟨before, after, horder, hb, hn⟩ := h
  have hmem : n ∈ fsm.request.nodeIds :=
    List.mem_dedup.mp (hp.mem_iff.mp (by rw [horder]; simp))
  have hne : fsm.request.nodeIds.isEmpty = false := by
    cases hids : fsm.request.nodeIds with
    | nil => rw [hids] at hmem; cases hmem
    | cons => rfl
  have he := callEach_refused (p.now + fsm.request.timeoutUs.toInt64.toInt) fsm.request.payload
    after hb hn fsm
  have hz := failureToErrorCode_ne_zero failure
  unfold start
  rw [hne, horder]
  simp only [Bool.false_eq_true, if_false, he]
  rw [if_pos hz]
  rfl

theorem start_resolutions (p : Presentation) (outcome : Int32) (fsm : Fsm) :
    (fsm.start p outcome).1.resolutions = fsm.resolutions := by
  unfold start
  split
  · rfl
  · simp only
    rcases callEach_cases p (p.now + fsm.request.timeoutUs.toInt64.toInt) fsm.request.payload
      p.order fsm with heq | ⟨issued, n, rest, e, _, he, heq⟩
    · simp [heq, resolutions, List.filterMap_map]
    · simp [heq, he, complete, resolutions, List.filterMap_map]

theorem resolve_resolutions (spec : ExecCmdSpec) (nodeId : NodeId) (result : PromiseResult)
    (sendOutcome outcome : Int32) (fsm : Fsm) :
    (fsm.resolve spec nodeId result sendOutcome outcome).1.resolutions =
      fsm.resolutions ++ [(nodeId, result)] := by
  unfold resolve
  simp only
  split <;> simp [complete, resolutions]

theorem resolve_released {fsm : Fsm} (hr : fsm.released = none) (spec : ExecCmdSpec)
    (nodeId : NodeId) (result : PromiseResult) (sendOutcome outcome : Int32) :
    (fsm.resolve spec nodeId result sendOutcome outcome).1.released = none ∨
      (fsm.resolve spec nodeId result sendOutcome outcome).1.released = some 0 := by
  unfold resolve
  simp only
  split
  · exact Or.inr rfl
  · exact Or.inl hr

end Fsm

namespace FsmLife

/-- What there is to say of a life: it ends with its completion, if it has come to that, and
an error means that some node was left without an answer. -/
structure Inv (spec : ExecCmdSpec) (channel : GatewayId) (request : Request) (x : FsmLife) :
    Prop where
  wf : x.fsm.Wf
  serves : x.fsm.channel = channel
  onChannel : ∀ a ∈ x.actions, OnChannel spec channel a
  request : x.fsm.request = request
  said : ∃ before outcome, x.actions = before ++ x.fsm.goodbye outcome ∧ completions before = []
  sent : sends x.actions = x.fsm.responses.map spec.serializeResponse
  unfinished : ∀ e, x.fsm.released = some e → e ≠ 0 →
    ∃ n ∈ x.fsm.request.nodeIds, n ∉ x.fsm.resolvedNodes

theorem inv_begin (spec : ExecCmdSpec) {p : Presentation} (channel : GatewayId)
    {request : Request} (hp : p.order.Perm request.nodeIds.dedup) (outcome : Int32) :
    Inv spec channel request (begin p channel request outcome) := by
  let fsm : Fsm := { channel := channel, request := request }
  obtain ⟨hchannel, hreq, hres, hact⟩ :=
    Fsm.start_keeps (show fsm.released = none from rfl) p outcome
  have hnone : (fsm.start p outcome).1.resolvedNodes = [] := by
    rw [Fsm.resolvedNodes, Fsm.start_resolutions]
    rfl
  constructor
  · exact Fsm.wf_start rfl rfl rfl hp outcome
  · exact hchannel
  · intro a ha
    have hgoodbye := Fsm.onChannel_goodbye spec (fsm.start p outcome).1 outcome a (hact ▸ ha)
    rwa [hchannel] at hgoodbye
  · exact hreq
  · exact ⟨[], outcome, hact, rfl⟩
  · have hnil : (fsm.start p outcome).1.responses = [] := hres
    simp only [begin]
    rw [hact, Fsm.sends_goodbye, hnil]
    rfl
  · intro e he hz
    cases hids : request.nodeIds with
    | nil =>
      have hzero : (fsm.start p outcome).1.released = some 0 := by
        simp [Fsm.start, fsm, hids, Fsm.complete]
      have he' : (fsm.start p outcome).1.released = some e := he
      rw [hzero] at he'
      cases he'
      exact absurd rfl hz
    | cons n rest =>
      refine ⟨n, ?_, ?_⟩
      · have hreq' : (begin p channel request outcome).fsm.request = request := hreq
        rw [hreq', hids]
        exact List.mem_cons_self
      · have hnone' : (begin p channel request outcome).fsm.resolvedNodes = [] := hnone
        rw [hnone']
        exact List.not_mem_nil

theorem Inv.event {spec : ExecCmdSpec} {channel : GatewayId} {request : Request} {x : FsmLife}
    (h : Inv spec channel request x) (hr : x.fsm.released = none) (e : Event) (outcome : Int32) :
    Inv spec channel request ⟨(x.fsm.handleEvent e outcome).1,
      x.actions ++ (x.fsm.handleEvent e outcome).2⟩ := by
  obtain ⟨before, outcome', hsaid, hnone⟩ := h.said
  have hbefore : x.actions = before := by
    rw [hsaid]
    simp [Fsm.goodbye, hr]
  have hstill : ∀ y : Fsm × List ServerAction, y = (x.fsm, []) →
      Inv spec channel request ⟨y.1, x.actions ++ y.2⟩ := by
    rintro y rfl
    simp only [List.append_nil]
    exact h
  cases e with
  | connected => exact hstill _ rfl
  | message sequence payload => exact hstill _ rfl
  | completed errorCode =>
    constructor
    · exact Fsm.wf_handleEvent h.wf hr (.completed errorCode) outcome
    · exact h.serves
    · intro a ha
      rcases List.mem_append.mp ha with ha | ha
      · exact h.onChannel a ha
      · have hgoodbye := Fsm.onChannel_goodbye spec (x.fsm.complete ECANCELED outcome).1 outcome a ha
        rwa [show (x.fsm.complete ECANCELED outcome).1.channel = channel from h.serves] at hgoodbye
    · exact h.request
    · exact ⟨before, outcome, by rw [hbefore]; rfl, hnone⟩
    · have hquiet : sends (x.fsm.handleEvent (.completed errorCode) outcome).2 = [] := rfl
      simp only [sends_append, hquiet, List.append_nil]
      exact h.sent
    · intro _ _ _
      obtain ⟨n, hn⟩ := List.exists_mem_of_ne_nil _ (h.wf.waiting hr)
      obtain ⟨_, hissued, hpending⟩ := (h.wf.pending n).mp (AList.mem_keys.mpr hn)
      exact ⟨n, h.wf.issuedSome n hissued, hpending⟩

theorem Inv.promise {spec : ExecCmdSpec} {channel : GatewayId} {request : Request} {x : FsmLife}
    (h : Inv spec channel request x) {nodeId : NodeId} (hn : nodeId ∈ x.fsm.nodeIdToOp)
    (result : PromiseResult) (sendOutcome outcome : Int32) :
    Inv spec channel request ⟨(x.fsm.resolve spec nodeId result sendOutcome outcome).1,
      x.actions ++ (x.fsm.resolve spec nodeId result sendOutcome outcome).2⟩ := by
  have hr : x.fsm.released = none := ((h.wf.pending nodeId).mp hn).1
  obtain ⟨before, outcome', hsaid, hnone⟩ := h.said
  have hbefore : x.actions = before := by
    rw [hsaid]
    simp [Fsm.goodbye, hr]
  obtain ⟨hchannel, hreq, hres, hact⟩ :=
    Fsm.resolve_keeps hr spec nodeId result sendOutcome outcome
  constructor
  · exact Fsm.wf_resolve h.wf hr hn spec result sendOutcome outcome
  · exact hchannel.trans h.serves
  · intro a ha
    rw [hact] at ha
    rcases List.mem_append.mp ha with ha | ha
    · exact h.onChannel a ha
    · rcases List.mem_append.mp ha with ha | ha
      · have hrespond := Fsm.onChannel_respond spec nodeId result sendOutcome x.fsm a ha
        rwa [h.serves] at hrespond
      · have hgoodbye := Fsm.onChannel_goodbye spec _ outcome a ha
        rwa [hchannel.trans h.serves] at hgoodbye
  · exact hreq.trans h.request
  · refine ⟨before ++ x.fsm.respond spec nodeId result sendOutcome, outcome, ?_, ?_⟩
    · simp only [hact, hbefore, List.append_assoc]
    · rw [completions_append, hnone, Fsm.completions_respond]
      rfl
  · simp only [sends_append, hact, Fsm.sends_respond, Fsm.sends_goodbye, List.append_nil, h.sent,
      hres, List.map_append]
  · intro e he hz
    have hzero : e = 0 := by
      rcases Fsm.resolve_released hr spec nodeId result sendOutcome outcome with hrel | hrel
      · simp only [hrel] at he
        cases he
      · simp only [hrel] at he
        cases he
        rfl
    exact absurd hzero hz

theorem Inv.step {spec : ExecCmdSpec} {channel : GatewayId} {request : Request}
    {x x' : FsmLife} {a : FsmAction} (h : Inv spec channel request x)
    (hs : x.step spec a = some x') : Inv spec channel request x' := by
  cases a with
  | event e outcome =>
    simp only [FsmLife.step] at hs
    split at hs
    · cases hs
      exact h
    · next hr =>
      cases hs
      exact h.event (by simpa using hr) e outcome
  | promise nodeId result sendOutcome outcome =>
    simp only [FsmLife.step] at hs
    split at hs
    · next hn =>
      cases hs
      exact h.promise hn result sendOutcome outcome
    · cases hs

theorem resolutions_step {spec : ExecCmdSpec} {x x' : FsmLife} {a : FsmAction}
    (hs : x.step spec a = some x') :
    x'.fsm.resolutions = x.fsm.resolutions ++ resolved [a] := by
  cases a with
  | event e outcome =>
    have hnone : resolved [.event e outcome] = [] := rfl
    rw [hnone, List.append_nil]
    simp only [step] at hs
    split at hs
    · cases hs
      rfl
    · cases hs
      cases e <;> rfl
  | promise nodeId result sendOutcome outcome =>
    simp only [step] at hs
    split at hs
    · cases hs
      exact Fsm.resolve_resolutions spec nodeId result sendOutcome outcome x.fsm
    · cases hs

theorem resolutions_run {spec : ExecCmdSpec} {x x' : FsmLife} {as : List FsmAction}
    (h : Runs.run (step spec) x as = some x') :
    x'.fsm.resolutions = x.fsm.resolutions ++ resolved as := by
  induction as generalizing x with
  | nil =>
    cases h
    exact (List.append_nil _).symm
  | cons a as ih =>
    obtain ⟨m, hm, h⟩ := Runs.run_cons.mp h
    rw [ih h, resolutions_step hm, List.append_assoc, ← resolved_append]
    rfl

theorem released_step {spec : ExecCmdSpec} {channel : GatewayId} {request : Request}
    {x x' : FsmLife} {a : FsmAction} (hi : Inv spec channel request x) {err : Int32} (hr : x.fsm.released = some err)
    (hs : x.step spec a = some x') : x' = x := by
  cases a with
  | event e outcome =>
    simp only [step, hr, Option.isSome_some, if_true] at hs
    exact (Option.some.inj hs).symm
  | promise nodeId result sendOutcome outcome =>
    have hgone : nodeId ∉ x.fsm.nodeIdToOp := fun hn => by
      have hnone := ((hi.wf.pending nodeId).mp hn).1
      rw [hr] at hnone
      cases hnone
    simp only [step, hgone, if_false] at hs
    cases hs

theorem released_run {spec : ExecCmdSpec} {channel : GatewayId} {request : Request} {x x' : FsmLife}
    {as : List FsmAction} (hi : Inv spec channel request x) {err : Int32}
    (hr : x.fsm.released = some err) (h : Runs.run (step spec) x as = some x') : x' = x := by
  have hP := Runs.run_preserves (P := fun y => y = x) (fun {y a y'} hy hs => by
    subst hy
    exact released_step hi hr hs) rfl h
  exact hP

theorem Inv.completions {spec : ExecCmdSpec} {channel : GatewayId} {request : Request} {x : FsmLife}
    (h : Inv spec channel request x) : completions x.actions = x.fsm.released.toList := by
  obtain ⟨before, outcome, hsaid, hnone⟩ := h.said
  rw [hsaid, completions_append, hnone, Fsm.completions_goodbye]
  rfl

/-- Nothing comes after the completion but the end of the channel. -/
theorem Inv.last {spec : ExecCmdSpec} {channel : GatewayId} {request : Request} {x : FsmLife}
    (h : Inv spec channel request x) {before after : List ServerAction} {g : GatewayId}
    {err : Int32} (hx : x.actions = before ++ .complete g err :: after) :
    sends after = [] ∧ Svc.completions after = [] := by
  obtain ⟨quiet, outcome, hsaid, hnone⟩ := h.said
  rw [hx] at hsaid
  unfold Fsm.goodbye at hsaid
  cases hr : x.fsm.released with
  | none =>
    rw [hr, List.append_nil] at hsaid
    rw [← hsaid, completions_append] at hnone
    simp [Svc.completions] at hnone
  | some e =>
    rw [hr] at hsaid
    simp only at hsaid
    rcases List.append_eq_append_iff.mp hsaid with ⟨rest, rfl, hrest⟩ | ⟨rest, rfl, hrest⟩
    · cases rest with
      | nil =>
        cases hrest
        exact ⟨rfl, rfl⟩
      | cons a rest =>
        obtain ⟨rfl, _⟩ := List.cons_eq_cons.mp hrest
        rw [completions_append] at hnone
        simp [Svc.completions] at hnone
    · cases rest with
      | nil =>
        cases hrest
        exact ⟨rfl, rfl⟩
      | cons a rest =>
        have htail := (List.cons_eq_cons.mp hrest).2
        cases rest with
        | nil => cases htail
        | cons b rest => simp at htail

/-- It completes with 0 exactly if no node is left without an answer. -/
theorem Inv.zero {spec : ExecCmdSpec} {channel : GatewayId} {request : Request} {x : FsmLife}
    (h : Inv spec channel request x) :
    x.fsm.released = some 0 ↔ ∀ n ∈ request.nodeIds, n ∈ x.fsm.resolvedNodes := by
  rw [← h.request]
  constructor
  · intro hr n hn
    exact h.wf.done hr n (h.wf.whole (Or.inr hr) n hn)
  · intro hall
    cases hr : x.fsm.released with
    | none =>
      obtain ⟨n, hn⟩ := List.exists_mem_of_ne_nil _ (h.wf.waiting hr)
      obtain ⟨_, hissued, hpending⟩ := (h.wf.pending n).mp (AList.mem_keys.mpr hn)
      exact absurd (hall n (h.wf.issuedSome n hissued)) hpending
    | some e =>
      by_cases he : e = 0
      · rw [he]
      · obtain ⟨n, hn, hpending⟩ := h.unfinished e hr he
        exact absurd (hall n hn) hpending

end FsmLife

/-- A state machine that has met these actions finishes once, and with the right code. -/
structure FinishesOnce (spec : ExecCmdSpec) (p : Presentation) (channel : GatewayId)
    (request : Request) (start : FsmLife) (as : List FsmAction) (x : FsmLife) : Prop where
  onChannel : ∀ a ∈ x.actions, OnChannel spec channel a
  once : (completions x.actions).length ≤ 1
  zero : completions x.actions = [0] ↔ ∀ n ∈ request.nodeIds, n ∈ (resolved as).map (·.1)
  refused : ∀ n failure, FirstRefusal p n failure →
    completions x.actions = [failureToErrorCode failure] ∧ ∀ m, m ∉ x.fsm.nodeIdToOp
  canceled : ∀ before after errorCode outcome y,
    as = before ++ .event (.completed errorCode) outcome :: after →
    Runs.run (FsmLife.step spec) start before = some y → completions y.actions = [] →
    completions x.actions = [ECANCELED]
  responses : sends x.actions = (resolved as).filterMap (responseOf spec)
  eachOnce : ((resolved as).map (·.1)).Nodup
  silent : ∀ before g err after, x.actions = before ++ .complete g err :: after →
    sends after = [] ∧ completions after = []

/-- Whatever fails at its start, in whatever order its promises are resolved and whenever
the client goes, a state machine finishes once. -/
theorem finishes_once {spec : ExecCmdSpec} {p : Presentation} {channel : GatewayId}
    {request : Request} {outcome : Int32} {as : List FsmAction} {x : FsmLife}
    (hp : p.order.Perm request.nodeIds.dedup)
    (h : Runs.run (FsmLife.step spec) (FsmLife.begin p channel request outcome) as = some x) :
    FinishesOnce spec p channel request (FsmLife.begin p channel request outcome) as x := by
  have hbegin := FsmLife.inv_begin spec channel hp outcome
  have hi := Runs.run_preserves (P := FsmLife.Inv spec channel request)
    (fun hy hs => hy.step hs) hbegin h
  have hstart : (FsmLife.begin p channel request outcome).fsm.resolutions = [] :=
    Fsm.start_resolutions p outcome _
  have hresolutions : x.fsm.resolutions = resolved as := by
    rw [FsmLife.resolutions_run h, hstart]
    rfl
  have hnodes : x.fsm.resolvedNodes = (resolved as).map (·.1) := by
    rw [Fsm.resolvedNodes, hresolutions]
  constructor
  · exact hi.onChannel
  · rw [hi.completions]
    cases x.fsm.released <;> simp
  · rw [hi.completions, ← hnodes, ← hi.zero]
    cases x.fsm.released <;> simp
  · intro n failure hf
    have hr : (FsmLife.begin p channel request outcome).fsm.released =
        some (failureToErrorCode failure) := Fsm.start_refused hp hf outcome
    have hsame := FsmLife.released_run hbegin hr h
    rw [hi.completions, hsame, hr]
    refine ⟨rfl, fun m hm => ?_⟩
    have hnone := ((hbegin.wf.pending m).mp hm).1
    rw [hr] at hnone
    cases hnone
  · rintro before after errorCode outcome' y rfl hy hquiet
    have hiy := Runs.run_preserves (P := FsmLife.Inv spec channel request) (fun hy hs => hy.step hs)
      hbegin hy
    obtain ⟨y', hy', h⟩ := Runs.run_append.mp h
    rw [hy] at hy'
    cases hy'
    obtain ⟨m, hm, h⟩ := Runs.run_cons.mp h
    have hr : y.fsm.released = none := by
      rw [hiy.completions] at hquiet
      cases hr : y.fsm.released with
      | none => rfl
      | some e => rw [hr] at hquiet; cases hquiet
    have hm' : m.fsm.released = some ECANCELED := by
      simp only [FsmLife.step, hr, Option.isSome_none, Bool.false_eq_true, if_false] at hm
      cases hm
      rfl
    rw [hi.completions, FsmLife.released_run (hiy.step hm) hm' h, hm']
    rfl
  · rw [hi.sent, Fsm.responses, hresolutions, List.map_filterMap]
    refine List.filterMap_congr fun r _ => ?_
    unfold responseOf
    cases r.2 <;> rfl
  · rw [← hnodes]
    exact hi.wf.resolvedOnce
  · intro before g err after hx
    exact hi.last hx

def pairRequest : Request := ⟨0, [1, 2], ⟨5, []⟩⟩

def pairPresentation : Presentation := ⟨0, [1, 2], fun _ => none, fun _ => none⟩

/-- One of two nodes has answered when the client goes. -/
theorem finishes_once_canceled : ∃ x,
    Runs.run (FsmLife.step (cyphalExecCmdSpec 7)) (FsmLife.begin pairPresentation 3 pairRequest 0)
      [.promise 2 (.ok ⟨0, [], by decide⟩) 0 0, .event (.completed 0) 0] = some x ∧
    completions x.actions = [ECANCELED] ∧ (sends x.actions).length = 1 ∧
    ∀ a ∈ x.actions, OnChannel (cyphalExecCmdSpec 7) 3 a := by
  have hrun : (Runs.run (FsmLife.step (cyphalExecCmdSpec 7))
      (FsmLife.begin pairPresentation 3 pairRequest 0)
      [.promise 2 (.ok ⟨0, [], by decide⟩) 0 0, .event (.completed 0) 0]).isSome = true := by
    decide +kernel
  obtain ⟨x, hx⟩ := Option.isSome_iff_exists.mp hrun
  have hp : pairPresentation.order.Perm pairRequest.nodeIds.dedup := by decide
  have hfinishes := finishes_once hp hx
  refine ⟨x, hx, ?_, ?_, hfinishes.onChannel⟩
  · exact hfinishes.canceled [.promise 2 (.ok ⟨0, [], by decide⟩) 0 0] [] 0 0 _ rfl rfl rfl
  · rw [hfinishes.responses]
    rfl

end Ocvsmd.Svc
