import Mathlib.Data.List.Dedup
import Ocvsmd.ExecCmdSpec
import Ocvsmd.ServerRouter

/-!
`ExecCmdServiceImpl` and its state machines, one for each channel of the service. What
they do to their channels is a list of actions for the server router: they never look
at what the router returns.
-/

set_option autoImplicit false

namespace Ocvsmd.Svc

open Ipc (GatewayId Event ServerAction EINVAL)

def EBUSY : Int32 := 16
def EEXIST : Int32 := 17
def ENOMEM : Int32 := 12
def ETIMEDOUT : Int32 := 110
def ECANCELED : Int32 := 125

/-- What libcyphal and the generated code fail with. A platform error carries an `errno`. -/
inductive CyphalFailure where
  | memoryError : CyphalFailure
  | capacityError : CyphalFailure
  | argumentError : CyphalFailure
  | anonymousError : CyphalFailure
  | nunavutError : CyphalFailure
  | alreadyExistsError : CyphalFailure
  | platformError : (code : Int32) → 0 < code → CyphalFailure
  | responsePromiseExpired : CyphalFailure
  | tooManyPendingRequestsError : CyphalFailure

def failureToErrorCode : CyphalFailure → Int32
  | .memoryError => ENOMEM
  | .capacityError => ENOMEM
  | .argumentError => EINVAL
  | .anonymousError => EINVAL
  | .nunavutError => EINVAL
  | .alreadyExistsError => EEXIST
  | .platformError code _ => code
  | .responsePromiseExpired => ETIMEDOUT
  | .tooManyPendingRequestsError => EBUSY

theorem failureToErrorCode_ne_zero (failure : CyphalFailure) :
    failureToErrorCode failure ≠ 0 := by
  cases failure with
  | platformError code h =>
    rintro rfl
    exact absurd h (by decide)
  | _ => decide

abbrev PromiseResult := Except CyphalFailure NodeResponse

/-- How the presentation layer answers while a request is started: the time, the order in
which the set of node ids is iterated, and what becomes of each client and each request. -/
structure Presentation where
  now : Int
  order : List NodeId
  makeClient : NodeId → Option CyphalFailure
  request : NodeId → Option CyphalFailure

structure CyNodeOp where
  deadline : Int
  request : NodeRequest
  deriving DecidableEq, Repr

/-- What passed between a state machine and Cyphal: a request that was issued or was not,
and a promise that was resolved. -/
inductive CyphalCall where
  | issued : NodeId → CyNodeOp → CyphalCall
  | refused : NodeId → Int32 → CyphalCall
  | resolved : NodeId → PromiseResult → CyphalCall

/-- One request of one channel. `id_to_fsm_` holds it until it is released, which happens
when it completes. It keeps the request and the calls only to be spoken of. -/
structure Fsm where
  channel : GatewayId
  request : Request
  nodeIdToOp : AList fun _ : NodeId => CyNodeOp := ∅
  released : Option Int32 := none
  calls : List CyphalCall := []

namespace Fsm

/-- Cancels anything that might be still pending. The `Int32` of an action that may send
is the code that the pipe would return. -/
def complete (err outcome : Int32) (fsm : Fsm) : Fsm × List ServerAction :=
  ({ fsm with nodeIdToOp := ∅, released := some err },
    [.complete fsm.channel err, .release fsm.channel outcome])

def makeCyphalSvcCallFor (p : Presentation) (deadline : Int) (cyRequest : NodeRequest)
    (nodeId : NodeId) (fsm : Fsm) : Fsm × Int32 :=
  -- nothing is requested without a client
  match (p.makeClient nodeId).or (p.request nodeId) with
  | some failure =>
    let err := failureToErrorCode failure
    ({ fsm with calls := fsm.calls ++ [.refused nodeId err] }, err)
  | none =>
    let op : CyNodeOp := ⟨deadline, cyRequest⟩
    ({ fsm with
        nodeIdToOp := emplace fsm.nodeIdToOp nodeId op
        calls := fsm.calls ++ [.issued nodeId op] }, 0)

/-- The loop of `start`. It ends at the first error. -/
def callEach (p : Presentation) (deadline : Int) (cyRequest : NodeRequest) :
    List NodeId → Fsm → Fsm × Int32
  | [], fsm => (fsm, 0)
  | nodeId :: rest, fsm =>
    match fsm.makeCyphalSvcCallFor p deadline cyRequest nodeId with
    | (fsm', err) => if err ≠ 0 then (fsm', err) else callEach p deadline cyRequest rest fsm'

def start (p : Presentation) (outcome : Int32) (fsm : Fsm) : Fsm × List ServerAction :=
  if fsm.request.nodeIds.isEmpty then fsm.complete 0 outcome
  else
    let deadline := p.now + fsm.request.timeoutUs.toInt64.toInt
    match fsm.callEach p deadline fsm.request.payload p.order with
    | (fsm', err) => if err ≠ 0 then fsm'.complete err outcome else (fsm', [])

def handleEvent (e : Event) (outcome : Int32) (fsm : Fsm) : Fsm × List ServerAction :=
  match e with
  | .completed _ => fsm.complete ECANCELED outcome
  | _ => (fsm, [])

/-- `channel_.send(..)`; a failure is only logged. -/
def respond (spec : ExecCmdSpec) (nodeId : NodeId) (result : PromiseResult)
    (outcome : Int32) (fsm : Fsm) : List ServerAction :=
  match result with
  | .ok response =>
    [.send fsm.channel spec.serviceId (spec.serializeResponse ⟨nodeId, response⟩) outcome]
  | .error _ => []

def resolve (spec : ExecCmdSpec) (nodeId : NodeId) (result : PromiseResult)
    (sendOutcome outcome : Int32) (fsm : Fsm) : Fsm × List ServerAction :=
  let answered := fsm.respond spec nodeId result sendOutcome
  let erased : Fsm := { fsm with
    nodeIdToOp := fsm.nodeIdToOp.erase nodeId
    calls := fsm.calls ++ [.resolved nodeId result] }
  if erased.nodeIdToOp.keys.isEmpty then
    match erased.complete 0 outcome with
    | (fsm', completed) => (fsm', answered ++ completed)
  else (erased, answered)

end Fsm

/-- All the state machines that were ever made. The position of one is its id. -/
structure ExecCmdService where
  fsms : List Fsm := []

namespace ExecCmdService

def idToFsm (s : ExecCmdService) (id : Nat) : Option Fsm :=
  (s.fsms[id]?).filter (·.released.isNone)

def input (spec : ExecCmdSpec) (payload : List UInt8) : Bool :=
  (spec.deserializeRequest payload).isSome

/-- `operator()`. Ids are 64-bit numbers, and less than 2^64 state machines are made. -/
def newChannel (spec : ExecCmdSpec) (p : Presentation) (channel : GatewayId)
    (request : Request) (outcome : Int32) (s : ExecCmdService) :
    Option (ExecCmdService × List ServerAction) :=
  if s.fsms.length < 2^64 ∧ p.order.Perm request.nodeIds.dedup then
    match ({ channel := channel, request := request } : Fsm).start p outcome with
    | (fsm, actions) =>
      some ({ fsms := s.fsms ++ [fsm] }, .subscribe channel (some (input spec)) :: actions)
  else none

def handlerOf (s : ExecCmdService) (channel : GatewayId) : Option Nat :=
  s.fsms.findIdx? fun fsm => fsm.channel = channel ∧ fsm.released = none

def act (s : ExecCmdService) (id : Nat) (f : Fsm → Fsm × List ServerAction) :
    Option (ExecCmdService × List ServerAction) :=
  (s.idToFsm id).map fun fsm =>
    ({ fsms := s.fsms.set id (f fsm).1 }, (f fsm).2)

def handleEvent (s : ExecCmdService) (channel : GatewayId) (e : Event) (outcome : Int32) :
    Option (ExecCmdService × List ServerAction) :=
  match s.handlerOf channel with
  | some id => s.act id (·.handleEvent e outcome)
  | none => some (s, [])

/-- A promise is resolved while its state machine holds it, and is dropped with that. -/
def resolve (spec : ExecCmdSpec) (s : ExecCmdService) (id : Nat) (nodeId : NodeId)
    (result : PromiseResult) (sendOutcome outcome : Int32) :
    Option (ExecCmdService × List ServerAction) :=
  if (s.idToFsm id).any fun fsm => nodeId ∈ fsm.nodeIdToOp then
    s.act id (·.resolve spec nodeId result sendOutcome outcome)
  else none

end ExecCmdService

namespace Fsm

def issuedNodes (fsm : Fsm) : List NodeId :=
  fsm.calls.filterMap fun c => match c with
    | .issued nodeId _ => some nodeId
    | _ => none

def resolutions (fsm : Fsm) : List (NodeId × PromiseResult) :=
  fsm.calls.filterMap fun c => match c with
    | .resolved nodeId result => some (nodeId, result)
    | _ => none

def resolvedNodes (fsm : Fsm) : List NodeId := fsm.resolutions.map (·.1)

def responses (fsm : Fsm) : List Response :=
  fsm.resolutions.filterMap fun r => match r.2 with
    | .ok response => some ⟨r.1, response⟩
    | .error _ => none

/-- What is pending is what was issued and has not been resolved, and a state machine is
released when nothing is, or after a refusal, or with its channel. -/
structure Wf (fsm : Fsm) : Prop where
  issuedOnce : fsm.issuedNodes.Nodup
  issuedSome : ∀ n ∈ fsm.issuedNodes, n ∈ fsm.request.nodeIds
  resolvedOnce : fsm.resolvedNodes.Nodup
  resolvedIssued : ∀ n ∈ fsm.resolvedNodes, n ∈ fsm.issuedNodes
  pending : ∀ n, n ∈ fsm.nodeIdToOp ↔
    fsm.released = none ∧ n ∈ fsm.issuedNodes ∧ n ∉ fsm.resolvedNodes
  waiting : fsm.released = none → fsm.nodeIdToOp.keys ≠ []
  whole : fsm.released = none ∨ fsm.released = some 0 →
    ∀ n ∈ fsm.request.nodeIds, n ∈ fsm.issuedNodes
  done : fsm.released = some 0 → ∀ n ∈ fsm.issuedNodes, n ∈ fsm.resolvedNodes
  refusal : ∀ n e, CyphalCall.refused n e ∈ fsm.calls → fsm.released = some e ∧ e ≠ 0

theorem Wf.not_refused {fsm : Fsm} (h : fsm.Wf) (hr : fsm.released = none) (n : NodeId)
    (e : Int32) : CyphalCall.refused n e ∉ fsm.calls := by
  intro hc
  have hrel := (h.refusal n e hc).1
  rw [hr] at hrel
  cases hrel

theorem Wf.refusal_eq {fsm : Fsm} (h : fsm.Wf) {err : Int32} (hr : fsm.released = some err)
    {n : NodeId} {e : Int32} (hc : CyphalCall.refused n e ∈ fsm.calls) : e = err := by
  have hrel := (h.refusal n e hc).1
  rw [hr] at hrel
  exact (Option.some.inj hrel).symm

theorem callEach_cases (p : Presentation) (deadline : Int) (cyRequest : NodeRequest)
    (order : List NodeId) (fsm : Fsm) :
    (fsm.callEach p deadline cyRequest order = ({ fsm with
        nodeIdToOp := order.foldl (emplace · · ⟨deadline, cyRequest⟩) fsm.nodeIdToOp
        calls := fsm.calls ++ order.map (.issued · ⟨deadline, cyRequest⟩) }, 0)) ∨
    ∃ issued n rest e, order = issued ++ n :: rest ∧ e ≠ 0 ∧
      fsm.callEach p deadline cyRequest order = ({ fsm with
        nodeIdToOp := issued.foldl (emplace · · ⟨deadline, cyRequest⟩) fsm.nodeIdToOp
        calls := fsm.calls ++ (issued.map (.issued · ⟨deadline, cyRequest⟩) ++
          [.refused n e]) }, e) := by
  induction order generalizing fsm with
  | nil => exact Or.inl (by simp [callEach])
  | cons n order ih =>
    unfold callEach makeCyphalSvcCallFor
    cases hf : (p.makeClient n).or (p.request n) with
    | some failure =>
      have he := failureToErrorCode_ne_zero failure
      refine Or.inr ⟨[], n, order, failureToErrorCode failure, rfl, he, ?_⟩
      simp [he]
    | none =>
      simp only [ne_eq, not_true_eq_false, if_false]
      rcases ih { fsm with
        nodeIdToOp := emplace fsm.nodeIdToOp n ⟨deadline, cyRequest⟩
        calls := fsm.calls ++ [.issued n ⟨deadline, cyRequest⟩] } with
        heq | ⟨issued, m, rest, e, rfl, he, heq⟩
      · exact Or.inl (by simp [heq])
      · exact Or.inr ⟨n :: issued, m, rest, e, rfl, he, by simp [heq]⟩

theorem mem_foldl_emplace {β : Type} (l : List NodeId) (value : β)
    (m : AList fun _ : NodeId => β) (n : NodeId) :
    n ∈ l.foldl (emplace · · value) m ↔ n ∈ l ∨ n ∈ m := by
  induction l generalizing m with
  | nil => simp
  | cons a l ih =>
    rw [List.foldl_cons, ih, mem_emplace, List.mem_cons]
    tauto

@[simp] theorem mem_empty_ops (n : NodeId) : n ∉ (∅ : AList fun _ : NodeId => CyNodeOp) :=
  AList.notMem_empty n

theorem Wf.complete {fsm : Fsm} (h : fsm.Wf) (hr : fsm.released = none) {err : Int32}
    (he : err ≠ 0) (outcome : Int32) : (fsm.complete err outcome).1.Wf where
  issuedOnce := h.issuedOnce
  issuedSome := h.issuedSome
  resolvedOnce := h.resolvedOnce
  resolvedIssued := h.resolvedIssued
  pending := fun n => by simp [Fsm.complete]
  waiting := fun hn => by cases hn
  whole := fun hn => by simp [Fsm.complete, he] at hn
  done := fun hn => by simp [Fsm.complete, he] at hn
  refusal := fun n e hc => absurd hc (h.not_refused hr n e)

theorem wf_handleEvent {fsm : Fsm} (h : fsm.Wf) (hr : fsm.released = none) (e : Event)
    (outcome : Int32) : (fsm.handleEvent e outcome).1.Wf := by
  cases e with
  | connected => exact h
  | message sequence payload => exact h
  | completed errorCode => exact h.complete hr (by decide) outcome

theorem wf_start {fsm : Fsm} (hc : fsm.calls = []) (ho : fsm.nodeIdToOp = ∅)
    (hr : fsm.released = none) {p : Presentation} (hp : p.order.Perm fsm.request.nodeIds.dedup)
    (outcome : Int32) : (fsm.start p outcome).1.Wf := by
  have hnodup : p.order.Nodup := hp.nodup_iff.mpr (List.nodup_dedup _)
  have hmem : ∀ n, n ∈ p.order ↔ n ∈ fsm.request.nodeIds := fun n =>
    hp.mem_iff.trans List.mem_dedup
  unfold start
  split
  · next hempty =>
    have hnil : fsm.request.nodeIds = [] := List.isEmpty_iff.mp hempty
    constructor <;> simp [Fsm.complete, issuedNodes, resolvedNodes, resolutions, hc, hnil]
  · next hempty =>
    simp only
    rcases callEach_cases p (p.now + fsm.request.timeoutUs.toInt64.toInt) fsm.request.payload
      p.order fsm with heq | ⟨issued, n, rest, e, horder, he, heq⟩
    · have hne : p.order ≠ [] := fun hnil => hempty (by
        rw [List.isEmpty_iff, List.eq_nil_iff_forall_not_mem]
        intro n hn
        rw [← hmem, hnil] at hn
        cases hn)
      obtain ⟨first, hfirst⟩ := List.exists_mem_of_ne_nil _ hne
      rw [heq]
      simp only [ne_eq, not_true_eq_false, if_false]
      constructor
      case waiting =>
        intro _ hnil
        have hin : first ∈ p.order.foldl (emplace · · (⟨p.now +
            fsm.request.timeoutUs.toInt64.toInt, fsm.request.payload⟩ : CyNodeOp))
            fsm.nodeIdToOp := (mem_foldl_emplace _ _ _ _).mpr (Or.inl hfirst)
        rw [AList.mem_keys] at hin
        simp only at hnil
        rw [hnil] at hin
        cases hin
      all_goals simp [issuedNodes, resolvedNodes, resolutions, hc, hr, ho, hnodup, hmem,
        mem_foldl_emplace, List.filterMap_map]
    · have hsub : ∀ m ∈ issued, m ∈ fsm.request.nodeIds := fun m hm =>
        (hmem m).mp (by rw [horder]; exact List.mem_append_left _ hm)
      have hissued : issued.Nodup := by
        rw [horder] at hnodup
        exact hnodup.of_append_left
      rw [heq]
      simp only [ne_eq, he, not_false_eq_true, if_true]
      constructor
      all_goals simp [Fsm.complete, issuedNodes, resolvedNodes, resolutions, hc, hissued, he,
        List.filterMap_map]
      exact hsub

theorem wf_resolve {fsm : Fsm} (h : fsm.Wf) (hr : fsm.released = none) {nodeId : NodeId}
    (hn : nodeId ∈ fsm.nodeIdToOp) (spec : ExecCmdSpec) (result : PromiseResult)
    (sendOutcome outcome : Int32) :
    (fsm.resolve spec nodeId result sendOutcome outcome).1.Wf := by
  obtain ⟨_, hissued, hnew⟩ := (h.pending nodeId).mp hn
  have hissuedNodes : ∀ {ops rel}, issuedNodes { fsm with
      nodeIdToOp := ops, released := rel,
      calls := fsm.calls ++ [.resolved nodeId result] } = fsm.issuedNodes := by
    simp [issuedNodes]
  have hresolved : ∀ {ops rel}, resolvedNodes { fsm with
      nodeIdToOp := ops, released := rel,
      calls := fsm.calls ++ [.resolved nodeId result] } = fsm.resolvedNodes ++ [nodeId] := by
    simp [resolvedNodes, resolutions]
  have hleft : ∀ n, n ∈ fsm.nodeIdToOp.erase nodeId ↔
      n ∈ fsm.issuedNodes ∧ n ∉ fsm.resolvedNodes ++ [nodeId] := by
    intro n
    rw [AList.mem_erase, h.pending n]
    simp only [hr, true_and, List.mem_append, List.mem_singleton]
    tauto
  have honce : (fsm.resolvedNodes ++ [nodeId]).Nodup :=
    List.nodup_append.mpr ⟨h.resolvedOnce, by simp, by
      intro a ha b hb heq
      rw [List.mem_singleton.mp hb] at heq
      exact hnew (heq ▸ ha)⟩
  have hsub : ∀ n ∈ fsm.resolvedNodes ++ [nodeId], n ∈ fsm.issuedNodes := by
    intro n hn
    rcases List.mem_append.mp hn with hn | hn
    · exact h.resolvedIssued n hn
    · rwa [List.mem_singleton.mp hn]
  have hrefusal := h.not_refused hr
  unfold resolve
  simp only
  split
  · next hempty =>
    have hkeys : ∀ n, n ∉ fsm.nodeIdToOp.erase nodeId := by
      intro n hn
      rw [AList.mem_keys, List.isEmpty_iff.mp hempty] at hn
      cases hn
    constructor
    case done =>
      intro _ n hn
      simp only [Fsm.complete, hissuedNodes, hresolved] at hn ⊢
      by_contra hout
      exact hkeys n ((hleft n).mpr ⟨hn, hout⟩)
    all_goals simp only [Fsm.complete, hissuedNodes, hresolved]
    · exact h.issuedOnce
    · exact h.issuedSome
    · exact honce
    · exact hsub
    · simp
    · simp
    · exact fun _ => h.whole (Or.inl hr)
    · simp [hrefusal]
  · next hne =>
    constructor
    all_goals simp only [hissuedNodes, hresolved]
    · exact h.issuedOnce
    · exact h.issuedSome
    · exact honce
    · exact hsub
    · simpa [hr] using hleft
    · exact fun _ hnil => hne (by rw [hnil]; rfl)
    · exact fun _ => h.whole (Or.inl hr)
    · simp [hr]
    · simp [hrefusal]

theorem callEach_keeps (p : Presentation) (deadline : Int) (cyRequest : NodeRequest)
    (order : List NodeId) (fsm : Fsm) :
    let fsm' := (fsm.callEach p deadline cyRequest order).1
    fsm'.channel = fsm.channel ∧ fsm'.request = fsm.request ∧ fsm'.released = fsm.released ∧
      fsm'.responses = fsm.responses := by
  rcases callEach_cases p deadline cyRequest order fsm with heq | ⟨issued, n, rest, e, _, _, heq⟩
  · rw [heq]
    refine ⟨rfl, rfl, rfl, ?_⟩
    simp [responses, resolutions, List.filterMap_map]
  · rw [heq]
    refine ⟨rfl, rfl, rfl, ?_⟩
    simp [responses, resolutions, List.filterMap_map]

def goodbye (fsm : Fsm) (outcome : Int32) : List ServerAction :=
  match fsm.released with
  | some err => [.complete fsm.channel err, .release fsm.channel outcome]
  | none => []

theorem start_keeps {fsm : Fsm} (hr : fsm.released = none) (p : Presentation)
    (outcome : Int32) :
    let x := fsm.start p outcome
    x.1.channel = fsm.channel ∧ x.1.request = fsm.request ∧ x.1.responses = fsm.responses ∧
      x.2 = x.1.goodbye outcome := by
  unfold start
  split
  · exact ⟨rfl, rfl, rfl, rfl⟩
  · simp only
    obtain ⟨hc, hq, hrel, hres⟩ := callEach_keeps p
      (p.now + fsm.request.timeoutUs.toInt64.toInt) fsm.request.payload p.order fsm
    split
    · exact ⟨hc, hq, hres, rfl⟩
    · exact ⟨hc, hq, hres, by simp [goodbye, hrel, hr]⟩

def answer (nodeId : NodeId) (result : PromiseResult) : List Response :=
  match result with
  | .ok response => [⟨nodeId, response⟩]
  | .error _ => []

theorem resolve_keeps {fsm : Fsm} (hr : fsm.released = none) (spec : ExecCmdSpec)
    (nodeId : NodeId) (result : PromiseResult) (sendOutcome outcome : Int32) :
    let x := fsm.resolve spec nodeId result sendOutcome outcome
    x.1.channel = fsm.channel ∧ x.1.request = fsm.request ∧
      x.1.responses = fsm.responses ++ answer nodeId result ∧
      x.2 = fsm.respond spec nodeId result sendOutcome ++ x.1.goodbye outcome := by
  have hres : ∀ {ops rel}, responses { fsm with
      nodeIdToOp := ops, released := rel,
      calls := fsm.calls ++ [.resolved nodeId result] } =
      fsm.responses ++ answer nodeId result := by
    cases result <;> simp [responses, resolutions, answer]
  unfold resolve
  simp only
  split
  · exact ⟨rfl, rfl, hres, rfl⟩
  · exact ⟨rfl, rfl, hres, by simp [goodbye, hr]⟩

end Fsm

namespace ExecCmdService

theorem idToFsm_eq_some {s : ExecCmdService} {id : Nat} {fsm : Fsm} :
    s.idToFsm id = some fsm ↔ s.fsms[id]? = some fsm ∧ fsm.released = none := by
  simp [idToFsm, Option.filter_eq_some_iff]

theorem handlerOf_eq {s : ExecCmdService} {id : Nat} {fsm : Fsm} (h : s.idToFsm id = some fsm)
    (hone : ∀ (i : Nat) (fsm' : Fsm), s.fsms[i]? = some fsm' → fsm'.channel = fsm.channel →
      i = id) : s.handlerOf fsm.channel = some id := by
  obtain ⟨hf, hr⟩ := idToFsm_eq_some.mp h
  have hlt : id < s.fsms.length := (List.getElem?_eq_some_iff.mp hf).1
  unfold handlerOf
  rw [List.findIdx?_eq_some_iff_getElem]
  obtain ⟨_, hget⟩ := List.getElem?_eq_some_iff.mp hf
  refine ⟨hlt, by simp [hget, hr], fun j hj hj' => ?_⟩
  simp only [decide_eq_true_eq] at hj'
  have hid := hone j _ (List.getElem?_eq_getElem (by omega)) hj'.1
  omega

theorem newChannel_eq_some {spec : ExecCmdSpec} {p : Presentation} {channel : GatewayId}
    {request : Request} {outcome : Int32} {s : ExecCmdService}
    {x : ExecCmdService × List ServerAction} :
    s.newChannel spec p channel request outcome = some x ↔
      (s.fsms.length < 2^64 ∧ p.order.Perm request.nodeIds.dedup) ∧
      x = ({ fsms := s.fsms ++ [(({ channel := channel, request := request } : Fsm).start p
          outcome).1] },
        .subscribe channel (some (input spec)) ::
          (({ channel := channel, request := request } : Fsm).start p outcome).2) := by
  unfold newChannel
  split
  · next hg =>
    constructor
    · rintro ⟨⟩
      exact ⟨hg, rfl⟩
    · rintro ⟨_, rfl⟩
      rfl
  · next hg => exact ⟨fun h => (by cases h), fun h => absurd h.1 hg⟩

theorem act_eq {s : ExecCmdService} {id : Nat} {fsm : Fsm} (h : s.idToFsm id = some fsm)
    (f : Fsm → Fsm × List ServerAction) :
    s.act id f = some ({ fsms := s.fsms.set id (f fsm).1 }, (f fsm).2) := by
  simp [act, h]

end ExecCmdService

end Ocvsmd.Svc
