import Ocvsmd.FrameParser
import Ocvsmd.Runs

/-!
The two executors below the pipe, and what they leave unread. `epoll` reports a socket as
long as there is something to read; `kqueue` with `EV_CLEAR` reports it once for what has
arrived.
-/

set_option autoImplicit false

namespace Ocvsmd.Platform

open Ipc (Bytes Syscall Errno EINVAL)
open Ipc.SocketBase (State Socket MsgMaxSize receiveMessage parse)

inductive Trigger where
  | epoll : Trigger
  | kqueue : Trigger
  deriving DecidableEq

def MaxEvents : Nat := 16

/-- A registered callback: whether something has arrived that was not reported yet, and
whether the callback is scheduled. -/
structure AwaitableNode where
  arrived : Bool := false
  scheduled : Bool := false

inductive Stage where
  | waiting : Stage
  | registered : AwaitableNode → State → Stage
  | gone : Stage

structure Peer where
  buffer : Bytes := []
  closed : Bool := false
  stage : Stage := .waiting

/-- A socket server on an executor: the listening socket and every connection ever made. -/
structure Server where
  listener : AwaitableNode := {}
  peers : List Peer := []

inductive Source where
  | listener : Source
  | connection : Nat → Source

inductive Action where
  | connects : Action
  | arrives : Nat → Bytes → Action
  | closes : Nat → Action
  | poll : List Source → Action
  | handleAccept : Option Nat → Action
  | handleClientRequest : Nat → (Bytes → Int32) → Bytes → Action

namespace Stage

def isWaiting : Stage → Bool
  | .waiting => true
  | _ => false

def note : Stage → Stage
  | .registered node state => .registered { node with arrived := true } state
  | stage => stage

/-- `schedule(Callback::Schedule::Once{..})`, by an event that is cleared with it. -/
def report : Stage → Stage
  | .registered _ state => .registered ⟨false, true⟩ state
  | stage => stage

theorem note_registered {s : Stage} {node : AwaitableNode} {state : State}
    (h : s.note = .registered node state) :
    (∃ node', s = .registered node' state) ∧ node.arrived = true := by
  cases s with
  | registered node' state' =>
    simp only [note, registered.injEq] at h
    obtain ⟨rfl, rfl⟩ := h
    exact ⟨⟨node', rfl⟩, rfl⟩
  | waiting => cases h
  | gone => cases h

theorem note_waiting {s : Stage} (h : s.note = .waiting) : s = .waiting := by
  cases s with
  | registered node state => cases h
  | waiting => rfl
  | gone => cases h

theorem report_registered {s : Stage} {node : AwaitableNode} {state : State}
    (h : s.report = .registered node state) :
    (∃ node', s = .registered node' state) ∧ node.scheduled = true := by
  cases s with
  | registered node' state' =>
    simp only [report, registered.injEq] at h
    obtain ⟨rfl, rfl⟩ := h
    exact ⟨⟨node', rfl⟩, rfl⟩
  | waiting => cases h
  | gone => cases h

theorem report_waiting {s : Stage} (h : s.report = .waiting) : s = .waiting := by
  cases s with
  | registered node state => cases h
  | waiting => rfl
  | gone => cases h

end Stage

namespace Server

def modify (s : Server) (i : Nat) (f : Peer → Peer) : Server :=
  { s with peers := s.peers.modify i f }

def peerReady (t : Trigger) (p : Peer) : Bool :=
  match p.stage with
  | .registered node _ =>
    match t with
    | .epoll => !p.buffer.isEmpty || p.closed
    | .kqueue => node.arrived
  | _ => false

def ready (t : Trigger) (s : Server) : Source → Bool
  | .listener =>
    match t with
    | .epoll => s.peers.any (·.stage.isWaiting)
    | .kqueue => s.listener.arrived
  | .connection i => (s.peers[i]?).any (peerReady t)

def report (s : Server) : Source → Server
  | .listener => { s with listener := ⟨false, true⟩ }
  | .connection i => s.modify i fun p => { p with stage := p.stage.report }

/-- Registration makes an event of what is there already. -/
def register (p : Peer) : Peer :=
  { p with stage := .registered ⟨!p.buffer.isEmpty || p.closed, false⟩ {} }

def firstAnswer (buffer during : Bytes) : Syscall Nat :=
  if buffer.isEmpty && !during.isEmpty then .error .EAGAIN else .done (buffer.length - 1)

def socketOf (p : Peer) (during : Bytes) : Socket :=
  ⟨p.buffer ++ during, [firstAnswer p.buffer during, .done MsgMaxSize], p.closed⟩

/-- One callback reads one message at most. -/
def handleClientRequest (action : Bytes → Int32) (during : Bytes) (p : Peer)
    (node : AwaitableNode) (state : State) : Peer :=
  let r := receiveMessage action state (socketOf p during)
  if r.code ≠ 0 then { p with stage := .gone }
  else { p with
    buffer := r.socket.unread
    stage := .registered ⟨node.arrived || !during.isEmpty, false⟩ r.state }

/-- `none` when the action cannot happen. Nothing comes after the end of a stream, and the
callback of a closed connection is gone. -/
def step (t : Trigger) (s : Server) : Action → Option Server
  | .connects =>
    some { listener := { s.listener with arrived := true }, peers := s.peers ++ [{}] }
  | .arrives i bytes =>
    if (s.peers[i]?).any (!·.closed) ∧ bytes ≠ [] then
      some (s.modify i fun p => { p with buffer := p.buffer ++ bytes, stage := p.stage.note })
    else none
  | .closes i =>
    some (s.modify i fun p => { p with closed := true, stage := p.stage.note })
  | .poll sources =>
    if sources.length ≤ MaxEvents ∧ ∀ x ∈ sources, s.ready t x = true then
      some (sources.foldl report s)
    else none
  | .handleAccept none =>
    if s.listener.scheduled ∧ ¬ s.peers.any (·.stage.isWaiting) then
      some { s with listener := { s.listener with scheduled := false } }
    else none
  | .handleAccept (some i) =>
    if s.listener.scheduled ∧ (s.peers[i]?).any (·.stage.isWaiting) then
      some ({ s with listener := { s.listener with scheduled := false } }.modify i register)
    else none
  | .handleClientRequest i action during =>
    match s.peers[i]? with
    | some p =>
      match p.stage with
      | .registered node state =>
        if node.scheduled ∧ (p.closed → during = []) then
          some (s.modify i fun p => handleClientRequest action during p node state)
        else none
      | _ => none
    | none => none

structure Quiet (t : Trigger) (s : Server) : Prop where
  reported : ∀ x, s.ready t x = false
  accepted : s.listener.scheduled = false
  handled : ∀ (i : Nat) (p : Peer) (node : AwaitableNode) (state : State),
    s.peers[i]? = some p → p.stage = .registered node state → node.scheduled = false

/-- A connection that nobody accepts, or a complete frame that nobody reads. -/
def Stranded (s : Server) : Prop :=
  ∃ (i : Nat) (p : Peer), s.peers[i]? = some p ∧ (p.stage = .waiting ∨
    ∃ node state, p.stage = .registered node state ∧ state.expects p.buffer ≠ [])

inductive Performs (t : Trigger) (s : Server) : Action → Server → Prop where
  | connects :
      Performs t s .connects
        { listener := { s.listener with arrived := true }, peers := s.peers ++ [{}] }
  | arrives (i : Nat) (bytes : Bytes) :
      Performs t s (.arrives i bytes)
        (s.modify i fun p => { p with buffer := p.buffer ++ bytes, stage := p.stage.note })
  | closes (i : Nat) :
      Performs t s (.closes i)
        (s.modify i fun p => { p with closed := true, stage := p.stage.note })
  | polls (sources : List Source) : Performs t s (.poll sources) (sources.foldl report s)
  | wakes (unneeded : ∀ p ∈ s.peers, p.stage.isWaiting = false) :
      Performs t s (.handleAccept none)
        { s with listener := { s.listener with scheduled := false } }
  | accepts (i : Nat) :
      Performs t s (.handleAccept (some i))
        ({ s with listener := { s.listener with scheduled := false } }.modify i register)
  | handles {i : Nat} {p : Peer} {node : AwaitableNode} {state : State}
      (action : Bytes → Int32) (during : Bytes) (found : s.peers[i]? = some p)
      (registered : p.stage = .registered node state) :
      Performs t s (.handleClientRequest i action during)
        (s.modify i fun p => handleClientRequest action during p node state)

theorem performs {t : Trigger} {s s' : Server} {a : Action} (hs : s.step t a = some s') :
    Performs t s a s' := by
  cases a with
  | connects =>
    cases hs
    exact .connects
  | arrives i bytes =>
    obtain ⟨-, hs⟩ := Option.ite_none_right_eq_some.mp hs
    cases hs
    exact .arrives i bytes
  | closes i =>
    cases hs
    exact .closes i
  | poll sources =>
    obtain ⟨-, hs⟩ := Option.ite_none_right_eq_some.mp hs
    cases hs
    exact .polls sources
  | handleAccept i =>
    cases i with
    | none =>
      obtain ⟨⟨-, hnone⟩, hs⟩ := Option.ite_none_right_eq_some.mp hs
      cases hs
      exact .wakes (by simpa using hnone)
    | some i =>
      obtain ⟨-, hs⟩ := Option.ite_none_right_eq_some.mp hs
      cases hs
      exact .accepts i
  | handleClientRequest i action during =>
    simp only [step] at hs
    split at hs
    · next p hp =>
      split at hs
      · next node state hstage =>
        obtain ⟨-, hs⟩ := Option.ite_none_right_eq_some.mp hs
        cases hs
        exact .handles action during hp hstage
      · cases hs
    · cases hs

theorem forall_modify {α : Type} {P : α → Prop} {l : List α} {i : Nat} {f : α → α}
    (h : ∀ x ∈ l, P x) (hf : ∀ x, l[i]? = some x → P x → P (f x)) : ∀ x ∈ l.modify i f, P x := by
  intro x hx
  obtain ⟨j, hj⟩ := List.mem_iff_getElem?.mp hx
  rw [List.getElem?_modify] at hj
  by_cases hij : i = j
  · subst hij
    simp only [if_true, Option.map_eq_map, Option.map_eq_some_iff] at hj
    obtain ⟨y, hy, rfl⟩ := hj
    exact hf y hy (h y (List.mem_of_getElem? hy))
  · simp only [hij, if_false, Option.map_eq_map, Option.map_id'] at hj
    exact h x (List.mem_of_getElem? hj)

def Sized (p : Peer) : Prop :=
  ∀ node state, p.stage = .registered node state → state.Sized

theorem Sized.note {p : Peer} (h : Sized p) (buffer : Bytes) (closed : Bool) :
    Sized ⟨buffer, closed, p.stage.note⟩ := by
  intro node state hs
  obtain ⟨⟨node', hp⟩, _⟩ := Stage.note_registered hs
  exact h node' state hp

theorem Sized.report {p : Peer} (h : Sized p) : Sized { p with stage := p.stage.report } := by
  intro node state hs
  obtain ⟨⟨node', hp⟩, _⟩ := Stage.report_registered hs
  exact h node' state hp

theorem sized_register (p : Peer) : Sized (register p) := by
  intro node state hs
  simp only [register, Stage.registered.injEq] at hs
  rw [← hs.2]
  exact fun h => by cases h

theorem sized_handleClientRequest {p : Peer} {node : AwaitableNode} {state : State}
    (hs : state.Sized) (action : Bytes → Int32) (during : Bytes) :
    Sized (handleClientRequest action during p node state) := by
  unfold handleClientRequest
  simp only
  split
  · intro node' state' h
    cases h
  · next hcode =>
    intro node' state' h
    simp only [Stage.registered.injEq] at h
    rw [← h.2]
    cases Ipc.SocketBase.outcome_receiveMessage action (socketOf p during) hs with
    | waits code payload sized parsed bytes => exact sized
    | delivers b code payload sized parsed bytes => exact sized
    | fails code payload => exact absurd code hcode

theorem sized_poll {s : Server} (h : ∀ p ∈ s.peers, Sized p) (sources : List Source) :
    ∀ p ∈ (sources.foldl report s).peers, Sized p := by
  induction sources generalizing s with
  | nil => exact h
  | cons x sources ih =>
    refine ih ?_
    cases x with
    | listener => exact h
    | connection i => exact forall_modify h fun p _ hp => hp.report

theorem sized_step {t : Trigger} {s s' : Server} {a : Action} (h : ∀ p ∈ s.peers, Sized p)
    (hs : s.step t a = some s') : ∀ p ∈ s'.peers, Sized p := by
  cases performs hs with
  | connects =>
    intro p hp
    rcases List.mem_append.mp hp with hp | hp
    · exact h p hp
    · rw [List.mem_singleton.mp hp]
      intro node state hw
      cases hw
  | arrives i bytes => exact forall_modify h fun p _ hp => hp.note _ _
  | closes i => exact forall_modify h fun p _ hp => hp.note _ _
  | polls sources => exact sized_poll h sources
  | wakes unneeded => exact h
  | accepts i => exact forall_modify h fun p _ _ => sized_register p
  | @handles i p node state action during found registered =>
    have hstate := h p (List.mem_of_getElem? found) node state registered
    exact forall_modify h fun q _ _ => sized_handleClientRequest hstate action during

theorem expects_nil {state : State} (hs : state.Sized) : state.expects [] = [] := by
  obtain ⟨size, phase⟩ := state
  cases phase with
  | header =>
    simp only [State.expects]
    rw [parse, if_neg (by simp)]
  | payload =>
    have hpos : 1 ≤ size := (hs rfl).1
    simp only [State.expects, List.length_nil]
    rw [if_neg (by omega)]

/-- Under `epoll` whatever can be read is still to be reported. -/
theorem not_stranded_epoll {s : Server} (hsized : ∀ p ∈ s.peers, Sized p)
    (hq : s.Quiet .epoll) : ¬ s.Stranded := by
  rintro ⟨i, p, hp, hwaiting | ⟨node, state, hstage, hexpects⟩⟩
  · have hready : s.ready .epoll .listener = true :=
      List.any_eq_true.mpr ⟨p, List.mem_of_getElem? hp, by rw [hwaiting]; rfl⟩
    rw [hq.reported] at hready
    cases hready
  · have hstate := hsized p (List.mem_of_getElem? hp) node state hstage
    have hempty : p.buffer = [] := by
      have hnone := hq.reported (.connection i)
      simp only [ready, hp, Option.any_some, peerReady, hstage, Bool.or_eq_false_iff,
        Bool.not_eq_false', List.isEmpty_iff] at hnone
      exact hnone.1
    rw [hempty] at hexpects
    exact hexpects (expects_nil hstate)

theorem recv_done {m n : Nat} {unread : Bytes} (hne : unread ≠ [])
    (answers : List (Syscall Nat)) (closed : Bool) :
    Ipc.SocketBase.recv m ⟨unread, .done n :: answers, closed⟩ =
      (.ok (unread.take (min m (n + 1))), ⟨unread.drop (min m (n + 1)), answers, closed⟩) := by
  simp [Ipc.SocketBase.recv, Ipc.posixSyscallError, hne]

theorem readPayload_done {action : Bytes → Int32} {size n : Nat} {unread : Bytes}
    (hpos : 1 ≤ size) (hsize : size ≤ unread.length) (hn : size ≤ n + 1)
    (answers : List (Syscall Nat)) (closed : Bool) :
    (Ipc.SocketBase.readPayload action ⟨size, .payload⟩
      ⟨unread, .done n :: answers, closed⟩).payload ≠ none := by
  have hne : unread ≠ [] := List.length_pos_iff.mp (by omega)
  have hrecv := recv_done (m := size) (n := n) hne answers closed
  rw [Nat.min_eq_left hn] at hrecv
  have hwhole : (unread.take size).length = (State.mk size .payload).readMsgSize := by
    simp only [List.length_take]
    omega
  rw [Ipc.SocketBase.readPayload_eq, Ipc.SocketBase.readAndAct_whole hrecv hwhole]
  simp

theorem receiveMessage_complete (action : Bytes → Int32) {state : State} (hs : state.Sized)
    {p : Peer} (h : state.expects p.buffer ≠ []) :
    (receiveMessage action state (socketOf p [])).payload ≠ none := by
  have hk : socketOf p [] = ⟨p.buffer, [.done (p.buffer.length - 1), .done MsgMaxSize],
      p.closed⟩ := by
    simp [socketOf, firstAnswer]
  rw [hk]
  obtain ⟨size, phase⟩ := state
  cases phase with
  | payload =>
    have hpos : 1 ≤ size := (hs rfl).1
    have hsize : size ≤ p.buffer.length := by
      by_contra hlt
      refine h ?_
      simp only [State.expects]
      rw [if_neg hlt]
    exact readPayload_done hpos hsize (by omega) _ _
  | header =>
    simp only [State.expects] at h
    rw [parse] at h
    split at h
    · next hgood =>
      obtain ⟨hlen, hsig, hpos, hmax, hfits⟩ := hgood
      have hne : p.buffer ≠ [] := List.length_pos_iff.mp (by omega)
      have hrecv := recv_done (m := 8) (n := p.buffer.length - 1) hne [.done MsgMaxSize] p.closed
      rw [Nat.min_eq_left (by omega)] at hrecv
      have hread : (p.buffer.take 8).length = 8 := by
        simp only [List.length_take]
        omega
      have hsig' : Ipc.readLE 4 (p.buffer.take 8) = Ipc.SocketBase.MsgSignature := by
        rw [Ipc.SocketBase.readLE_take _ (by omega), hsig]
      have hsize : Ipc.readLE 4 ((p.buffer.take 8).drop 4) = Ipc.readLE 4 (p.buffer.drop 4) := by
        rw [List.drop_take, Ipc.SocketBase.readLE_take _ (by omega)]
      simp only [receiveMessage, hrecv, hread, hsig', hsize]
      rw [if_neg (by omega), if_neg (by omega)]
      exact readPayload_done hpos (by rw [List.length_drop]; omega) (by omega) _ _
    · exact absurd rfl h

/-- One callback is enough for one frame. -/
theorem expects_receiveMessage {action : Bytes → Int32} {state : State} (hs : state.Sized)
    {p : Peer} (hone : ∀ b bs, state.expects p.buffer = b :: bs → bs = [] ∨ action b ≠ 0)
    (hcode : (receiveMessage action state (socketOf p [])).code = 0) :
    (receiveMessage action state (socketOf p [])).state.expects
      (receiveMessage action state (socketOf p [])).socket.unread = [] := by
  have hunread : (socketOf p []).unread = p.buffer := List.append_nil _
  cases Ipc.SocketBase.outcome_receiveMessage action (socketOf p []) hs with
  | waits code payload sized parsed bytes =>
    rw [hunread] at parsed
    rw [← parsed]
    by_contra hmore
    exact receiveMessage_complete action hs hmore payload
  | delivers b code payload sized parsed bytes =>
    rw [hunread] at parsed
    rcases hone b _ parsed with hlast | hfails
    · exact hlast
    · exact absurd (code.symm.trans hcode) hfails
  | fails code payload => exact absurd hcode code

/-- Under `kqueue` something is to be done about whatever can be read. -/
structure Covered (s : Server) : Prop where
  frames : ∀ p ∈ s.peers, ∀ node state, p.stage = .registered node state →
    state.expects p.buffer ≠ [] → node.arrived = true ∨ node.scheduled = true
  connections : ∀ p ∈ s.peers, p.stage = .waiting →
    s.listener.arrived = true ∨ s.listener.scheduled = true

/-- A callback finds no more than the one frame or connection that it takes, or there is
an event for the rest, or the connection does not outlive that frame. -/
def OneAtATime (s : Server) : Action → Prop
  | .handleAccept (some i) => s.listener.arrived = true ∨
    ∀ (j : Nat) (p : Peer), s.peers[j]? = some p → p.stage = .waiting → j = i
  | .handleClientRequest i action during => during ≠ [] ∨
    ∀ (p : Peer) (node : AwaitableNode) (state : State), s.peers[i]? = some p →
      p.stage = .registered node state → node.arrived = true ∨
        ∀ b bs, state.expects p.buffer = b :: bs → bs = [] ∨ action b ≠ 0
  | _ => True

theorem covered_note {s : Server} (h : Covered s) (i : Nat) (f : Peer → Peer)
    (hf : ∀ p, (f p).stage = p.stage.note) : Covered (s.modify i f) := by
  constructor
  · refine forall_modify h.frames ?_
    intro p _ _ node state hs _
    rw [hf] at hs
    exact .inl (Stage.note_registered hs).2
  · refine forall_modify h.connections ?_
    intro p _ hp hs
    rw [hf] at hs
    exact hp (Stage.note_waiting hs)

theorem covered_report {s : Server} (h : Covered s) (x : Source) : Covered (s.report x) := by
  cases x with
  | listener => exact ⟨h.frames, fun _ _ _ => .inr rfl⟩
  | connection i =>
    constructor
    · refine forall_modify h.frames ?_
      intro p _ _ node state hs _
      exact .inr (Stage.report_registered hs).2
    · refine forall_modify h.connections ?_
      intro p _ hp hs
      exact hp (Stage.report_waiting hs)

theorem covered_poll {s : Server} (h : Covered s) (sources : List Source) :
    Covered (sources.foldl report s) := by
  induction sources generalizing s with
  | nil => exact h
  | cons x sources ih => exact ih (covered_report h x)

theorem covered_accept {s : Server} {i : Nat} (h : Covered s)
    (hone : OneAtATime s (.handleAccept (some i))) :
    Covered ({ s with listener := { s.listener with scheduled := false } }.modify i register) := by
  constructor
  · refine forall_modify h.frames ?_
    intro p hp hframes node state hs hexpects
    simp only [register, Stage.registered.injEq] at hs
    obtain ⟨rfl, rfl⟩ := hs
    left
    cases hb : p.buffer with
    | nil =>
      rw [show (register p).buffer = [] from hb] at hexpects
      exact absurd (expects_nil (fun hphase => by cases hphase)) hexpects
    | cons b rest => rfl
  · intro p hp hwaiting
    rcases hone with harrived | hlast
    · exact .inl harrived
    · obtain ⟨j, hj⟩ := List.mem_iff_getElem?.mp hp
      simp only [modify, List.getElem?_modify] at hj
      by_cases hij : i = j
      · subst hij
        simp only [if_true, Option.map_eq_map, Option.map_eq_some_iff] at hj
        obtain ⟨q, hq, rfl⟩ := hj
        cases hwaiting
      · simp only [hij, if_false, Option.map_eq_map, Option.map_id'] at hj
        exact absurd (hlast j p hj hwaiting).symm hij

theorem covered_handleClientRequest {s : Server} (h : Covered s) {i : Nat} {p : Peer}
    {node : AwaitableNode} {state : State} (hp : s.peers[i]? = some p)
    (hstage : p.stage = .registered node state) (hstate : state.Sized)
    {action : Bytes → Int32} {during : Bytes}
    (hone : OneAtATime s (.handleClientRequest i action during)) :
    Covered (s.modify i fun p => handleClientRequest action during p node state) := by
  constructor
  · refine forall_modify h.frames ?_
    intro q hq _ node' state' hs hexpects
    obtain rfl : p = q := Option.some.inj (hp.symm.trans hq)
    unfold handleClientRequest at hs hexpects
    by_cases hcode : (receiveMessage action state (socketOf p during)).code = 0
    · simp only [hcode, ne_eq, not_true_eq_false, if_false, Stage.registered.injEq] at hs hexpects
      obtain ⟨rfl, rfl⟩ := hs
      cases during with
      | cons b rest => exact .inl (Bool.or_true _)
      | nil =>
        rcases hone with hduring | hone
        · exact absurd rfl hduring
        · rcases hone p node state hp hstage with harrived | hone
          · exact .inl (by rw [harrived]; rfl)
          · exact absurd (expects_receiveMessage hstate hone hcode) hexpects
    · simp [hcode] at hs
  · refine forall_modify h.connections ?_
    intro q hq hconnections hs
    obtain rfl : p = q := Option.some.inj (hp.symm.trans hq)
    unfold handleClientRequest at hs
    simp only at hs
    split at hs
    · cases hs
    · cases hs

theorem covered_step {s s' : Server} {a : Action} (h : Covered s)
    (hsized : ∀ p ∈ s.peers, Sized p) (hone : OneAtATime s a)
    (hs : s.step .kqueue a = some s') : Covered s' := by
  cases performs hs with
  | connects =>
    constructor
    · intro p hp node state hstage hexpects
      rcases List.mem_append.mp hp with hp | hp
      · exact h.frames p hp node state hstage hexpects
      · rw [List.mem_singleton.mp hp] at hstage
        cases hstage
    · exact fun _ _ _ => .inl rfl
  | arrives i bytes => exact covered_note h i _ fun _ => rfl
  | closes i => exact covered_note h i _ fun _ => rfl
  | polls sources => exact covered_poll h sources
  | wakes unneeded =>
    refine ⟨h.frames, ?_⟩
    intro p hp hwaiting
    have hnot := unneeded p hp
    rw [hwaiting] at hnot
    cases hnot
  | accepts i => exact covered_accept h hone
  | @handles i p node state action during found registered =>
    have hstate := hsized p (List.mem_of_getElem? found) node state registered
    exact covered_handleClientRequest h found registered hstate hone

theorem not_stranded_kqueue {s : Server} (h : Covered s) (hq : s.Quiet .kqueue) :
    ¬ s.Stranded := by
  rintro ⟨i, p, hp, hwaiting | ⟨node, state, hstage, hexpects⟩⟩
  · have harrived : s.listener.arrived = false := hq.reported .listener
    rcases h.connections p (List.mem_of_getElem? hp) hwaiting with hl | hl
    · rw [harrived] at hl
      cases hl
    · rw [hq.accepted] at hl
      cases hl
  · have harrived : node.arrived = false := by
      have hnone := hq.reported (.connection i)
      simpa only [ready, hp, Option.any_some, peerReady, hstage] using hnone
    rcases h.frames p (List.mem_of_getElem? hp) node state hstage hexpects with hn | hn
    · rw [harrived] at hn
      cases hn
    · rw [hq.handled i p node state hp hstage] at hn
      cases hn

theorem sized_init : ∀ p ∈ ({} : Server).peers, Sized p := by
  intro p hp
  cases hp

/-- Nothing readable is left behind: never under `epoll`, and under `kqueue` unless a
callback runs once for two frames or two connections. -/
theorem nothing_stranded {t : Trigger} {as : List Action} {s : Server}
    (hs : Runs.run (step t) {} as = some s)
    (hone : t = .kqueue → Runs.Always (step t) OneAtATime {} as) (hq : s.Quiet t) :
    ¬ s.Stranded := by
  cases t with
  | epoll =>
    exact not_stranded_epoll (Runs.run_preserves (P := fun s => ∀ p ∈ s.peers, Sized p)
      sized_step sized_init hs) hq
  | kqueue =>
    have hcovered : Covered {} := ⟨fun _ hp => (by cases hp), fun _ hp => (by cases hp)⟩
    refine not_stranded_kqueue (Runs.run_guarded
      (P := fun s => Covered s ∧ ∀ p ∈ s.peers, Sized p) ?_ ⟨hcovered, sized_init⟩ hs
      (hone rfl)).1 hq
    intro s a s' hP ha hstep
    exact ⟨covered_step hP.1 hP.2 ha hstep, sized_step hP.2 hstep⟩

def all_read : Server := ⟨{}, [⟨[], false, .registered {} ⟨1, .header⟩⟩]⟩

theorem quiet_all_read : all_read.Quiet .kqueue := by
  refine ⟨?_, rfl, ?_⟩
  · intro x
    cases x with
    | listener => rfl
    | connection i => cases i <;> rfl
  · intro i p node state hp hs
    cases i with
    | zero => cases hp; cases hs; rfl
    | succ i => cases hp

def oneByOne : List Action :=
  [.connects, .poll [.listener], .handleAccept (some 0),
    .arrives 0 (Ipc.SocketBase.framesOf [[1]]), .poll [.connection 0],
    .handleClientRequest 0 (fun _ => 0) (Ipc.SocketBase.framesOf [[2]]), .poll [.connection 0],
    .handleClientRequest 0 (fun _ => 0) []]

theorem nothing_stranded_oneByOne : ¬ all_read.Stranded := by
  have hrun : Runs.run (step .kqueue) {} oneByOne = some all_read := rfl
  refine nothing_stranded hrun ?_ quiet_all_read
  intro _
  unfold oneByOne
  refine Runs.always_cons.mpr ⟨trivial, ?_⟩
  rintro _ ⟨⟩
  refine Runs.always_cons.mpr ⟨trivial, ?_⟩
  rintro _ ⟨⟩
  refine Runs.always_cons.mpr ⟨.inr ?_, ?_⟩
  · intro j p hp hs
    cases j with
    | zero => rfl
    | succ j => cases hp
  rintro _ ⟨⟩
  refine Runs.always_cons.mpr ⟨trivial, ?_⟩
  rintro _ ⟨⟩
  refine Runs.always_cons.mpr ⟨trivial, ?_⟩
  rintro _ ⟨⟩
  refine Runs.always_cons.mpr ⟨.inl (by decide), ?_⟩
  rintro _ ⟨⟩
  refine Runs.always_cons.mpr ⟨trivial, ?_⟩
  rintro _ ⟨⟩
  refine Runs.always_cons.mpr ⟨.inr ?_, fun _ _ => Runs.always_nil⟩
  intro p node state hp hs
  cases hp
  cases hs
  refine .inr ?_
  intro b bs hbs
  left
  simp only [State.expects] at hbs
  rw [parse, parse] at hbs
  cases hbs
  rfl

def left_behind : Server :=
  ⟨{}, [⟨Ipc.SocketBase.framesOf [[2]], false, .registered {} ⟨1, .header⟩⟩]⟩

theorem frame_left_behind : ∃ s : Server, Runs.Reachable (step .kqueue) {} s ∧
    s.Quiet .kqueue ∧ s.Stranded := by
  refine ⟨left_behind, ⟨[.connects, .poll [.listener], .handleAccept (some 0),
    .arrives 0 (Ipc.SocketBase.framesOf [[1], [2]]), .poll [.connection 0],
    .handleClientRequest 0 (fun _ => 0) []], by rfl⟩, ⟨?_, rfl, ?_⟩, 0, _, rfl, .inr ⟨_, _, rfl, ?_⟩⟩
  · intro x
    cases x with
    | listener => rfl
    | connection i => cases i <;> rfl
  · intro i p node state hp hs
    cases i with
    | zero => cases hp; cases hs; rfl
    | succ i => cases hp
  · simp only [State.expects]
    rw [parse]
    decide

end Server

end Ocvsmd.Platform
