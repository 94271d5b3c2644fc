import Ocvsmd.Chrono
import Ocvsmd.ExecCmdService

set_option autoImplicit false

namespace Ocvsmd.Svc

open Ipc (Bytes)

/-- `NodeCommandClientImpl::sendCommand`. The count is unsigned before it is compared. -/
def sendCommand (nodeIds : List NodeId) (nodeRequest : NodeRequest) (timeout : Int64) :
    Request where
  timeoutUs := max 0 timeout.toUInt64
  nodeIds := nodeIds
  payload := nodeRequest

def Fsm.deadline (now : Int64) (request : Request) : Option Int64 :=
  Chrono.add now request.timeoutUs.toInt64

theorem Fsm.start_deadline {now d : Int64} {fsm : Fsm} {p : Presentation}
    (hd : deadline now fsm.request = some d) (hp : p.now = now.toInt) (outcome : Int32)
    {n : NodeId} {op : CyNodeOp}
    (hop : CyphalCall.issued n op ∈ (fsm.start p outcome).1.calls) :
    CyphalCall.issued n op ∈ fsm.calls ∨ op.deadline = d.toInt := by
  have hsum : p.now + fsm.request.timeoutUs.toInt64.toInt = d.toInt := by
    rw [hp, Chrono.checked_eq_some.mp hd]
  unfold start at hop
  rw [hsum] at hop
  split at hop
  · exact Or.inl hop
  · rcases callEach_cases p d.toInt fsm.request.payload p.order fsm with
      heq | ⟨issued, m, rest, e, -, he, heq⟩
    · simp only [heq, ne_eq, not_true_eq_false, if_false, List.mem_append, List.mem_map,
        CyphalCall.issued.injEq] at hop
      rcases hop with hop | ⟨_, _, rfl, rfl⟩
      · exact Or.inl hop
      · exact Or.inr rfl
    · simp only [heq, ne_eq, he, not_false_eq_true, if_true, Fsm.complete, List.mem_append,
        List.mem_map, CyphalCall.issued.injEq, List.mem_singleton, reduceCtorEq,
        or_false] at hop
      rcases hop with hop | ⟨_, _, rfl, rfl⟩
      · exact Or.inl hop
      · exact Or.inr rfl

/-- What a request asks for is the timeout, unless that is negative, and the deadline is
that much later, or the last time that there is. -/
structure TimeoutSurvives (timeout now : Int64) (request : Request) : Prop where
  asked : (request.timeoutUs.toNat : Int) = max 0 timeout.toInt
  deadline : ∃ d, Fsm.deadline now request = some d ∧
    d.toInt = min (now.toInt + max 0 timeout.toInt) (2^63 - 1) ∧ now.toInt ≤ d.toInt

theorem sendCommand_timeoutUs (nodeIds : List NodeId) (nodeRequest : NodeRequest)
    (timeout : Int64) :
    (sendCommand nodeIds nodeRequest timeout).timeoutUs = timeout.toUInt64 := by
  show (if 0 ≤ timeout.toUInt64 then timeout.toUInt64 else 0) = timeout.toUInt64
  exact if_pos UInt64.zero_le

theorem toNat_toUInt64 (x : Int64) :
    (x.toUInt64.toNat : Int) = if 0 ≤ x.toInt then x.toInt else x.toInt + 2^64 := by
  have hle := x.le_toInt
  have hlt := x.toInt_lt
  have hsigned : x.toInt = if 2 * x.toUInt64.toNat < 2^64 then (x.toUInt64.toNat : Int)
      else x.toUInt64.toNat - 2^64 := BitVec.toInt_eq_toNat_cond x.toBitVec
  have hnat := x.toUInt64.toNat_lt
  split at hsigned <;> split <;> omega

theorem deadline_sendCommand (nodeIds : List NodeId) (nodeRequest : NodeRequest)
    (timeout now : Int64) :
    Fsm.deadline now (sendCommand nodeIds nodeRequest timeout) = Chrono.add now timeout := by
  rw [Fsm.deadline, sendCommand_timeoutUs, Int64.toInt64_toUInt64]

/-- A request reaches the daemon as it was made, `start` gives everything it issues the
deadline, and that is the one that was asked for just if the timeout is not negative and
the sum does not overflow. -/
theorem sendCommand_timeout_iff (timeout now : Int64) (nodeIds : List NodeId)
    (nodeRequest : NodeRequest) :
    (∀ (spec : ExecCmdSpec) (b : Bytes),
      spec.serializeRequest (sendCommand nodeIds nodeRequest timeout) = some b →
      spec.deserializeRequest b = some (sendCommand nodeIds nodeRequest timeout)) ∧
    (∀ (fsm : Fsm) (p : Presentation) (outcome : Int32) (d : Int64),
      fsm.request = sendCommand nodeIds nodeRequest timeout → p.now = now.toInt →
      Fsm.deadline now fsm.request = some d →
      ∀ n op, CyphalCall.issued n op ∈ (fsm.start p outcome).1.calls →
        CyphalCall.issued n op ∈ fsm.calls ∨ op.deadline = d.toInt) ∧
    (TimeoutSurvives timeout now (sendCommand nodeIds nodeRequest timeout) ↔
      0 ≤ timeout.toInt ∧ now.toInt + timeout.toInt ≤ 2^63 - 1) := by
  refine ⟨fun spec b hb => spec.deserialize_request hb, ?_, ?_⟩
  · intro fsm p outcome d _ hp hd n op hop
    exact Fsm.start_deadline hd hp outcome hop
  have hle := timeout.le_toInt
  have hlt := timeout.toInt_lt
  have hnow := now.le_toInt
  constructor
  · rintro ⟨hasked, d, hd, -, -⟩
    rw [sendCommand_timeoutUs, toNat_toUInt64] at hasked
    rw [deadline_sendCommand] at hd
    have hsum := Chrono.checked_eq_some.mp hd
    have hmax := d.toInt_lt
    split at hasked <;> omega
  · rintro ⟨hpos, hsum⟩
    obtain ⟨d, hd⟩ := Chrono.exists_checked (x := now.toInt + timeout.toInt) |>.mpr
      ⟨by omega, by omega⟩
    have hval := Chrono.checked_eq_some.mp hd
    refine ⟨?_, d, ?_, by omega, by omega⟩
    · rw [sendCommand_timeoutUs, toNat_toUInt64, if_pos hpos]
      omega
    · rw [deadline_sendCommand]
      exact hd

/-- A timeout of minus one microsecond asks for the longest time there is, and its
deadline is over before it begins. -/
theorem negative_timeout_wraps : ¬ ∀ (timeout now : Int64) (nodeIds : List NodeId)
    (nodeRequest : NodeRequest),
    TimeoutSurvives timeout now (sendCommand nodeIds nodeRequest timeout) := by
  intro h
  have hasked := (h (-1) 0 [1] ⟨0, []⟩).asked
  exact absurd hasked (by decide)

end Ocvsmd.Svc
