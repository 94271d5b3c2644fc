import Mathlib.Data.List.Induction
import Ocvsmd.GatewayHistory

set_option autoImplicit false

namespace Ocvsmd.Ipc

/-- The sequences of the messages that the pipe took, when it answered the sends of one
gateway in this way and the sequence is taken before the pipe is asked. -/
def carriedBy (outcomes : List Int32) : List Nat :=
  outcomes.zipIdx.filterMap fun p => if p.1 = 0 then some (p.2 % 2^64) else none

def refusals (outcomes : List Int32) : Nat := outcomes.countP (· ≠ 0)

def Consecutive (sequences : List Nat) : Prop :=
  sequences = (List.range sequences.length).map (· % 2^64)

instance (sequences : List Nat) : Decidable (Consecutive sequences) :=
  inferInstanceAs (Decidable (sequences = (List.range sequences.length).map (· % 2^64)))

/-- No message is taken after one was refused: not unless 2^64 of them were. -/
def NoneAfterRefusal (outcomes : List Int32) : Prop :=
  ∀ i : Nat, outcomes[i]? = some 0 → refusals (outcomes.take i) % 2^64 = 0

theorem carriedBy_append (outcomes : List Int32) (o : Int32) :
    carriedBy (outcomes ++ [o]) =
      carriedBy outcomes ++ if o = 0 then [outcomes.length % 2^64] else [] := by
  by_cases h : o = 0 <;> simp [carriedBy, List.zipIdx_append, h]

theorem carriedBy_length (outcomes : List Int32) :
    (carriedBy outcomes).length + refusals outcomes = outcomes.length := by
  induction outcomes using List.reverseRecOn with
  | nil => rfl
  | append_singleton outcomes o ih =>
    rw [carriedBy_append]
    by_cases h : o = 0
    · simp [refusals, h] at ih ⊢
      omega
    · simp [refusals, h] at ih ⊢
      omega

theorem Consecutive.append_iff (sequences : List Nat) (n : Nat) :
    Consecutive (sequences ++ [n]) ↔ Consecutive sequences ∧ n = sequences.length % 2^64 := by
  unfold Consecutive
  rw [List.length_append, List.length_singleton, List.range_succ, List.map_append]
  constructor
  · intro h
    obtain ⟨hs, hn⟩ := List.append_inj h (by simp)
    exact ⟨hs, by simpa using hn⟩
  · rintro ⟨hs, hn⟩
    rw [← hs, hn]
    rfl

theorem NoneAfterRefusal.append_iff (outcomes : List Int32) (o : Int32) :
    NoneAfterRefusal (outcomes ++ [o]) ↔
      NoneAfterRefusal outcomes ∧ (o = 0 → refusals outcomes % 2^64 = 0) := by
  constructor
  · intro h
    refine ⟨fun i hi => ?_, fun ho => ?_⟩
    · have hlt : i < outcomes.length := (List.getElem?_eq_some_iff.mp hi).1
      have hr := h i (by rw [List.getElem?_append_left hlt]; exact hi)
      rwa [List.take_append_of_le_length (by omega)] at hr
    · have hr := h outcomes.length (by simp [ho])
      rwa [List.take_append_of_le_length (by omega), List.take_length] at hr
  · rintro ⟨h, ho⟩ i hi
    rcases Nat.lt_trichotomy i outcomes.length with hlt | heq | hgt
    · rw [List.getElem?_append_left hlt] at hi
      rw [List.take_append_of_le_length (by omega)]
      exact h i hi
    · subst heq
      rw [List.take_append_of_le_length (by omega), List.take_length]
      exact ho (by simpa using hi)
    · rw [List.getElem?_eq_none (by simp; omega)] at hi
      cases hi

theorem carriedBy_consecutive_iff (outcomes : List Int32) :
    Consecutive (carriedBy outcomes) ↔ NoneAfterRefusal outcomes := by
  induction outcomes using List.reverseRecOn with
  | nil => simp [Consecutive, carriedBy, NoneAfterRefusal]
  | append_singleton outcomes o ih =>
    have hlen := carriedBy_length outcomes
    rw [carriedBy_append, NoneAfterRefusal.append_iff, ← ih]
    by_cases h : o = 0
    · rw [if_pos h, Consecutive.append_iff]
      have hiff : outcomes.length % 2^64 = (carriedBy outcomes).length % 2^64 ↔
          refusals outcomes % 2^64 = 0 := by omega
      simp only [h, true_implies, hiff]
    · simp [h]

namespace GatewayImpl

def offers {E : Type} (gw : GatewayImpl E) : List (Nat × Int32) :=
  gw.posts.filterMap fun p => match p.1 with
    | .msg sequence _ => some (sequence, p.2)
    | .fin _ => none

def outcomes {E : Type} (gw : GatewayImpl E) : List Int32 := gw.offers.map (·.2)

def carried {E : Type} (gw : GatewayImpl E) : List Nat :=
  gw.offers.filterMap fun p => if p.2 = 0 then some p.1 else none

/-- Every message offered takes the next number, whatever becomes of it. -/
structure Sequenced {E : Type} (gw : GatewayImpl E) : Prop where
  next : gw.nextSequence = UInt64.ofNat gw.offers.length
  offers : gw.offers = gw.outcomes.zipIdx.map fun p => (p.2 % 2^64, p.1)

theorem offers_post_msg {E : Type} (gw : GatewayImpl E) (n : Nat) (payload : Bytes)
    (outcome : Int32) :
    (gw.post (.msg n payload) outcome).offers = gw.offers ++ [(n, outcome)] := by
  simp [offers, post]

theorem Sequenced.send {E : Type} {gw : GatewayImpl E} (h : gw.Sequenced) (payload : Bytes)
    (outcome : Int32) :
    (gw.advance.post (.msg gw.nextSequence.toNat payload) outcome).Sequenced := by
  have hoffers : (gw.advance.post (.msg gw.nextSequence.toNat payload) outcome).offers =
      gw.offers ++ [(gw.nextSequence.toNat, outcome)] := offers_post_msg gw.advance _ _ _
  have hnext : gw.nextSequence.toNat = gw.offers.length % 2^64 := by
    rw [h.next, UInt64.toNat_ofNat']
  constructor
  · rw [hoffers, List.length_append, List.length_singleton, UInt64.ofNat_add, ← h.next]
    rfl
  · rw [outcomes, hoffers, List.map_append, List.zipIdx_append, List.map_append]
    change _ ++ _ = (gw.outcomes.zipIdx.map fun p => (p.2 % 2^64, p.1)) ++ _
    rw [← h.offers, hnext]
    simp

theorem Sequenced.change {E : Type} {p : Prop} {d : Option Event} {gw gw' : GatewayImpl E}
    (h : gw.Sequenced) (hc : Change p d gw gw') : gw'.Sequenced := by
  cases hc with
  | send payload outcome _ => exact h.send payload outcome
  | hear e _ => exact ⟨h.next, h.offers⟩
  | sayGoodbye errorCode outcome _ _ =>
    have hoffers : (gw.post (.fin errorCode) outcome).offers = gw.offers := by
      simp [GatewayImpl.offers, post]
    exact ⟨by rw [hoffers]; exact h.next, by rw [outcomes, hoffers]; exact h.offers⟩
  | complete errorCode => exact ⟨h.next, h.offers⟩
  | subscribe handler => exact ⟨h.next, h.offers⟩
  | disown => exact ⟨h.next, h.offers⟩
  | expire => exact ⟨h.next, h.offers⟩

theorem sequenced_new {E : Type} (gw : GatewayImpl E) (hs : gw.nextSequence = 0)
    (hp : gw.posts = []) : gw.Sequenced := by
  constructor <;> simp [outcomes, offers, hs, hp]

theorem Sequenced.consecutive_iff {E : Type} {gw : GatewayImpl E} (h : gw.Sequenced) :
    Consecutive gw.carried ↔ NoneAfterRefusal gw.outcomes := by
  have hcarried : gw.carried = carriedBy gw.outcomes := by
    rw [carried, h.offers, carriedBy, List.filterMap_map]
    rfl
  rw [hcarried, carriedBy_consecutive_iff]

end GatewayImpl

theorem ClientRouter.Reachable.sequenced {κ : RouteCodec} {r : ClientRouter}
    (h : ClientRouter.Reachable κ r) : Each r.gateways fun _ gw => gw.Sequenced := by
  refine Runs.Reachable.invariant' (P := fun x => Each x.gateways fun _ gw => gw.Sequenced) h
    Each.nil fun hr hs hstep => ?_
  exact ((ClientRouter.Reachable.wf hr).evolves hstep).each GatewayImpl.sequenced_new
    (fun hg hc => hg.change hc) hs

theorem ServerRouter.Reachable.sequenced {κ : RouteCodec} {r : ServerRouter}
    (h : ServerRouter.Reachable κ r) : Each r.gateways fun _ gw => gw.Sequenced := by
  refine Runs.Reachable.invariant' (P := fun x => Each x.gateways fun _ gw => gw.Sequenced) h
    Each.nil fun hr hs hstep => ?_
  exact ((ServerRouter.Reachable.wf hr).evolves hstep).each GatewayImpl.sequenced_new
    (fun hg hc => hg.change hc) hs

/-- Of a gateway on either side, in any run: what the pipe took is numbered 0, 1, 2 and so
on exactly if it took nothing after it had refused something. -/
theorem consecutive_sequences (κ : RouteCodec) :
    (∀ r, ClientRouter.Reachable κ r → Each r.gateways fun _ gw =>
      (Consecutive gw.carried ↔ NoneAfterRefusal gw.outcomes)) ∧
    (∀ r, ServerRouter.Reachable κ r → Each r.gateways fun _ gw =>
      (Consecutive gw.carried ↔ NoneAfterRefusal gw.outcomes)) :=
  ⟨fun _ hr g gw hg => (ClientRouter.Reachable.sequenced hr g gw hg).consecutive_iff,
    fun _ hr g gw hg => (ServerRouter.Reachable.sequenced hr g gw hg).consecutive_iff⟩

def EAGAIN : Int32 := 11

def refusedOnce : ClientRouter :=
  (Runs.run (ClientRouter.step cyphalCodec) {}
    [.makeGateway, .pipeMessage (Route.serialize (.connect ⟨currentVersion, 0⟩)) [0],
     .notifyNext, .dropNext 0, .send 0 7 [1] EAGAIN, .send 0 7 [2] 0]).getD {}

theorem refusedOnce_reachable : ClientRouter.Reachable cyphalCodec refusedOnce :=
  Runs.Reachable.getD (by decide +kernel)

def readyServer : ServerRouter :=
  (Runs.run (ServerRouter.step cyphalCodec) {}
    [.registerChannelFactory 7 fun _ => true,
     .pipeMessage 1 (Route.serialize (.connect ⟨currentVersion, 0⟩)) 0]).getD {}

theorem consecutive_sequences_sample :
    refusedOnce.gateways.map (·.outcomes) = [[EAGAIN, 0]] ∧
    Each refusedOnce.gateways fun _ gw =>
      (Consecutive gw.carried ↔ NoneAfterRefusal gw.outcomes) :=
  ⟨by decide +kernel, (consecutive_sequences cyphalCodec).1 refusedOnce refusedOnce_reachable⟩

/-- The message that was taken carries 1, and the server makes no gateway for it. -/
theorem sequence_lost :
    ClientRouter.Reachable cyphalCodec refusedOnce ∧
    refusedOnce.gateways.map (·.carried) = [[1]] ∧ ¬ Consecutive [1] ∧
    (refusedOnce.clientPipe.map fun message =>
      (readyServer.handlePipeMessage cyphalCodec 1 message 0).map
        fun reply => reply.router.gateways.length) = [some 0] :=
  ⟨refusedOnce_reachable, by decide +kernel, by decide, by decide +kernel⟩

end Ocvsmd.Ipc
