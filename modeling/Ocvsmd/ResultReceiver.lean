import Ocvsmd.ExecCmdClient

set_option autoImplicit false

namespace Ocvsmd.Svc

open Ipc

namespace Handled

/-- The channel was connected, and the request could not be sent: it was too large to be
written, or the pipe refused it. -/
def Refused (spec : ExecCmdSpec) (request : Request) (h : Handled) : Prop :=
  h.event = .connected ∧ (spec.serializeRequest request = none ∨ h.outcome ≠ 0)

instance (spec : ExecCmdSpec) (request : Request) (h : Handled) :
    Decidable (h.Refused spec request) := by
  unfold Refused
  infer_instance

def Ended (h : Handled) : Prop := ∃ errorCode, h.event = .completed errorCode

instance (h : Handled) : Decidable h.Ended :=
  match he : h.event with
  | .completed errorCode => isTrue ⟨errorCode, he⟩
  | .connected => isFalse fun ⟨_, hc⟩ => by rw [he] at hc; cases hc
  | .message _ _ => isFalse fun ⟨_, hc⟩ => by rw [he] at hc; cases hc

end Handled

namespace ExecCmdClient

/-- A receiver is called for a send that failed and for the end, and nothing comes after
the end. -/
structure Called (spec : ExecCmdSpec) (x : ExecCmdClient) (gw : GatewayImpl Tag) : Prop where
  results : x.results.map (·.1) = (x.handled.filter fun h =>
    h.Refused spec x.request ∨ h.Ended).map (·.receiver)
  last : x.handled.Pairwise fun a _ => ¬ a.Ended
  ended : ∀ h ∈ x.handled, h.Ended → ∃ errorCode, .completed errorCode ∈ gw.events

theorem Fresh.called {spec : ExecCmdSpec} {x : ExecCmdClient} {gw : GatewayImpl Tag}
    (h : Fresh x gw) : Called spec x gw where
  results := by rw [h.results, h.handled]; rfl
  last := by rw [h.handled]; exact List.Pairwise.nil
  ended := fun _ hin => by rw [h.handled] at hin; cases hin

theorem handleEvent_adds (spec : ExecCmdSpec) (e : Event) (outcome : Int32)
    (x : ExecCmdClient) :
    let x' := x.handleEvent spec e (x.sendCode spec outcome) outcome
    let h : Handled := ⟨x.receiver, e, outcome⟩
    x'.request = x.request ∧ x'.handled = x.handled ++ [h] ∧
      x'.results.map (·.1) = x.results.map (·.1) ++
        if h.Refused spec x.request ∨ h.Ended then [x.receiver] else [] := by
  cases e with
  | connected =>
    have hended : ¬ (⟨x.receiver, .connected, outcome⟩ : Handled).Ended := by
      rintro ⟨_, hc⟩
      cases hc
    have hcode : x.sendCode spec outcome ≠ 0 ↔
        (⟨x.receiver, .connected, outcome⟩ : Handled).Refused spec x.request := by
      cases hs : spec.serializeRequest x.request with
      | none => simp [sendCode, Handled.Refused, hs, EINVAL]
      | some payload => simp [sendCode, Handled.Refused, hs]
    simp only [handleEvent, handleConnected, hended, or_false]
    by_cases hc : x.sendCode spec outcome = 0
    · have hnot : ¬ (⟨x.receiver, .connected, outcome⟩ : Handled).Refused spec x.request :=
        fun hr => hcode.mpr hr hc
      simp [hc, hnot]
    · simp [hc, hcode.mp hc, receive]
  | message sequence payload =>
    have hended : ¬ (⟨x.receiver, .message sequence payload, outcome⟩ : Handled).Ended := by
      rintro ⟨_, hc⟩
      cases hc
    have hrefused : ¬ (⟨x.receiver, .message sequence payload, outcome⟩ : Handled).Refused spec
        x.request := fun hc => by cases hc.1
    simp only [handleEvent, hended, hrefused, or_false, if_false, List.append_nil]
    split <;> exact ⟨rfl, rfl, rfl⟩
  | completed errorCode =>
    have hended : (⟨x.receiver, .completed errorCode, outcome⟩ : Handled).Ended := ⟨_, rfl⟩
    simp only [handleEvent, handleCompleted, hended, or_true, if_true]
    split <;> simp [receive]

theorem Called.heard {spec : ExecCmdSpec} {x x' : ExecCmdClient} {gw gw' : GatewayImpl Tag}
    (h : Called spec x gw) (hh : Heard spec x gw x' gw') : Called spec x' gw' := by
  cases hh with
  | nothing framed events => exact ⟨h.results, h.last, by rw [events]; exact h.ended⟩
  | ignored framed e events unended unhandled =>
    refine ⟨h.results, h.last, fun a ha he => ?_⟩
    obtain ⟨c, hc⟩ := h.ended a ha he
    exact absurd hc (unended c)
  | told framed e events unended handled outcome =>
    obtain ⟨hreq, hhandled, hresults⟩ := handleEvent_adds spec e outcome x
    have hfirst : ∀ a ∈ x.handled, ¬ a.Ended := fun a ha he => by
      obtain ⟨c, hc⟩ := h.ended a ha he
      exact unended c hc
    refine ⟨?_, ?_, fun a ha he => ?_⟩
    · rw [hresults, hreq, hhandled, h.results, List.filter_append, List.map_append]
      congr 1
      split
      · next hc => simp [hc]
      · next hc => simp [hc]
    · rw [hhandled, List.pairwise_append]
      exact ⟨h.last, List.pairwise_singleton _ _, fun a ha _ _ => hfirst a ha⟩
    · rw [hhandled] at ha
      rw [events_answered, events]
      rcases List.mem_append.mp ha with ha | ha
      · exact absurd he (hfirst a ha)
      · rw [List.mem_singleton] at ha
        subst ha
        obtain ⟨c, hc⟩ := he
        simp only at hc
        exact ⟨c, by rw [hc]; simp⟩

theorem Called.moved {spec : ExecCmdSpec} {x x' : ExecCmdClient} {gw gw' : GatewayImpl Tag}
    (h : Called spec x gw) (hm : Moved spec x gw x' gw') : Called spec x' gw' := by
  cases hm with
  | heard hh => exact h.heard hh
  | submitted hh =>
    have hsub : Called spec x.submitted (gw.subscribe (some (input spec))) :=
      ⟨h.results, h.last, h.ended⟩
    exact hsub.heard hh

end ExecCmdClient

theorem length_filter_le_one {α : Type} (p : α → Bool) (l : List α) :
    (l.filter p).length ≤ 1 ↔ l.Pairwise fun a b => ¬ (p a = true ∧ p b = true) := by
  have hpair : (l.filter p).length ≤ 1 ↔ (l.filter p).Pairwise fun _ _ => False := by
    cases hl : l.filter p with
    | nil => simp
    | cons a t =>
      cases t with
      | nil => simp
      | cons b t =>
        refine ⟨fun hle => ?_, fun hp => absurd (List.rel_of_pairwise_cons hp List.mem_cons_self) id⟩
        simp only [List.length_cons] at hle
        omega
  rw [hpair, List.pairwise_filter]
  constructor
  · exact fun h => h.imp fun hab hc => hab hc.1 hc.2
  · exact fun h => h.imp fun hab ha hb => hab ⟨ha, hb⟩

namespace Sdk

def calls (x : ExecCmdClient) (receiver : Nat) : Nat := (x.results.map (·.1)).count receiver

/-- A receiver is called twice just when it is told that its request could not be sent, and
stays to be told of another such failure, or of the end of the channel. -/
theorem receiver_called_once_iff {κ : RouteCodec} {spec : ExecCmdSpec} {s : Sdk}
    (h : Reachable κ spec s) {id : Nat} {x : ExecCmdClient} (hx : s.clients[id]? = some x)
    (receiver : Nat) :
    calls x receiver ≤ 1 ↔ (x.handled.filter (·.receiver = receiver)).Pairwise fun a b =>
      a.Refused spec x.request → ¬ (b.Refused spec x.request ∨ b.Ended) := by
  obtain ⟨gw, _, hcalled⟩ := h.all (R := ExecCmdClient.Called spec) ExecCmdClient.Fresh.called
    ExecCmdClient.Called.moved id x hx
  have hcount : calls x receiver = ((x.handled.filter (·.receiver = receiver)).filter fun a =>
      a.Refused spec x.request ∨ a.Ended).length := by
    rw [calls, hcalled.results, List.count, List.countP_map, List.countP_filter,
      List.countP_eq_length_filter, List.filter_filter]
    congr 2
    funext a
    by_cases ha : a.receiver = receiver <;> simp [ha]
  rw [hcount, length_filter_le_one]
  have hlast : (x.handled.filter (·.receiver = receiver)).Pairwise fun a _ => ¬ a.Ended :=
    hcalled.last.filter _
  constructor
  · exact fun h => h.imp fun hab ha hb => hab (by simp [ha, hb])
  · intro h
    refine (h.and hlast).imp fun {a b} hab hcalls => ?_
    simp only [decide_eq_true_eq] at hcalls
    exact hab.1 (hcalls.1.resolve_right hab.2) hcalls.2

def refusedThenLost : List SdkAction :=
  [.router (.pipeConnected 0) 0,
   .router (.pipeMessage (cyphalCodec.serialize (.connect ⟨currentVersion, 0⟩)) []) 0,
   .make ⟨1000000, List.replicate 129 42, ⟨65535, []⟩⟩, .submit 0 0,
   .router (.pipeDisconnected [0]) 0, .router .notifyNext 0]

def toldTwice : Sdk :=
  (Runs.run (step cyphalCodec (cyphalExecCmdSpec 7)) {} refusedThenLost).getD {}

theorem toldTwice_reachable : Reachable cyphalCodec (cyphalExecCmdSpec 7) toldTwice :=
  Runs.Reachable.getD (by decide +kernel)

theorem receiver_called_once_iff_toldTwice :
    ∃ x, toldTwice.clients[0]? = some x ∧ calls x 1 = 2 ∧
      (calls x 1 ≤ 1 ↔ (x.handled.filter (·.receiver = 1)).Pairwise fun a b =>
        a.Refused (cyphalExecCmdSpec 7) x.request →
          ¬ (b.Refused (cyphalExecCmdSpec 7) x.request ∨ b.Ended)) := by
  have hcalls : (toldTwice.clients[0]?).any (fun x => calls x 1 = 2) = true := by decide +kernel
  obtain ⟨x, hx, hc⟩ := (Option.any_eq_true _ _).mp hcalls
  exact ⟨x, hx, by simpa using hc, receiver_called_once_iff toldTwice_reachable hx 1⟩

/-- The receiver is told of the failure, and then again of the end of the channel. -/
theorem receiver_called_twice :
    ¬ ∀ (s : Sdk), Reachable cyphalCodec (cyphalExecCmdSpec 7) s →
      ∀ x ∈ s.clients, ∀ receiver, calls x receiver ≤ 1 := by
  intro h
  have hcalls : toldTwice.clients.any (fun x => 1 < calls x 1) = true := by decide +kernel
  obtain ⟨x, hx, hc⟩ := List.any_eq_true.mp hcalls
  have hle := h toldTwice toldTwice_reachable x hx 1
  simp only [decide_eq_true_eq] at hc
  omega

end Sdk

end Ocvsmd.Svc
