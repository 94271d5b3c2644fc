import Mathlib.Data.List.Basic
import Mathlib.Logic.Relation

/-!
Two peers, a caller and a callee, joined by one FIFO queue each way. The caller
speaks first: its message number 0 is what may bring the callee into being, and
either peer may end the session at any moment with a last item `fin`.

Nothing here knows what the messages are or who the peers are.
-/

set_option autoImplicit false

namespace FifoSession

inductive Item (α ε : Type) where
  | msg : Nat → α → Item α ε
  | fin : ε → Item α ε
  deriving DecidableEq, Repr

def Item.isFin {α ε : Type} : Item α ε → Bool
  | .msg _ _ => false
  | .fin _ => true

/-- What may stand at position i of a list: message i, or `fin` if that is the end. -/
def Item.FitsAt {α ε : Type} (i length : Nat) : Item α ε → Prop
  | .msg n _ => n = i
  | .fin _ => i + 1 = length

/-- Messages carry their own positions, and only the last item can be `fin`. -/
def Numbered {α ε : Type} (l : List (Item α ε)) : Prop :=
  ∀ (i : Nat) (x : Item α ε), l[i]? = some x → x.FitsAt i l.length

def Ended {α ε : Type} (l : List (Item α ε)) : Prop := ∃ e, Item.fin e ∈ l

@[simp] theorem numbered_nil {α ε : Type} : Numbered ([] : List (Item α ε)) := by
  simp [Numbered]

@[simp] theorem not_ended_nil {α ε : Type} : ¬ Ended ([] : List (Item α ε)) := by
  simp [Ended]

@[simp] theorem ended_append {α ε : Type} (l r : List (Item α ε)) :
    Ended (l ++ r) ↔ Ended l ∨ Ended r := by
  simp [Ended, exists_or]

@[simp] theorem ended_msg {α ε : Type} (n : Nat) (a : α) :
    ¬ Ended [(Item.msg n a : Item α ε)] := by simp [Ended]

@[simp] theorem ended_fin {α ε : Type} (e : ε) : Ended [(Item.fin e : Item α ε)] :=
  ⟨e, by simp⟩

theorem ended_singleton {α ε : Type} (x : Item α ε) : Ended [x] ↔ x.isFin = true := by
  cases x <;> simp [Item.isFin]

theorem Ended.of_prefix {α ε : Type} {l r : List (Item α ε)} (h : Ended l) (hp : l <+: r) :
    Ended r := by
  obtain ⟨t, rfl⟩ := hp
  exact (ended_append l t).mpr (Or.inl h)

theorem Numbered.push {α ε : Type} {l : List (Item α ε)} {x : Item α ε} (h : Numbered l)
    (he : ¬ Ended l) (hx : x.FitsAt l.length (l.length + 1)) : Numbered (l ++ [x]) := by
  intro i y hy
  rcases Nat.lt_trichotomy i l.length with hi | hi | hi
  · rw [List.getElem?_append_left hi] at hy
    have hfit := h i y hy
    cases y with
    | msg n b => exact hfit
    | fin e => exact absurd ⟨e, List.mem_of_getElem? hy⟩ he
  · subst hi
    simp only [List.getElem?_concat_length, Option.some.injEq] at hy
    subst hy
    simpa using hx
  · rw [List.getElem?_eq_none (by simp; omega)] at hy
    cases hy

theorem Numbered.push_msg {α ε : Type} {l : List (Item α ε)} (h : Numbered l)
    (he : ¬ Ended l) (a : α) : Numbered (l ++ [.msg l.length a]) :=
  h.push he rfl

theorem Numbered.push_fin {α ε : Type} {l : List (Item α ε)} (h : Numbered l)
    (he : ¬ Ended l) (e : ε) : Numbered (l ++ [.fin e]) :=
  h.push he rfl

theorem Numbered.index {α ε : Type} {l r : List (Item α ε)} {n : Nat} {a : α}
    (h : Numbered (l ++ .msg n a :: r)) : n = l.length := by
  exact h l.length (.msg n a) (by simp)

theorem Numbered.last {α ε : Type} {l r : List (Item α ε)} {e : ε}
    (h : Numbered (l ++ .fin e :: r)) : r = [] := by
  have hlen : l.length + 1 = (l ++ .fin e :: r).length := h l.length (.fin e) (by simp)
  simp only [List.length_append, List.length_cons] at hlen
  exact List.eq_nil_of_length_eq_zero (by omega)

/-- A prefix that has the end has everything. -/
theorem Numbered.eq_of_ended {α ε : Type} {l r : List (Item α ε)} (h : Numbered r)
    (hp : l <+: r) (he : Ended l) : l = r := by
  obtain ⟨t, rfl⟩ := hp
  obtain ⟨e, he⟩ := he
  obtain ⟨a, b, rfl⟩ := List.append_of_mem he
  have hb : b ++ t = [] := by
    apply Numbered.last (l := a) (e := e)
    simpa using h
  have ht : t = [] := (List.append_eq_nil_iff.mp hb).2
  simp [ht]

def messages {α ε : Type} (l : List (Item α ε)) : List (α × Nat) :=
  l.filterMap fun x => match x with
    | .msg n a => some (a, n)
    | .fin _ => none

def payloads {α ε : Type} (l : List (Item α ε)) : List α :=
  l.filterMap fun x => match x with
    | .msg _ a => some a
    | .fin _ => none

theorem messages_mono {α ε : Type} {l r : List (Item α ε)} (h : l <+: r) :
    messages l <+: messages r := h.filterMap _

theorem messages_from {α ε : Type} {l : List (Item α ε)} {k : Nat}
    (h : ∀ (i : Nat) (x : Item α ε), l[i]? = some x → x.FitsAt (k + i) (k + l.length)) :
    messages l = (payloads l).zipIdx k := by
  induction l generalizing k with
  | nil => rfl
  | cons x l ih =>
    have hx := h 0 x rfl
    cases x with
    | fin e =>
      -- `FitsAt` leaves nothing behind `fin`
      have hlen : k + 0 + 1 = k + (l.length + 1) := hx
      have hl : l = [] := List.eq_nil_of_length_eq_zero (by omega)
      simp [hl, messages, payloads]
    | msg n a =>
      have hn : n = k + 0 := hx
      have htail := ih (k := k + 1) fun i y hy => by
        have hfit := h (i + 1) y (by simpa using hy)
        simp only [List.length_cons] at hfit
        rwa [show k + 1 + i = k + (i + 1) by omega,
          show k + 1 + l.length = k + (l.length + 1) by omega]
      subst hn
      simp only [messages, payloads, List.filterMap_cons, List.zipIdx_cons] at htail ⊢
      rw [htail]

theorem Numbered.messages {α ε : Type} {l : List (Item α ε)} (h : Numbered l) :
    messages l = (payloads l).zipIdx :=
  messages_from (k := 0) fun i x hx => by simpa using h i x hx

theorem payloads_ne_nil {α ε : Type} {l : List (Item α ε)} (h : l ≠ []) (he : ¬ Ended l) :
    payloads l ≠ [] := by
  cases l with
  | nil => exact absurd rfl h
  | cons x l =>
    cases x with
    | msg n a => simp [payloads]
    | fin e => exact absurd ⟨e, by simp⟩ he

/-- One peer: how many endpoints it has made, whether the current one is
registered, and all that the current one has posted and has been handed. -/
structure Peer (α ε : Type) where
  made : Nat
  live : Bool
  sent : List (Item α ε)
  got : List (Item α ε)

structure Session (α ε : Type) where
  caller : Peer α ε
  callee : Peer α ε
  up : List (Item α ε)
  down : List (Item α ε)

def Peer.none {α ε : Type} : Peer α ε := ⟨0, false, [], []⟩

def Session.init {α ε : Type} : Session α ε := ⟨.none, .none, [], []⟩

inductive Session.Step {α ε : Type} : Session α ε → Session α ε → Prop where
  | callerOpen {s : Session α ε} : s.caller.made = 0 →
      Step s { s with caller := ⟨1, true, [], []⟩ }
  | callerPost {s : Session α ε} (a : α) : s.caller.live = true →
      Step s { s with
        caller := { s.caller with sent := s.caller.sent ++ [.msg s.caller.sent.length a] }
        up := s.up ++ [.msg s.caller.sent.length a] }
  /-- A caller that never posted leaves without a word. -/
  | callerQuit {s : Session α ε} : s.caller.sent = [] →
      Step s { s with caller := { s.caller with live := false } }
  | callerEnd {s : Session α ε} (e : ε) : s.caller.live = true → s.caller.sent ≠ [] →
      Step s { s with
        caller := { s.caller with live := false, sent := s.caller.sent ++ [.fin e] }
        up := s.up ++ [.fin e] }
  | calleePost {s : Session α ε} (a : α) : s.callee.live = true →
      Step s { s with
        callee := { s.callee with sent := s.callee.sent ++ [.msg s.callee.sent.length a] }
        down := s.down ++ [.msg s.callee.sent.length a] }
  | calleeEnd {s : Session α ε} (e : ε) : s.callee.live = true →
      Step s { s with
        callee := { s.callee with live := false, sent := s.callee.sent ++ [.fin e] }
        down := s.down ++ [.fin e] }
  | upTake {s : Session α ε} {x : Item α ε} {xs : List (Item α ε)} :
      s.up = x :: xs → s.callee.live = true →
      Step s { s with
        callee := { s.callee with live := !x.isFin, got := s.callee.got ++ [x] }
        up := xs }
  | upCreate {s : Session α ε} {a : α} {xs : List (Item α ε)} :
      s.up = .msg 0 a :: xs → s.callee.live = false →
      Step s { s with
        callee := ⟨s.callee.made + 1, true, [], [.msg 0 a]⟩
        up := xs }
  | upDrop {s : Session α ε} {x : Item α ε} {xs : List (Item α ε)} :
      s.up = x :: xs → s.callee.live = false → Step s { s with up := xs }
  | downTake {s : Session α ε} {x : Item α ε} {xs : List (Item α ε)} :
      s.down = x :: xs → s.caller.live = true →
      Step s { s with
        caller := { s.caller with live := !x.isFin, got := s.caller.got ++ [x] }
        down := xs }
  | downDrop {s : Session α ε} {x : Item α ε} {xs : List (Item α ε)} :
      s.down = x :: xs → s.caller.live = false → Step s { s with down := xs }

/-- What a listener has of a speaker's items: a prefix, then items that found
nobody, then those still in the queue. A registered listener has missed none. -/
def Link {α ε : Type} (sent got queue : List (Item α ε)) (live : Bool) : Prop :=
  ∃ lost, sent = got ++ lost ++ queue ∧ (live = true → lost = [])

theorem Link.got_sent {α ε : Type} {sent got queue : List (Item α ε)} {live : Bool}
    (h : Link sent got queue live) : got <+: sent := by
  obtain ⟨lost, rfl, _⟩ := h
  exact ⟨lost ++ queue, by simp⟩

theorem Link.post {α ε : Type} {sent got queue : List (Item α ε)} {live : Bool}
    (h : Link sent got queue live) (x : Item α ε) :
    Link (sent ++ [x]) got (queue ++ [x]) live := by
  obtain ⟨lost, rfl, hl⟩ := h
  exact ⟨lost, by simp, hl⟩

theorem Link.take {α ε : Type} {sent got queue : List (Item α ε)} {x : Item α ε}
    (h : Link sent got (x :: queue) true) (live : Bool) :
    Link sent (got ++ [x]) queue live := by
  obtain ⟨lost, rfl, hl⟩ := h
  exact ⟨[], by simp [hl rfl], fun _ => rfl⟩

theorem Link.drop {α ε : Type} {sent got queue : List (Item α ε)} {x : Item α ε}
    (h : Link sent got (x :: queue) false) : Link sent got queue false := by
  obtain ⟨lost, rfl, _⟩ := h
  exact ⟨lost ++ [x], by simp, fun h => by cases h⟩

theorem Link.close {α ε : Type} {sent got queue : List (Item α ε)} {live : Bool}
    (h : Link sent got queue live) : Link sent got queue false := by
  obtain ⟨lost, hs, _⟩ := h
  exact ⟨lost, hs, fun h => by cases h⟩

/-- Message 0 is at the head of the queue only while nothing was taken from it. -/
theorem Link.first {α ε : Type} {sent got queue : List (Item α ε)} {a : α} {live : Bool}
    (h : Link sent got (.msg 0 a :: queue) live) (hn : Numbered sent) :
    got = [] ∧ sent = .msg 0 a :: queue := by
  obtain ⟨lost, rfl, _⟩ := h
  have h0 := hn.index
  have hl : got ++ lost = [] := List.eq_nil_of_length_eq_zero h0.symm
  obtain ⟨rfl, rfl⟩ := List.append_eq_nil_iff.mp hl
  exact ⟨rfl, rfl⟩

structure Session.Inv {α ε : Type} (s : Session α ε) : Prop where
  callerSent : Numbered s.caller.sent
  calleeSent : Numbered s.callee.sent
  up : Link s.caller.sent s.callee.got s.up s.callee.live
  down : Link s.callee.sent s.caller.got s.down s.caller.live
  callerNew : s.caller.made = 0 → s.caller = .none
  callerLive : s.caller.live = true → ¬ Ended s.caller.sent ∧ ¬ Ended s.caller.got
  callerDead : s.caller.live = false →
    s.caller.sent = [] ∨ Ended s.caller.sent ∨ Ended s.caller.got
  calleeNew : s.callee.made = 0 → s.callee = .none
  calleeMade : s.callee.made = 0 ∨ s.callee.made = 1 ∧ s.callee.got ≠ []
  calleeLive : s.callee.live = true → ¬ Ended s.callee.sent ∧ ¬ Ended s.callee.got
  calleeDead : s.callee.live = false →
    s.callee.made = 0 ∨ Ended s.callee.sent ∨ Ended s.callee.got

theorem Session.inv_init {α ε : Type} : (Session.init : Session α ε).Inv where
  callerSent := numbered_nil
  calleeSent := numbered_nil
  up := ⟨[], rfl, fun _ => rfl⟩
  down := ⟨[], rfl, fun _ => rfl⟩
  callerNew := fun _ => rfl
  callerLive := fun h => by cases h
  callerDead := fun _ => Or.inl rfl
  calleeNew := fun _ => rfl
  calleeMade := Or.inl rfl
  calleeLive := fun h => by cases h
  calleeDead := fun _ => Or.inl rfl

theorem Session.Inv.calleeNew_of_silent {α ε : Type} {s : Session α ε} (h : s.Inv)
    (hs : s.caller.sent = []) : s.callee = .none := by
  apply h.calleeNew
  refine h.calleeMade.resolve_right fun hm => hm.2 ?_
  have hp := h.up.got_sent
  rw [hs] at hp
  exact List.prefix_nil.mp hp

theorem Session.Inv.step {α ε : Type} {s s' : Session α ε} (h : s.Inv) (hs : s.Step s') :
    s'.Inv := by
  cases hs with
  | callerOpen hm =>
    have hup := h.up
    have hdown := h.down
    rw [h.callerNew hm] at hup hdown
    have hcallee := h.calleeNew_of_silent (by rw [h.callerNew hm]; rfl)
    rw [hcallee] at hdown
    exact { h with
      callerSent := numbered_nil
      up := hup
      down := by
        obtain ⟨lost, hs, _⟩ := hdown
        have hnil : lost = [] ∧ s.down = [] := by simpa [Peer.none] using hs
        exact ⟨[], by simp [hcallee, hnil.2, Peer.none], fun _ => rfl⟩
      callerNew := fun h => by cases h
      callerLive := fun _ => ⟨not_ended_nil, not_ended_nil⟩
      callerDead := fun h => by cases h }
  | callerPost a hl =>
    obtain ⟨hs, hg⟩ := h.callerLive hl
    exact { h with
      callerSent := h.callerSent.push_msg hs a
      up := h.up.post _
      callerNew := fun hm => by simp [h.callerNew hm, Peer.none] at hl
      callerLive := fun _ => ⟨by simp [hs], hg⟩
      callerDead := fun hf => by simp [hl] at hf }
  | callerQuit hq =>
    exact { h with
      down := h.down.close
      callerNew := fun hm => by simp [h.callerNew hm, Peer.none]
      callerLive := fun hf => by cases hf
      callerDead := fun _ => Or.inl hq }
  | callerEnd e hl hne =>
    obtain ⟨hs, hg⟩ := h.callerLive hl
    exact { h with
      callerSent := h.callerSent.push_fin hs e
      up := h.up.post _
      down := h.down.close
      callerNew := fun hm => by simp [h.callerNew hm, Peer.none] at hl
      callerLive := fun hf => by cases hf
      callerDead := fun _ => Or.inr (Or.inl (by simp)) }
  | calleePost a hl =>
    obtain ⟨hs, hg⟩ := h.calleeLive hl
    exact { h with
      calleeSent := h.calleeSent.push_msg hs a
      down := h.down.post _
      calleeNew := fun hm => by simp [h.calleeNew hm, Peer.none] at hl
      calleeLive := fun _ => ⟨by simp [hs], hg⟩
      calleeDead := fun hf => by simp [hl] at hf }
  | calleeEnd e hl =>
    obtain ⟨hs, hg⟩ := h.calleeLive hl
    exact { h with
      calleeSent := h.calleeSent.push_fin hs e
      up := h.up.close
      down := h.down.post _
      calleeNew := fun hm => by simp [h.calleeNew hm, Peer.none] at hl
      calleeLive := fun hf => by cases hf
      calleeDead := fun _ => Or.inr (Or.inl (by simp)) }
  | @upTake x xs hu hl =>
    obtain ⟨hs, hg⟩ := h.calleeLive hl
    have hup := h.up
    rw [hu, hl] at hup
    exact { h with
      up := hup.take _
      calleeNew := fun hm => by simp [h.calleeNew hm, Peer.none] at hl
      calleeMade := h.calleeMade.imp_right fun hm => ⟨hm.1, by simp⟩
      calleeLive := fun hx => ⟨hs, by simpa [ended_singleton, hg] using hx⟩
      calleeDead := fun hx => Or.inr (Or.inr (by simpa [ended_singleton, hg] using hx)) }
  | @upCreate a xs hu hl =>
    have hup := h.up
    rw [hu] at hup
    obtain ⟨hgot, hsent⟩ := hup.first h.callerSent
    have hmade : s.callee.made = 0 := h.calleeMade.resolve_right fun hm => hm.2 hgot
    have hnew := h.calleeNew hmade
    have hdown := h.down
    rw [hnew] at hdown
    exact { h with
      calleeSent := numbered_nil
      up := ⟨[], by simp [hsent], fun _ => rfl⟩
      down := hdown
      calleeNew := fun hm => by simp at hm
      calleeMade := Or.inr ⟨by simp [hmade], by simp⟩
      calleeLive := fun _ => ⟨not_ended_nil, by simp⟩
      calleeDead := fun hf => by cases hf }
  | upDrop hu hl =>
    have hup := h.up
    rw [hu, hl] at hup
    exact { h with up := by rw [hl]; exact hup.drop }
  | @downTake x xs hd hl =>
    obtain ⟨hs, hg⟩ := h.callerLive hl
    have hdown := h.down
    rw [hd, hl] at hdown
    exact { h with
      down := hdown.take _
      callerNew := fun hm => by simp [h.callerNew hm, Peer.none] at hl
      callerLive := fun hx => ⟨hs, by simpa [ended_singleton, hg] using hx⟩
      callerDead := fun hx => Or.inr (Or.inr (by simpa [ended_singleton, hg] using hx)) }
  | downDrop hd hl =>
    have hdown := h.down
    rw [hd, hl] at hdown
    exact { h with down := by rw [hl]; exact hdown.drop }

theorem Session.Inv.steps {α ε : Type} {s s' : Session α ε} (h : s.Inv)
    (hs : Relation.ReflTransGen Session.Step s s') : s'.Inv := by
  induction hs with
  | refl => exact h
  | tail _ hstep ih => exact ih.step hstep

theorem Session.Inv.callee_heard {α ε : Type} {s : Session α ε} (h : s.Inv) :
    s.callee.got <+: s.caller.sent := h.up.got_sent

theorem Session.Inv.caller_heard {α ε : Type} {s : Session α ε} (h : s.Inv) :
    s.caller.got <+: s.callee.sent := h.down.got_sent

/-- Whoever was handed the end was handed everything before it. -/
theorem Session.Inv.caller_got_all {α ε : Type} {s : Session α ε} (h : s.Inv)
    (he : Ended s.caller.got) : s.caller.got = s.callee.sent :=
  h.calleeSent.eq_of_ended h.caller_heard he

/-- With both queues empty a registered callee has a registered caller. -/
theorem Session.Inv.no_half_open {α ε : Type} {s : Session α ε} (h : s.Inv)
    (hup : s.up = []) (hlive : s.callee.live = true) :
    s.caller.live = true ∧ s.caller.sent ≠ [] := by
  obtain ⟨hsent, hgot⟩ := h.calleeLive hlive
  have hne : s.caller.sent ≠ [] := fun hs => by
    simp [h.calleeNew_of_silent hs, Peer.none] at hlive
  refine ⟨?_, hne⟩
  by_contra hdead
  rcases h.callerDead (by simpa using hdead) with hs | hs | hs
  · exact hne hs
  · obtain ⟨lost, heq, hlost⟩ := h.up
    rw [hup, hlost hlive] at heq
    exact hgot (by simpa [heq] using hs)
  · exact hsent (hs.of_prefix h.caller_heard)

theorem Link.nothing_left {α ε : Type} {sent got : List (Item α ε)}
    (h : Link sent got [] true) : got = sent := by
  obtain ⟨lost, rfl, hlost⟩ := h
  simp [hlost rfl]

/-- With both queues empty, a registered callee and its caller have all of each other's
items. -/
theorem Session.Inv.at_rest {α ε : Type} {s : Session α ε} (h : s.Inv) (hup : s.up = [])
    (hdown : s.down = []) (hlive : s.callee.live = true) :
    s.caller.live = true ∧ s.callee.got = s.caller.sent ∧ s.caller.got = s.callee.sent := by
  have hcaller := (h.no_half_open hup hlive).1
  have hu := h.up
  have hd := h.down
  rw [hup, hlive] at hu
  rw [hdown, hcaller] at hd
  exact ⟨hcaller, hu.nothing_left, hd.nothing_left⟩

end FifoSession
