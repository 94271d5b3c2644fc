import Ocvsmd.SocketBase

set_option autoImplicit false

namespace Ocvsmd.Ipc.SocketBase

/-- A call of `send`, with what the kernel answers to its `::send` calls. -/
structure SendCall where
  payloads : List Bytes
  answers : List (Syscall Taken)

def SendCall.sent (c : SendCall) : Sent := send c.payloads c.answers

/-- What the first `::send` that no signal interrupts writes is the header. -/
def SendCall.Refused (c : SendCall) : Prop :=
  ∃ e rest, posixSyscallError c.answers = (.error e, rest)

/-- Every `::send` takes all the bytes of its buffer. -/
def AllTaken : List Bytes → List (Syscall Taken) → Prop
  | [], _ => True
  | buffer :: buffers, answers =>
    match posixSyscallError answers with
    | (.error _, _) => False
    | (.ok t, rest) => t.of buffer = buffer ∧ AllTaken buffers rest

def SendCall.buffers (c : SendCall) : List Bytes :=
  msgHeader (totalSize c.payloads) :: c.payloads

def stream (calls : List SendCall) : Bytes := calls.flatMap fun c => c.sent.written

def frames (calls : List SendCall) : Bytes :=
  calls.flatMap fun c => if c.sent.code = 0 then frame c.payloads else []

structure WrittenWhole (calls : List SendCall) : Prop where
  stream : stream calls = frames calls
  failed : ∀ c ∈ calls, c.sent.code ≠ 0 → c.sent.written = []

theorem Taken.of_length_le (t : Taken) (bytes : Bytes) : (t.of bytes).length ≤ bytes.length := by
  cases t with
  | all => exact Nat.le_refl _
  | short n => simp [Taken.of]

theorem Taken.of_eq_iff (t : Taken) (bytes : Bytes) :
    t.of bytes = bytes ↔ (t.of bytes).length = bytes.length := by
  cases t with
  | all => simp [Taken.of]
  | short n =>
    refine ⟨fun h => by rw [h], fun h => ?_⟩
    simp only [Taken.of, List.length_take] at h ⊢
    exact List.take_of_length_le (by omega)

theorem Taken.of_ne_nil (t : Taken) {bytes : Bytes} (h : bytes ≠ []) : t.of bytes ≠ [] := by
  cases t with
  | all => exact h
  | short n => simp [Taken.of, h]

/-- The header is written as if it were one more fragment. -/
theorem SendCall.sent_eq (c : SendCall) : c.sent = sendFragments c.buffers c.answers := by
  rw [SendCall.sent, send, SendCall.buffers, sendFragments]

theorem SendCall.flatten_buffers (c : SendCall) : c.buffers.flatten = frame c.payloads := rfl

theorem sendFragments_length_le (buffers : List Bytes) (answers : List (Syscall Taken)) :
    (sendFragments buffers answers).written.length ≤ buffers.flatten.length := by
  induction buffers generalizing answers with
  | nil => simp [sendFragments]
  | cons buffer buffers ih =>
    unfold sendFragments
    split
    · simp
    · next t rest _ =>
      have ht := t.of_length_le buffer
      have hrest := ih rest
      simp only [List.flatten_cons, List.length_append]
      omega

theorem sendFragments_of_allTaken {buffers : List Bytes} {answers : List (Syscall Taken)}
    (h : AllTaken buffers answers) : sendFragments buffers answers = ⟨0, buffers.flatten⟩ := by
  induction buffers generalizing answers with
  | nil => rfl
  | cons buffer buffers ih =>
    obtain ⟨first, rest, hps⟩ : ∃ first rest, posixSyscallError answers = (first, rest) :=
      ⟨_, _, rfl⟩
    cases first with
    | error e =>
      simp only [AllTaken, hps] at h
    | ok t =>
      simp only [AllTaken, hps] at h
      obtain ⟨ht, hrest⟩ := h
      simp only [sendFragments, hps, ih hrest, ht, List.flatten_cons]

theorem allTaken_of_length {buffers : List Bytes} {answers : List (Syscall Taken)}
    (hc : (sendFragments buffers answers).code = 0)
    (hl : (sendFragments buffers answers).written.length = buffers.flatten.length) :
    AllTaken buffers answers := by
  induction buffers generalizing answers with
  | nil => trivial
  | cons buffer buffers ih =>
    obtain ⟨first, rest, hps⟩ : ∃ first rest, posixSyscallError answers = (first, rest) :=
      ⟨_, _, rfl⟩
    cases first with
    | error e =>
      simp only [sendFragments, hps] at hc
      exact absurd hc e.nonzero
    | ok t =>
      simp only [sendFragments, AllTaken, hps] at hc hl ⊢
      have ht := t.of_length_le buffer
      have hrest := sendFragments_length_le buffers rest
      simp only [List.flatten_cons, List.length_append] at hl
      exact ⟨(t.of_eq_iff buffer).mpr (by omega), ih hc (by omega)⟩

theorem SendCall.sent_refused {c : SendCall} (h : c.Refused) :
    c.sent.code ≠ 0 ∧ c.sent.written = [] := by
  obtain ⟨e, rest, he⟩ := h
  simp only [SendCall.sent, send, he]
  exact ⟨e.nonzero, trivial⟩

theorem SendCall.refused_of_nothing {c : SendCall} (h : c.sent.written = []) : c.Refused := by
  obtain ⟨first, rest, hps⟩ : ∃ first rest, posixSyscallError c.answers = (first, rest) :=
    ⟨_, _, rfl⟩
  cases first with
  | error e => exact ⟨e, rest, hps⟩
  | ok t =>
    simp only [SendCall.sent, send, hps] at h
    have hne : msgHeader (totalSize c.payloads) ≠ [] := by
      rw [← List.length_pos_iff, msgHeader_length]
      omega
    exact absurd (List.append_eq_nil_iff.mp h).1 (t.of_ne_nil hne)

theorem SendCall.sent_allTaken {c : SendCall} (h : AllTaken c.buffers c.answers) :
    c.sent = ⟨0, frame c.payloads⟩ := by
  rw [SendCall.sent_eq, sendFragments_of_allTaken h, SendCall.flatten_buffers]

theorem SendCall.allTaken_of_length {c : SendCall} (hc : c.sent.code = 0)
    (hl : c.sent.written.length = (frame c.payloads).length) : AllTaken c.buffers c.answers := by
  rw [SendCall.sent_eq] at hc hl
  exact SocketBase.allTaken_of_length hc hl

theorem SendCall.written_length_le (c : SendCall) :
    c.sent.written.length ≤ (frame c.payloads).length := by
  rw [SendCall.sent_eq]
  exact sendFragments_length_le _ _

theorem flatMap_length_le {α β : Type} {l : List α} {f g : α → List β}
    (hle : ∀ a ∈ l, (f a).length ≤ (g a).length) :
    (l.flatMap f).length ≤ (l.flatMap g).length := by
  induction l with
  | nil => simp
  | cons a l ih =>
    have ha := hle a (by simp)
    have hl := ih fun b hb => hle b (List.mem_cons_of_mem a hb)
    simp only [List.flatMap_cons, List.length_append]
    omega

/-- Where no piece is longer than its counterpart, the whole is as long only if every
piece is. -/
theorem length_eq_of_flatMap {α β : Type} {l : List α} {f g : α → List β}
    (hle : ∀ a ∈ l, (f a).length ≤ (g a).length)
    (heq : (l.flatMap g).length ≤ (l.flatMap f).length) :
    ∀ a ∈ l, (f a).length = (g a).length := by
  induction l with
  | nil => simp
  | cons a l ih =>
    have ha := hle a (by simp)
    have hl : ∀ b ∈ l, (f b).length ≤ (g b).length :=
      fun b hb => hle b (List.mem_cons_of_mem a hb)
    have hsum := flatMap_length_le hl
    simp only [List.flatMap_cons, List.length_append] at heq
    intro b hb
    rcases List.mem_cons.mp hb with rfl | hb
    · omega
    · exact ih hl (by omega) b hb

/-- Frames are whole exactly if, in each call, the header is refused or everything is
taken. -/
theorem written_whole_iff (calls : List SendCall) :
    WrittenWhole calls ↔ ∀ c ∈ calls, c.Refused ∨ AllTaken c.buffers c.answers := by
  constructor
  · rintro ⟨hstream, hfailed⟩
    have hle : ∀ c ∈ calls, c.sent.written.length ≤
        (if c.sent.code = 0 then frame c.payloads else []).length := by
      intro c hc
      split
      · exact c.written_length_le
      · next hcode => rw [hfailed c hc hcode]
    have hlen := length_eq_of_flatMap hle (by
      have h := congrArg List.length hstream
      simp only [stream, frames] at h
      omega)
    intro c hc
    by_cases hcode : c.sent.code = 0
    · have h := hlen c hc
      rw [if_pos hcode] at h
      exact Or.inr (SendCall.allTaken_of_length hcode h)
    · exact Or.inl (SendCall.refused_of_nothing (hfailed c hc hcode))
  · intro h
    constructor
    · unfold stream frames
      induction calls with
      | nil => rfl
      | cons c calls ih =>
        rw [List.flatMap_cons, List.flatMap_cons, ih fun d hd => h d (List.mem_cons_of_mem c hd)]
        rcases h c (by simp) with hr | ha
        · rw [if_neg (SendCall.sent_refused hr).1, (SendCall.sent_refused hr).2]
        · rw [SendCall.sent_allTaken ha]
          rfl
    · intro c hc hcode
      rcases h c hc with hr | ha
      · exact (SendCall.sent_refused hr).2
      · rw [SendCall.sent_allTaken ha] at hcode
        exact absurd rfl hcode

def cutShort : List SendCall :=
  [⟨[[1, 2, 3, 4, 5]], [.done .all, .done (.short 2)]⟩]

def refusedMidway : List SendCall :=
  [⟨[[1, 2, 3, 4, 5]], [.done .all, .error .EAGAIN]⟩, ⟨[[6]], [.done .all, .done .all]⟩]

theorem not_written_whole :
    cutShort.map (·.sent) = [⟨0, msgHeader 5 ++ [1, 2, 3]⟩] ∧ ¬ WrittenWhole cutShort ∧
    stream refusedMidway = msgHeader 5 ++ frame [[6]] ∧ ¬ WrittenWhole refusedMidway := by
  refine ⟨by decide, fun h => ?_, by decide, fun h => ?_⟩
  · exact absurd h.stream (by decide)
  · exact absurd h.stream (by decide)

end Ocvsmd.Ipc.SocketBase
