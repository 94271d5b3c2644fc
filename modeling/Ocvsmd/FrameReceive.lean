import Ocvsmd.SocketBase

set_option autoImplicit false

namespace Ocvsmd.Ipc.SocketBase

structure Message where
  bytes : Bytes
  nonempty : 1 ≤ bytes.length
  bounded : bytes.length ≤ MsgMaxSize

/-- What the calls of `::recv` meet: at most so many bytes less one, or `EAGAIN`. -/
abbrev Arrivals := List (Option Nat)

def answersOf (arrivals : Arrivals) : List (Syscall Nat) :=
  arrivals.map fun a => match a with
    | some n => .done n
    | none => .error .EAGAIN

def streamOf (messages : List Message) : Bytes := messages.flatMap fun m => frame [m.bytes]

def requests (messages : List Message) : List Nat :=
  messages.flatMap fun m => [8, m.bytes.length]

/-- Every `::recv` that gives any bytes gives all that it is asked for. -/
def FullReads : List Nat → Arrivals → Prop
  | sizes, none :: arrivals => FullReads sizes arrivals
  | size :: sizes, some n :: arrivals => size ≤ n + 1 ∧ FullReads sizes arrivals
  | _, _ => True

/-- `receiveMessage` is called again and again, until it returns an error. -/
structure Polled where
  code : Int32
  delivered : List Bytes
  state : State
  socket : Socket

def poll (action : Bytes → Int32) : Nat → State → Socket → Polled
  | 0, s, k => ⟨0, [], s, k⟩
  | calls + 1, s, k =>
    let r := receiveMessage action s k
    if r.code ≠ 0 then ⟨r.code, r.payload.toList, r.state, r.socket⟩
    else
      let p := poll action calls r.state r.socket
      ⟨p.code, r.payload.toList ++ p.delivered, p.state, p.socket⟩

def socketOf (unread : Bytes) (arrivals : Arrivals) : Socket := ⟨unread, answersOf arrivals, false⟩

def accept : Bytes → Int32 := fun _ => 0

/-- However many calls are made: no error, every message once and in order, and all of
them once the stream has been read to its end, which it has been when there was a read
for each header and each payload. -/
structure Reassembled (messages : List Message) (arrivals : Arrivals) (calls : Nat) : Prop where
  code : (poll accept calls {} (socketOf (streamOf messages) arrivals)).code = 0
  ordered : (poll accept calls {} (socketOf (streamOf messages) arrivals)).delivered <+:
    messages.map (·.bytes)
  complete : (poll accept calls {} (socketOf (streamOf messages) arrivals)).socket.unread = [] →
    (poll accept calls {} (socketOf (streamOf messages) arrivals)).delivered =
      messages.map (·.bytes)
  delivered : arrivals.length ≤ calls →
    (requests messages).length ≤ arrivals.countP Option.isSome →
      (poll accept calls {} (socketOf (streamOf messages) arrivals)).delivered =
        messages.map (·.bytes)

/-- Where the receiver stands in the stream: what it is still to deliver, what it has not
read, and what it will ask for. -/
inductive Awaits : State → List Message → Bytes → List Nat → Prop where
  | header (size : Nat) (messages : List Message) :
      Awaits ⟨size, .header⟩ messages (streamOf messages) (requests messages)
  | payload (m : Message) (messages : List Message) :
      Awaits ⟨m.bytes.length, .payload⟩ (m :: messages) (m.bytes ++ streamOf messages)
        (m.bytes.length :: requests messages)

theorem posix_none (arrivals : Arrivals) :
    posixSyscallError (answersOf (none :: arrivals)) = (.error .EAGAIN, answersOf arrivals) := by
  simp [answersOf, posixSyscallError, Errno.EAGAIN, Errno.EINTR]

theorem posix_some (n : Nat) (arrivals : Arrivals) :
    posixSyscallError (answersOf (some n :: arrivals)) = (.ok n, answersOf arrivals) := by
  simp [answersOf, posixSyscallError]

theorem recv_none (size : Nat) (unread : Bytes) (arrivals : Arrivals) :
    recv size (socketOf unread (none :: arrivals)) =
      (.error .EAGAIN, socketOf unread arrivals) := by
  simp [recv, socketOf, posix_none]

theorem recv_nil (size : Nat) (unread : Bytes) :
    recv size (socketOf unread []) = (.error .EAGAIN, socketOf unread []) := rfl

theorem recv_dry (size n : Nat) (arrivals : Arrivals) :
    recv size (socketOf [] (some n :: arrivals)) = (.error .EAGAIN, socketOf [] arrivals) := by
  simp [recv, socketOf, posix_some]

theorem recv_full {size n : Nat} (bytes rest : Bytes) (arrivals : Arrivals)
    (hs : bytes.length = size) (hpos : 0 < size) (hn : size ≤ n + 1) :
    recv size (socketOf (bytes ++ rest) (some n :: arrivals)) =
      (.ok bytes, socketOf rest arrivals) := by
  have hne : (bytes ++ rest).isEmpty = false := by
    cases bytes with
    | nil => simp only [List.length_nil] at hs; omega
    | cons b bytes => rfl
  subst hs
  simp [recv, socketOf, posix_some, hne, Nat.min_eq_left hn]

theorem recv_short {size n : Nat} (bytes rest : Bytes) (arrivals : Arrivals)
    (hs : bytes.length = size) (hn : n + 1 < size) :
    ∃ got k, recv size (socketOf (bytes ++ rest) (some n :: arrivals)) = (.ok got, k) ∧
      got.length = n + 1 := by
  have hne : (bytes ++ rest).isEmpty = false := by
    cases bytes with
    | nil => simp only [List.length_nil] at hs; omega
    | cons b bytes => rfl
  refine ⟨(bytes ++ rest).take (n + 1), socketOf ((bytes ++ rest).drop (n + 1)) arrivals, ?_, ?_⟩
  · simp [recv, socketOf, posix_some, hne, Nat.min_eq_right (Nat.le_of_lt hn)]
  · simp
    omega

@[simp] theorem fullReads_none (sizes : List Nat) (arrivals : Arrivals) :
    FullReads sizes (none :: arrivals) ↔ FullReads sizes arrivals := by
  cases sizes <;> simp [FullReads]

@[simp] theorem fullReads_some (size : Nat) (sizes : List Nat) (n : Nat) (arrivals : Arrivals) :
    FullReads (size :: sizes) (some n :: arrivals) ↔ size ≤ n + 1 ∧ FullReads sizes arrivals := by
  simp [FullReads]

@[simp] theorem fullReads_end (sizes : List Nat) : FullReads sizes [] := by
  cases sizes <;> simp [FullReads]

@[simp] theorem fullReads_done (arrivals : Arrivals) : FullReads [] arrivals := by
  induction arrivals with
  | nil => simp
  | cons a arrivals ih => cases a <;> simp [FullReads, ih]

/-- What one call of `receiveMessage` does where the receiver stands: either a read stopped
short and there is an error, or it goes on with less to come. -/
def Advances (messages : List Message) (sizes : List Nat) (arrivals : Arrivals)
    (r : Received) : Prop :=
  (r.code ≠ 0 ∧ ¬ FullReads sizes arrivals) ∨
  (r.code = 0 ∧ ∃ messages' unread' sizes' arrivals',
    messages.map (·.bytes) = r.payload.toList ++ messages'.map (·.bytes) ∧
    Awaits r.state messages' unread' sizes' ∧ r.socket = socketOf unread' arrivals' ∧
    (FullReads sizes arrivals ↔ FullReads sizes' arrivals') ∧
    (sizes.length ≤ arrivals.countP Option.isSome →
      sizes'.length ≤ arrivals'.countP Option.isSome) ∧
    arrivals'.length ≤ arrivals.length - 1)

theorem readPayload_eq (action : Bytes → Int32) (s : State) (k : Socket) :
    readPayload action s k = readAndAct action s k
      (if s.readMsgSize ≤ MsgSmallPayloadSize then none else some s.readMsgSize) := by
  unfold readPayload
  split <;> rfl

theorem readAndAct_again {action : Bytes → Int32} {s : State} {k k' : Socket} {heap : Option Nat}
    (hr : recv s.readMsgSize k = (.error .EAGAIN, k')) :
    readAndAct action s k heap = { code := 0, heap, state := s, socket := k' } := by
  simp [readAndAct, hr]

theorem readAndAct_whole {action : Bytes → Int32} {s : State} {k k' : Socket} {heap : Option Nat}
    {bytes : Bytes} (hr : recv s.readMsgSize k = (.ok bytes, k'))
    (hs : bytes.length = s.readMsgSize) :
    readAndAct action s k heap =
      { code := action bytes, payload := some bytes, heap,
        state := { s with readPhase := .header }, socket := k' } := by
  simp [readAndAct, hr, hs]

theorem readAndAct_short {action : Bytes → Int32} {s : State} {k k' : Socket} {heap : Option Nat}
    {bytes : Bytes} (hr : recv s.readMsgSize k = (.ok bytes, k'))
    (hs : bytes.length ≠ s.readMsgSize) : (readAndAct action s k heap).code ≠ 0 := by
  have hne : EINVAL ≠ 0 := by decide
  simpa [readAndAct, hr, hs] using hne

theorem advances_payload (m : Message) (messages : List Message) (arrivals : Arrivals) :
    Advances (m :: messages) (m.bytes.length :: requests messages) arrivals
      (readPayload accept ⟨m.bytes.length, .payload⟩
        (socketOf (m.bytes ++ streamOf messages) arrivals)) := by
  rw [readPayload_eq]
  cases arrivals with
  | nil =>
    rw [readAndAct_again (recv_nil _ _)]
    exact Or.inr ⟨rfl, m :: messages, m.bytes ++ streamOf messages,
      m.bytes.length :: requests messages, [], rfl, .payload m messages, rfl, Iff.rfl, id,
      Nat.le_refl _⟩
  | cons a arrivals =>
    cases a with
    | none =>
      rw [readAndAct_again (recv_none _ _ _)]
      exact Or.inr ⟨rfl, m :: messages, m.bytes ++ streamOf messages,
        m.bytes.length :: requests messages, arrivals, rfl, .payload m messages, rfl,
        fullReads_none _ _, by simp, Nat.le_refl _⟩
    | some n =>
      by_cases hn : m.bytes.length ≤ n + 1
      · have hr := recv_full m.bytes (streamOf messages) arrivals rfl m.nonempty hn
        rw [readAndAct_whole hr rfl]
        refine Or.inr ⟨rfl, messages, streamOf messages, requests messages, arrivals, rfl,
          .header m.bytes.length messages, rfl, ?_, by simp, Nat.le_refl _⟩
        rw [fullReads_some]
        exact and_iff_right hn
      · obtain ⟨got, k, hr, hgot⟩ :=
          recv_short (n := n) m.bytes (streamOf messages) arrivals rfl (by omega)
        have hne : got.length ≠ m.bytes.length := by omega
        exact Or.inl ⟨readAndAct_short hr hne, fun h => hn ((fullReads_some _ _ _ _).mp h).1⟩

theorem streamOf_cons (m : Message) (messages : List Message) :
    streamOf (m :: messages) =
      msgHeader m.bytes.length ++ (m.bytes ++ streamOf messages) := by
  simp [streamOf, frame, totalSize]

theorem requests_cons (m : Message) (messages : List Message) :
    requests (m :: messages) = 8 :: m.bytes.length :: requests messages := rfl

theorem receiveMessage_header (action : Bytes → Int32) {k k' : Socket} {m : Message} {size : Nat}
    (hr : recv 8 k = (.ok (msgHeader m.bytes.length), k')) :
    receiveMessage action ⟨size, .header⟩ k =
      readPayload action ⟨m.bytes.length, .payload⟩ k' := by
  have hpos := m.nonempty
  have hmax := m.bounded
  have hsize : readLE 4 ((msgHeader m.bytes.length).drop 4) = m.bytes.length :=
    readLE_size _ (by unfold MsgMaxSize at hmax; omega)
  have hbad : ¬(8 ≠ 8 ∨ MsgSignature ≠ MsgSignature ∨ m.bytes.length = 0 ∨
      MsgMaxSize < m.bytes.length) := by omega
  simp only [receiveMessage, hr, msgHeader_length, readLE_signature, hsize]
  rw [if_neg (by omega), if_neg hbad]

theorem receiveMessage_again {action : Bytes → Int32} {k k' : Socket} {size : Nat}
    (hr : recv 8 k = (.error .EAGAIN, k')) :
    receiveMessage action ⟨size, .header⟩ k =
      { code := 0, state := ⟨size, .header⟩, socket := k' } := by
  simp [receiveMessage, hr]

theorem receiveMessage_short {action : Bytes → Int32} {k k' : Socket} {size : Nat}
    {bytes : Bytes} (hr : recv 8 k = (.ok bytes, k')) (hs : bytes.length ≠ 8) :
    (receiveMessage action ⟨size, .header⟩ k).code ≠ 0 := by
  have heof : (-1 : Int32) ≠ 0 := by decide
  have hinval : EINVAL ≠ 0 := by decide
  simp only [receiveMessage, hr]
  split
  · exact heof
  · rw [if_pos (Or.inl hs)]
    exact hinval

theorem advances_header (size : Nat) (messages : List Message) (arrivals : Arrivals) :
    Advances messages (requests messages) arrivals
      (receiveMessage accept ⟨size, .header⟩ (socketOf (streamOf messages) arrivals)) := by
  cases arrivals with
  | nil =>
    rw [receiveMessage_again (recv_nil _ _)]
    exact Or.inr ⟨rfl, messages, streamOf messages, requests messages, [], rfl,
      .header size messages, rfl, Iff.rfl, id, Nat.le_refl _⟩
  | cons a arrivals =>
    cases a with
    | none =>
      rw [receiveMessage_again (recv_none _ _ _)]
      exact Or.inr ⟨rfl, messages, streamOf messages, requests messages, arrivals, rfl,
        .header size messages, rfl, fullReads_none _ _, by simp, Nat.le_refl _⟩
    | some n =>
      cases messages with
      | nil =>
        have hr : recv 8 (socketOf (streamOf []) (some n :: arrivals)) =
            (.error .EAGAIN, socketOf (streamOf []) arrivals) := recv_dry 8 n arrivals
        rw [receiveMessage_again hr]
        refine Or.inr ⟨rfl, [], streamOf [], requests [], arrivals, rfl, .header size [], rfl,
          ?_, ?_, Nat.le_refl _⟩ <;> simp [requests]
      | cons m messages =>
        rw [streamOf_cons, requests_cons]
        by_cases hn : 8 ≤ n + 1
        · have hr := recv_full (msgHeader m.bytes.length) (m.bytes ++ streamOf messages) arrivals
            (msgHeader_length _) (by omega) hn
          rw [receiveMessage_header accept hr]
          rcases advances_payload m messages arrivals with ⟨hcode, hshort⟩ | ⟨hcode, hgo⟩
          · exact Or.inl ⟨hcode, fun h => hshort ((fullReads_some _ _ _ _).mp h).2⟩
          · obtain ⟨messages', unread', sizes', arrivals', hm, ha, hk, hfull, hreads, hlen⟩ := hgo
            refine Or.inr ⟨hcode, messages', unread', sizes', arrivals', hm, ha, hk, ?_, ?_, ?_⟩
            · rw [fullReads_some, ← hfull]
              exact and_iff_right hn
            · intro h
              exact hreads (by simpa using h)
            · simp only [List.length_cons]
              omega
        · obtain ⟨got, k, hr, hgot⟩ := recv_short (n := n) (msgHeader m.bytes.length)
            (m.bytes ++ streamOf messages) arrivals (msgHeader_length _) (by omega)
          have hne : got.length ≠ 8 := by omega
          exact Or.inl ⟨receiveMessage_short hr hne,
            fun h => hn ((fullReads_some _ _ _ _).mp h).1⟩

theorem Awaits.advances {s : State} {messages : List Message} {unread : Bytes}
    {sizes : List Nat} (h : Awaits s messages unread sizes) (arrivals : Arrivals) :
    Advances messages sizes arrivals (receiveMessage accept s (socketOf unread arrivals)) := by
  cases h with
  | header size messages => exact advances_header size messages arrivals
  | payload m messages => exact advances_payload m messages arrivals

theorem Awaits.nothing_left {s : State} {messages : List Message} {sizes : List Nat}
    (h : Awaits s messages [] sizes) : messages = [] := by
  generalize hu : ([] : Bytes) = unread at h
  cases h with
  | header size messages =>
    cases messages with
    | nil => rfl
    | cons m messages =>
      have hlen := congrArg List.length hu
      rw [streamOf_cons] at hlen
      simp at hlen
      omega
  | payload m messages =>
    have hlen := congrArg List.length hu
    have hpos := m.nonempty
    simp at hlen
    omega

theorem Awaits.nothing_asked {s : State} {messages : List Message} {unread : Bytes}
    (h : Awaits s messages unread []) : messages = [] := by
  generalize hz : ([] : List Nat) = sizes at h
  cases h with
  | header size messages =>
    cases messages with
    | nil => rfl
    | cons m messages => cases hz
  | payload m messages => cases hz

/-- With full reads nothing goes wrong, and nothing is passed over. -/
theorem Awaits.poll {s : State} {messages : List Message} {unread : Bytes} {sizes : List Nat}
    {arrivals : Arrivals} (h : Awaits s messages unread sizes) (hf : FullReads sizes arrivals)
    (calls : Nat) :
    (poll accept calls s (socketOf unread arrivals)).code = 0 ∧
    ∃ messages' sizes',
      messages.map (·.bytes) = (SocketBase.poll accept calls s
        (socketOf unread arrivals)).delivered ++ messages'.map (·.bytes) ∧
      Awaits (SocketBase.poll accept calls s (socketOf unread arrivals)).state messages'
        (SocketBase.poll accept calls s (socketOf unread arrivals)).socket.unread sizes' := by
  induction calls generalizing s messages unread sizes arrivals with
  | zero => exact ⟨rfl, messages, sizes, rfl, h⟩
  | succ calls ih =>
    rcases h.advances arrivals with ⟨_, hshort⟩ | ⟨hcode, hgo⟩
    · exact absurd hf hshort
    · obtain ⟨messages', unread', sizes', arrivals', hm, ha, hk, hfull, -, -⟩ := hgo
      obtain ⟨hc, messages'', sizes'', hm', ha'⟩ := ih ha (hfull.mp hf)
      simp only [SocketBase.poll, hcode, ne_eq, not_true_eq_false, if_false, hk]
      refine ⟨hc, messages'', sizes'', ?_, ha'⟩
      rw [hm, hm', List.append_assoc]

/-- Each call takes an arrival while there is any, so that enough calls come to the end. -/
theorem Awaits.poll_delivers {s : State} {messages : List Message} {unread : Bytes}
    {sizes : List Nat} {arrivals : Arrivals} (h : Awaits s messages unread sizes)
    (hf : FullReads sizes arrivals) (hreads : sizes.length ≤ arrivals.countP Option.isSome)
    {calls : Nat} (hcalls : arrivals.length ≤ calls) :
    (SocketBase.poll accept calls s (socketOf unread arrivals)).delivered =
      messages.map (·.bytes) := by
  induction calls generalizing s messages unread sizes arrivals with
  | zero =>
    obtain rfl := List.length_eq_zero_iff.mp (Nat.le_zero.mp hcalls)
    obtain rfl := List.length_eq_zero_iff.mp (Nat.le_zero.mp hreads)
    rw [h.nothing_asked]
    rfl
  | succ calls ih =>
    rcases h.advances arrivals with ⟨_, hshort⟩ | ⟨hcode, hgo⟩
    · exact absurd hf hshort
    · obtain ⟨messages', unread', sizes', arrivals', hm, ha, hk, hfull, hkept, hlen⟩ := hgo
      have hrest := ih ha (hfull.mp hf) (hkept hreads) (by omega)
      simp only [SocketBase.poll, hcode, ne_eq, not_true_eq_false, if_false, hk]
      rw [hrest, hm]

/-- A read that stops short is reported as an error sooner or later. -/
theorem Awaits.poll_fails {s : State} {messages : List Message} {unread : Bytes}
    {sizes : List Nat} {arrivals : Arrivals} (h : Awaits s messages unread sizes)
    (hf : ¬ FullReads sizes arrivals) :
    ∃ calls, (SocketBase.poll accept calls s (socketOf unread arrivals)).code ≠ 0 := by
  generalize hlen : arrivals.length = length
  induction length using Nat.strongRecOn generalizing s messages unread sizes arrivals with
  | ind length ih =>
    rcases h.advances arrivals with ⟨hcode, _⟩ | ⟨hcode, hgo⟩
    · exact ⟨1, by simp [SocketBase.poll, hcode]⟩
    · obtain ⟨messages', unread', sizes', arrivals', _, ha, hk, hfull, -, hle⟩ := hgo
      have hpos : 0 < arrivals.length := by
        cases arrivals with
        | nil => exact absurd (fullReads_end sizes) hf
        | cons a arrivals => simp
      obtain ⟨calls, hc⟩ := ih arrivals'.length (by omega) ha (fun h => hf (hfull.mpr h)) rfl
      refine ⟨calls + 1, ?_⟩
      simpa [SocketBase.poll, hcode, hk] using hc

/-- Messages come through, however often `receiveMessage` is called, exactly if no read
stops short. -/
theorem reassembled_iff (messages : List Message) (arrivals : Arrivals) :
    (∀ calls, Reassembled messages arrivals calls) ↔ FullReads (requests messages) arrivals := by
  have hstart : Awaits {} messages (streamOf messages) (requests messages) :=
    .header 0 messages
  constructor
  · intro h
    by_contra hf
    obtain ⟨calls, hc⟩ := hstart.poll_fails hf
    exact hc (h calls).code
  · intro hf calls
    obtain ⟨hcode, messages', sizes', hm, ha⟩ := hstart.poll hf calls
    refine ⟨hcode, ⟨_, hm.symm⟩, fun hread => ?_, fun hcalls hreads => ?_⟩
    · rw [hread] at ha
      have hnil := ha.nothing_left
      rw [hnil, List.map_nil, List.append_nil] at hm
      exact hm.symm
    · exact hstart.poll_delivers hf hreads hcalls

def fiveBytes : Message := ⟨[1, 2, 3, 4, 5], by decide, by decide⟩

def oneByte : Message := ⟨[6], by decide, by decide⟩

/-- Two messages, with nothing to read before the first one, inside the second one and
between them. -/
theorem reassembled_sample :
    (∀ calls, Reassembled [fiveBytes, oneByte]
      [none, some 7, some 4, none, some 9, none, some 0] calls) ∧
    (poll accept 7 {} (socketOf (streamOf [fiveBytes, oneByte])
      [none, some 7, some 4, none, some 9, none, some 0])).delivered =
        [[1, 2, 3, 4, 5], [6]] := by
  have hall := (reassembled_iff [fiveBytes, oneByte]
    [none, some 7, some 4, none, some 9, none, some 0]).mpr
      (by simp [requests, fiveBytes, oneByte])
  exact ⟨hall, (hall 7).delivered (by decide) (by decide)⟩

/-- Two bytes of the five come first. -/
theorem not_reassembled :
    poll accept 1 {} (socketOf (streamOf [fiveBytes]) [some 7, some 1]) =
      ⟨EINVAL, [], ⟨5, .payload⟩, socketOf [3, 4, 5] []⟩ ∧
    ¬ ∀ calls, Reassembled [fiveBytes] [some 7, some 1] calls := by
  refine ⟨rfl, fun h => ?_⟩
  exact absurd (h 1).code (by decide)

end Ocvsmd.Ipc.SocketBase
