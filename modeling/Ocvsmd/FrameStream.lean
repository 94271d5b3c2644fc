import Ocvsmd.FrameReceive

set_option autoImplicit false

namespace Ocvsmd.Ipc.SocketBase

/-- What a receiver is still to deliver of a stream. -/
def Pending (s : State) (messages : List Message) (unread : Bytes) : Prop :=
  ∃ sizes, Awaits s messages unread sizes

theorem pending_init : Pending {} [] [] := ⟨[], .header 0 []⟩

theorem streamOf_append (messages more : List Message) :
    streamOf (messages ++ more) = streamOf messages ++ streamOf more :=
  List.flatMap_append

theorem Pending.write {s : State} {messages : List Message} {unread : Bytes}
    (h : Pending s messages unread) (more : List Message) :
    Pending s (messages ++ more) (unread ++ streamOf more) := by
  obtain ⟨sizes, h⟩ := h
  cases h with
  | header size messages =>
    rw [← streamOf_append]
    exact ⟨_, .header size _⟩
  | payload m messages =>
    rw [List.append_assoc, ← streamOf_append]
    exact ⟨_, .payload m _⟩

theorem recv_open (size : Nat) {k : Socket} (hk : k.closed = false) :
    (∃ e rest, recv size k = (.error e, { k with answers := rest })) ∨
    ∃ got unread rest, recv size k = (.ok got, { k with unread := unread, answers := rest }) ∧
      k.unread = got ++ unread ∧ k.unread ≠ [] := by
  unfold recv
  split
  · next e rest _ => exact Or.inl ⟨e, rest, rfl⟩
  · next n rest _ =>
    split
    · next hempty =>
      rw [hk]
      exact Or.inl ⟨.EAGAIN, rest, rfl⟩
    · next hsome =>
      exact Or.inr ⟨_, _, rest, rfl, (List.take_append_drop _ _).symm,
        fun hnil => hsome (by simp [hnil])⟩

/-- What a call that returns 0 does to a receiver that is in step with its stream. -/
def InStep (messages : List Message) (r : Received) : Prop :=
  (r.payload = none ∧ Pending r.state messages r.socket.unread) ∨
  ∃ m rest, messages = m :: rest ∧ r.payload = some m.bytes ∧
    Pending r.state rest r.socket.unread

theorem inStep_readPayload {m : Message} {messages : List Message} {k : Socket}
    (hu : k.unread = m.bytes ++ streamOf messages) (hk : k.closed = false)
    (hc : (readPayload accept ⟨m.bytes.length, .payload⟩ k).code = 0) :
    InStep (m :: messages) (readPayload accept ⟨m.bytes.length, .payload⟩ k) := by
  rw [readPayload_eq] at hc ⊢
  rcases recv_open m.bytes.length hk with ⟨e, rest, hr⟩ | ⟨got, unread, rest, hr, hsplit, _⟩
  · refine Or.inl ⟨by simp [readAndAct, hr], ⟨m.bytes.length :: requests messages, ?_⟩⟩
    simp only [readAndAct, hr, hu]
    exact .payload m messages
  · by_cases hlen : got.length = m.bytes.length
    · rw [readAndAct_whole hr hlen]
      rw [hu] at hsplit
      obtain ⟨rfl, rfl⟩ := List.append_inj hsplit hlen.symm
      exact Or.inr ⟨m, messages, rfl, rfl, requests messages, .header _ messages⟩
    · exact absurd hc (readAndAct_short hr hlen)

theorem inStep_header {size : Nat} {messages : List Message} {k : Socket}
    (hu : k.unread = streamOf messages) (hk : k.closed = false)
    (hc : (receiveMessage accept ⟨size, .header⟩ k).code = 0) :
    InStep messages (receiveMessage accept ⟨size, .header⟩ k) := by
  rcases recv_open 8 hk with ⟨e, rest, hr⟩ | ⟨got, unread, rest, hr, hsplit, hne⟩
  · refine Or.inl ⟨by simp [receiveMessage, hr], ⟨requests messages, ?_⟩⟩
    simp only [receiveMessage, hr, hu]
    exact .header size messages
  · by_cases hlen : got.length = 8
    · cases messages with
      | nil => exact absurd hu hne
      | cons m messages =>
        rw [hu, streamOf_cons] at hsplit
        obtain ⟨rfl, rfl⟩ := List.append_inj hsplit (by simp [hlen])
        rw [receiveMessage_header accept hr] at hc ⊢
        exact inStep_readPayload rfl hk hc
    · exact absurd hc (receiveMessage_short hr hlen)

/-- As long as no error is reported, a receiver delivers the messages that were written,
each one once and in order. -/
theorem Pending.receive {s : State} {messages : List Message} {k : Socket}
    (h : Pending s messages k.unread) (hk : k.closed = false)
    (hc : (receiveMessage accept s k).code = 0) :
    InStep messages (receiveMessage accept s k) := by
  obtain ⟨sizes, h⟩ := h
  generalize hu : k.unread = unread at h
  cases h with
  | header size messages => exact inStep_header hu hk hc
  | payload m messages => exact inStep_readPayload hu hk hc

/-- A kernel that gives all it is asked for hands the oldest message over. -/
theorem Pending.delivers {s : State} {m : Message} {messages : List Message} {unread : Bytes}
    (h : Pending s (m :: messages) unread) :
    ∃ answers, (receiveMessage accept s ⟨unread, answers, false⟩).code = 0 ∧
      (receiveMessage accept s ⟨unread, answers, false⟩).payload = some m.bytes := by
  obtain ⟨sizes, h⟩ := h
  refine ⟨answersOf [some (m.bytes.length + 7), some m.bytes.length], ?_⟩
  change (receiveMessage accept s (socketOf _ _)).code = 0 ∧
    (receiveMessage accept s (socketOf _ _)).payload = _
  cases h with
  | header size =>
    have hr := recv_full (n := m.bytes.length + 7) (msgHeader m.bytes.length)
      (m.bytes ++ streamOf messages) [some m.bytes.length] (msgHeader_length _) (by omega)
      (by omega)
    have hp := recv_full (n := m.bytes.length) m.bytes (streamOf messages) [] rfl m.nonempty
      (by omega)
    rw [streamOf_cons, receiveMessage_header accept hr, readPayload_eq, readAndAct_whole hp rfl]
    exact ⟨rfl, rfl⟩
  | payload =>
    have hp := recv_full (n := m.bytes.length + 7) m.bytes (streamOf messages)
      [some m.bytes.length] rfl m.nonempty (by omega)
    simp only [receiveMessage]
    rw [readPayload_eq, readAndAct_whole hp rfl]
    exact ⟨rfl, rfl⟩

end Ocvsmd.Ipc.SocketBase
