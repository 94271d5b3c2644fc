import Ocvsmd.FrameReceive

/-!
What `SocketBase::receiveMessage` makes of any bytes at all, next to a parser that has the
whole stream before it.
-/

set_option autoImplicit false

namespace Ocvsmd.Ipc.SocketBase

/-- The payloads of a stream, up to the first bad header or the first frame that is cut off. -/
def parse (stream : Bytes) : List Bytes :=
  let size := readLE 4 (stream.drop 4)
  if 8 ≤ stream.length ∧ readLE 4 stream = MsgSignature ∧ 1 ≤ size ∧ size ≤ MsgMaxSize ∧
      8 + size ≤ stream.length then
    (stream.drop 8).take size :: parse (stream.drop (8 + size))
  else []
termination_by stream.length
decreasing_by
  simp only [List.length_drop]
  omega

def framesOf (payloads : List Bytes) : Bytes := payloads.flatMap fun b => frame [b]

def State.taken (s : State) : Bytes :=
  match s.readPhase with
  | .header => []
  | .payload => msgHeader s.readMsgSize

/-- What the parser would still find from here. -/
def State.expects (s : State) (unread : Bytes) : List Bytes :=
  match s.readPhase with
  | .header => parse unread
  | .payload =>
    if s.readMsgSize ≤ unread.length then
      unread.take s.readMsgSize :: parse (unread.drop s.readMsgSize)
    else []

def State.Sized (s : State) : Prop :=
  s.readPhase = .payload → 1 ≤ s.readMsgSize ∧ s.readMsgSize ≤ MsgMaxSize

def Socket.Ended (k : Socket) : Prop :=
  k.unread = [] ∧ k.closed = true ∧ ∃ n rest, posixSyscallError k.answers = (.ok n, rest)

theorem posix_suffix {α : Type} (answers : List (Syscall α)) :
    (posixSyscallError answers).2 <:+ answers := by
  induction answers with
  | nil => exact List.suffix_refl _
  | cons a rest ih =>
    cases a with
    | done a => exact List.suffix_cons _ _
    | error e =>
      simp only [posixSyscallError]
      split
      · exact ih.trans (List.suffix_cons _ _)
      · exact List.suffix_cons _ _

theorem posix_error {α : Type} {answers rest : List (Syscall α)} {e : Errno}
    (h : posixSyscallError answers = (.error e, rest)) : .error e ∈ answers ∨ e = .EAGAIN := by
  induction answers with
  | nil =>
    cases h
    exact Or.inr rfl
  | cons a answers ih =>
    cases a with
    | done a => cases h
    | error e' =>
      simp only [posixSyscallError] at h
      split at h
      · exact (ih h).imp_left (List.mem_cons_of_mem _)
      · cases h
        exact Or.inl List.mem_cons_self

inductive RecvCase (size : Nat) (k : Socket) (result : Except Errno Bytes × Socket) : Prop where
  | error (e : Errno) (rest : List (Syscall Nat)) (suffix : rest <:+ k.answers)
      (known : .error e ∈ k.answers ∨ e = .EAGAIN) (going : ¬ k.Ended)
      (result : result = (.error e, { k with answers := rest }))
  | ended (rest : List (Syscall Nat)) (suffix : rest <:+ k.answers) (ended : k.Ended)
      (result : result = (.ok [], { k with answers := rest }))
  | bytes (n : Nat) (rest : List (Syscall Nat)) (suffix : rest <:+ k.answers)
      (some : k.unread ≠ [])
      (result : result = (.ok (k.unread.take (min size (n + 1))),
        { k with unread := k.unread.drop (min size (n + 1)), answers := rest }))

theorem recv_cases (size : Nat) (k : Socket) : RecvCase size k (recv size k) := by
  have hsuffix := posix_suffix k.answers
  cases hp : posixSyscallError k.answers with
  | mk outcome rest =>
    rw [hp] at hsuffix
    cases outcome with
    | error e =>
      refine .error e rest hsuffix (posix_error hp) ?_ (by simp [recv, hp])
      rintro ⟨_, _, n, rest', heq⟩
      rw [hp] at heq
      cases heq
    | ok n =>
      by_cases hu : k.unread = []
      · cases hc : k.closed with
        | true => exact .ended rest hsuffix ⟨hu, hc, n, rest, hp⟩ (by simp [recv, hp, hu, hc])
        | false =>
          refine .error .EAGAIN rest hsuffix (Or.inr rfl) (fun h => ?_)
            (by simp [recv, hp, hu, hc])
          rw [h.2.1] at hc
          cases hc
      · exact .bytes n rest hsuffix hu (by simp [recv, hp, hu])

theorem writeLE_readLE (n : Nat) (bs : Bytes) (h : n ≤ bs.length) :
    writeLE n (readLE n bs) = bs.take n := by
  induction n generalizing bs with
  | zero => simp [writeLE]
  | succ n ih =>
    cases bs with
    | nil => simp at h
    | cons b bs =>
      have hlow : UInt8.ofNat (b.toNat + 256 * readLE n bs) = b := by
        apply UInt8.toNat_inj.mp
        rw [UInt8.toNat_ofNat']
        have hb := b.toNat_lt
        omega
      have hhigh : (b.toNat + 256 * readLE n bs) / 256 = readLE n bs := by
        have hb := b.toNat_lt
        omega
      simp only [writeLE, readLE, hlow, hhigh, List.take_succ_cons]
      rw [ih bs (by simpa using h)]

theorem msgHeader_read {bs : Bytes} (h : 8 ≤ bs.length) (hs : readLE 4 bs = MsgSignature) :
    msgHeader (readLE 4 (bs.drop 4)) = bs.take 8 := by
  unfold msgHeader
  rw [← hs, writeLE_readLE 4 bs (by omega), writeLE_readLE 4 (bs.drop 4) (by simp; omega)]
  rw [← List.take_add]

theorem readLE_take {n m : Nat} (bs : Bytes) (h : n ≤ m) :
    readLE n (bs.take m) = readLE n bs := by
  induction n generalizing m bs with
  | zero => simp [readLE]
  | succ n ih =>
    cases bs with
    | nil => simp
    | cons b bs =>
      obtain ⟨m, rfl⟩ : ∃ m', m = m' + 1 := ⟨m - 1, by omega⟩
      simp only [List.take_succ_cons, readLE]
      rw [ih bs (by omega)]

/-- What one call of `receiveMessage` comes to, in terms of the parser. -/
inductive Outcome (action : Bytes → Int32) (s : State) (k : Socket) (r : Received) : Prop where
  | waits (code : r.code = 0) (payload : r.payload = none) (sized : r.state.Sized)
      (parsed : s.expects k.unread = r.state.expects r.socket.unread)
      (bytes : s.taken ++ k.unread = r.state.taken ++ r.socket.unread)
  | delivers (b : Bytes) (code : r.code = action b) (payload : r.payload = some b)
      (sized : r.state.Sized)
      (parsed : s.expects k.unread = b :: r.state.expects r.socket.unread)
      (bytes : s.taken ++ k.unread = frame [b] ++ (r.state.taken ++ r.socket.unread))
  | fails (code : r.code ≠ 0) (payload : r.payload = none)

theorem outcome_short {action : Bytes → Int32} {s : State} {k k' : Socket} {heap : Option Nat}
    {bytes : Bytes} (hr : recv s.readMsgSize k = (.ok bytes, k'))
    (hs : bytes.length ≠ s.readMsgSize) : Outcome action s k (readAndAct action s k heap) := by
  refine .fails (readAndAct_short hr hs) ?_
  simp only [readAndAct, hr]
  rw [if_pos hs]

theorem outcome_readAndAct (action : Bytes → Int32) {s : State} (k : Socket) (heap : Option Nat)
    (hp : s.readPhase = .payload) (hs : s.Sized) :
    Outcome action s k (readAndAct action s k heap) := by
  obtain ⟨hpos, hmax⟩ := hs hp
  cases recv_cases s.readMsgSize k with
  | error e rest suffix known going result =>
    by_cases he : e = .EAGAIN
    · subst he
      rw [readAndAct_again result]
      exact .waits rfl rfl hs rfl rfl
    · refine .fails ?_ ?_
      · simpa [readAndAct, result, he] using e.nonzero
      · simp [readAndAct, result]
  | ended rest suffix ended result =>
    have hne : ([] : Bytes).length ≠ s.readMsgSize := by
      simp only [List.length_nil]
      omega
    exact outcome_short result hne
  | bytes n rest suffix some result =>
    by_cases hlen : (k.unread.take (min s.readMsgSize (n + 1))).length = s.readMsgSize
    · rw [readAndAct_whole result hlen]
      have hle : s.readMsgSize ≤ k.unread.length ∧ min s.readMsgSize (n + 1) = s.readMsgSize := by
        simp only [List.length_take] at hlen
        omega
      have hmin := hle.2
      refine .delivers (k.unread.take s.readMsgSize) ?_ ?_ ?_ ?_ ?_
      · simp only [hmin]
      · simp only [hmin]
      · exact fun h => by cases h
      · simp only [State.expects, hp, hmin]
        rw [if_pos hle.1]
      · have hsize : (k.unread.take s.readMsgSize).length = s.readMsgSize := by
          simp only [List.length_take]
          omega
        simp only [State.taken, hp, hmin, frame, totalSize, List.flatten_cons, List.flatten_nil,
          List.append_nil, List.nil_append, hsize, List.append_assoc, List.take_append_drop]
    · exact outcome_short result hlen

theorem outcome_readPayload (action : Bytes → Int32) {s : State} (k : Socket)
    (hp : s.readPhase = .payload) (hs : s.Sized) :
    Outcome action s k (readPayload action s k) := by
  rw [readPayload_eq]
  exact outcome_readAndAct action k _ hp hs

theorem parse_header {stream : Bytes} {size : Nat} (hlen : 8 ≤ stream.length)
    (hsig : readLE 4 stream = MsgSignature) (hsize : readLE 4 (stream.drop 4) = size)
    (hpos : 1 ≤ size) (hmax : size ≤ MsgMaxSize) :
    parse stream = State.expects ⟨size, .payload⟩ (stream.drop 8) := by
  rw [parse]
  simp only [hsize, hlen, hsig, hpos, hmax, true_and, State.expects, List.length_drop,
    List.drop_drop]
  by_cases h : 8 + size ≤ stream.length
  · rw [if_pos h, if_pos (by omega)]
  · rw [if_neg h, if_neg (by omega)]

theorem Outcome.after {action : Bytes → Int32} {s s' : State} {k k' : Socket} {r : Received}
    (h : Outcome action s' k' r) (hparsed : s.expects k.unread = s'.expects k'.unread)
    (hbytes : s.taken ++ k.unread = s'.taken ++ k'.unread) : Outcome action s k r := by
  cases h with
  | waits code payload sized parsed bytes =>
    exact .waits code payload sized (hparsed.trans parsed) (hbytes.trans bytes)
  | delivers b code payload sized parsed bytes =>
    exact .delivers b code payload sized (hparsed.trans parsed) (hbytes.trans bytes)
  | fails code payload => exact .fails code payload

theorem outcome_receiveMessage (action : Bytes → Int32) {s : State} (k : Socket) (hs : s.Sized) :
    Outcome action s k (receiveMessage action s k) := by
  have heof : (-1 : Int32) ≠ 0 := by decide
  have hinval : EINVAL ≠ 0 := by decide
  obtain ⟨size, phase⟩ := s
  cases phase with
  | payload => exact outcome_readPayload action k rfl hs
  | header =>
    cases recv_cases 8 k with
    | error e rest suffix known going result =>
      by_cases he : e = .EAGAIN
      · subst he
        rw [receiveMessage_again result]
        exact .waits rfl rfl hs rfl rfl
      · refine .fails ?_ ?_
        · simpa only [receiveMessage, result, he, if_false] using e.nonzero
        · simp only [receiveMessage, result]
    | ended rest suffix ended result =>
      exact .fails (receiveMessage_short result (by decide)) (by simp [receiveMessage, result])
    | bytes n rest suffix some result =>
      simp only [receiveMessage, result]
      split
      · exact .fails heof rfl
      · split
        · exact .fails hinval rfl
        · next hgood =>
          simp only [not_or, ne_eq, not_not, Nat.not_lt] at hgood
          obtain ⟨hread, hsig, hzero, hmax⟩ := hgood
          have hlen : 8 ≤ k.unread.length ∧ min 8 (n + 1) = 8 := by
            simp only [List.length_take] at hread
            omega
          obtain ⟨hlen, hmin⟩ := hlen
          rw [hmin] at hsig hzero hmax ⊢
          rw [readLE_take _ (by omega)] at hsig
          have hsize : readLE 4 ((k.unread.take 8).drop 4) = readLE 4 (k.unread.drop 4) := by
            rw [List.drop_take, readLE_take _ (by omega)]
          rw [hsize] at hzero hmax ⊢
          have hpos := Nat.one_le_iff_ne_zero.mpr hzero
          refine (outcome_readPayload action _ rfl fun _ => ⟨hpos, hmax⟩).after ?_ ?_
          · exact parse_header hlen hsig rfl hpos hmax
          · simp only [State.taken, msgHeader_read hlen hsig, List.nil_append,
              List.take_append_drop]

theorem readAndAct_code_ne {action : Bytes → Int32} {s : State} {k : Socket}
    (heap : Option Nat) (ha : ∀ b, action b ≠ -1)
    (he : ∀ e, .error e ∈ k.answers → e.code ≠ -1) : (readAndAct action s k heap).code ≠ -1 := by
  have hwaits : (0 : Int32) ≠ -1 := by decide
  have hinval : EINVAL ≠ -1 := by decide
  have hread : ∀ {bytes k'}, recv s.readMsgSize k = (.ok bytes, k') →
      (readAndAct action s k heap).code ≠ -1 := by
    intro bytes k' hr
    simp only [readAndAct, hr]
    split
    · exact hinval
    · exact ha bytes
  cases recv_cases s.readMsgSize k with
  | error e rest suffix known going result =>
    simp only [readAndAct, result]
    split
    · exact hwaits
    · next hagain => exact he e (known.resolve_right hagain)
  | ended rest suffix ended result => exact hread result
  | bytes n rest suffix some result => exact hread result

/-- Only the end of the stream, met where a header is due, makes -1. -/
theorem receiveMessage_eof {action : Bytes → Int32} {s : State} {k : Socket}
    (ha : ∀ b, action b ≠ -1) (he : ∀ e, .error e ∈ k.answers → e.code ≠ -1) :
    (receiveMessage action s k).code = -1 ↔ s.readPhase = .header ∧ k.Ended := by
  have hwaits : (0 : Int32) ≠ -1 := by decide
  have hinval : EINVAL ≠ -1 := by decide
  obtain ⟨size, phase⟩ := s
  cases phase with
  | payload =>
    have hne : (receiveMessage action ⟨size, .payload⟩ k).code ≠ -1 := by
      simp only [receiveMessage, readPayload_eq]
      exact readAndAct_code_ne _ ha he
    exact iff_of_false hne fun h => by cases h.1
  | header =>
    cases recv_cases 8 k with
    | error e rest suffix known going result =>
      refine iff_of_false ?_ fun h => going h.2
      simp only [receiveMessage, result]
      split
      · exact hwaits
      · next hagain => exact he e (known.resolve_right hagain)
    | ended rest suffix ended result =>
      exact iff_of_true (by simp [receiveMessage, result]) ⟨rfl, ended⟩
    | bytes n rest suffix some result =>
      refine iff_of_false ?_ fun h => some h.2.1
      have hlen : (k.unread.take (min 8 (n + 1))).length ≠ 0 := by
        have hpos := List.length_pos_iff.mpr some
        simp only [List.length_take]
        omega
      simp only [receiveMessage, result]
      rw [if_neg hlen]
      split
      · exact hinval
      · rw [readPayload_eq]
        exact readAndAct_code_ne _ ha fun e h => he e (suffix.subset h)

structure Keeps (k : Socket) (r : Received) : Prop where
  answers : r.socket.answers <:+ k.answers
  closed : r.socket.closed = k.closed
  heap : ∀ n, r.heap = some n → n ≤ MsgMaxSize

theorem recv_keeps (size : Nat) (k : Socket) :
    (recv size k).2.answers <:+ k.answers ∧ (recv size k).2.closed = k.closed := by
  cases recv_cases size k with
  | error e rest suffix known going result =>
    rw [result]
    exact ⟨suffix, rfl⟩
  | ended rest suffix ended result =>
    rw [result]
    exact ⟨suffix, rfl⟩
  | bytes n rest suffix some result =>
    rw [result]
    exact ⟨suffix, rfl⟩

theorem readAndAct_socket (action : Bytes → Int32) (s : State) (k : Socket) (heap : Option Nat) :
    (readAndAct action s k heap).socket = (recv s.readMsgSize k).2 ∧
      (readAndAct action s k heap).heap = heap := by
  unfold readAndAct
  split
  · next hr =>
    rw [hr]
    exact ⟨rfl, rfl⟩
  · next hr =>
    rw [hr]
    split <;> exact ⟨rfl, rfl⟩

theorem readPayload_keeps (action : Bytes → Int32) {s : State} (k : Socket)
    (hmax : s.readMsgSize ≤ MsgMaxSize) : Keeps k (readPayload action s k) := by
  rw [readPayload_eq]
  obtain ⟨hk, hheap⟩ := readAndAct_socket action s k
    (if s.readMsgSize ≤ MsgSmallPayloadSize then none else some s.readMsgSize)
  have hkeeps := recv_keeps s.readMsgSize k
  refine ⟨?_, ?_, fun n hn => ?_⟩
  · rw [hk]
    exact hkeeps.1
  · rw [hk]
    exact hkeeps.2
  · rw [hheap] at hn
    split at hn
    · cases hn
    · cases hn
      exact hmax

theorem receiveMessage_keeps (action : Bytes → Int32) {s : State} (k : Socket) (hs : s.Sized) :
    Keeps k (receiveMessage action s k) := by
  have hkeeps := recv_keeps 8 k
  obtain ⟨size, phase⟩ := s
  cases phase with
  | payload => exact readPayload_keeps action k (hs rfl).2
  | header =>
    simp only [receiveMessage]
    split
    · next hr =>
      rw [hr] at hkeeps
      exact ⟨hkeeps.1, hkeeps.2, fun n hn => by cases hn⟩
    · next buffer k' hr =>
      rw [hr] at hkeeps
      split
      · exact ⟨hkeeps.1, hkeeps.2, fun n hn => by cases hn⟩
      · split
        · exact ⟨hkeeps.1, hkeeps.2, fun n hn => by cases hn⟩
        · next hgood =>
          simp only [not_or, Nat.not_lt] at hgood
          have hnext := readPayload_keeps action (s := ⟨_, .payload⟩) k' hgood.2.2.2
          exact ⟨hnext.answers.trans hkeeps.1, hnext.closed.trans hkeeps.2, hnext.heap⟩

/-- Where the calls of `receiveMessage` have come to when none of them has failed. -/
structure Standing (s : State) (k : Socket) (p : Polled) : Prop where
  sized : p.state.Sized
  parsed : s.expects k.unread = p.delivered ++ p.state.expects p.socket.unread
  bytes : s.taken ++ k.unread = framesOf p.delivered ++ (p.state.taken ++ p.socket.unread)
  answers : p.socket.answers <:+ k.answers
  closed : p.socket.closed = k.closed

theorem poll_standing (action : Bytes → Int32) (calls : Nat) {s : State} {k : Socket}
    (hs : s.Sized) :
    (poll action calls s k).delivered <+: s.expects k.unread ∧
      ((poll action calls s k).code = 0 → Standing s k (poll action calls s k)) := by
  induction calls generalizing s k with
  | zero =>
    refine ⟨List.nil_prefix, fun _ => ⟨hs, rfl, ?_, List.suffix_refl _, rfl⟩⟩
    rfl
  | succ calls ih =>
    have hkeeps := receiveMessage_keeps action k hs
    cases outcome_receiveMessage action k hs with
    | waits code payload sized parsed bytes =>
      obtain ⟨hfirst, hstanding⟩ := ih (k := (receiveMessage action s k).socket) sized
      simp only [poll, code, ne_eq, not_true_eq_false, if_false, payload, Option.toList_none,
        List.nil_append, parsed]
      refine ⟨hfirst, fun hc => ?_⟩
      have hst := hstanding hc
      exact ⟨hst.sized, parsed.trans hst.parsed, bytes.trans hst.bytes,
        hst.answers.trans hkeeps.answers, hst.closed.trans hkeeps.closed⟩
    | delivers b code payload sized parsed bytes =>
      by_cases hcode : (receiveMessage action s k).code = 0
      · obtain ⟨hfirst, hstanding⟩ := ih (k := (receiveMessage action s k).socket) sized
        simp only [poll, hcode, ne_eq, not_true_eq_false, if_false, payload, Option.toList_some,
          List.singleton_append, parsed]
        refine ⟨(List.prefix_cons_inj b).mpr hfirst, fun hc => ?_⟩
        have hst := hstanding hc
        refine ⟨hst.sized, ?_, ?_, hst.answers.trans hkeeps.answers,
          hst.closed.trans hkeeps.closed⟩
        · rw [parsed, hst.parsed]
          rfl
        · rw [bytes, hst.bytes, ← List.append_assoc]
          rfl
      · simp only [poll, hcode, ne_eq, not_false_eq_true, if_true, payload, Option.toList_some,
          parsed]
        exact ⟨⟨_, rfl⟩, fun hc => hc.elim⟩
    | fails code payload =>
      simp only [poll, code, ne_eq, not_false_eq_true, if_true, payload, Option.toList_none]
      exact ⟨List.nil_prefix, fun hc => hc.elim⟩

/-- The stream ends with the frames that were delivered exactly if the reader stands where a
header is due, with nothing left to read. -/
theorem Standing.boundary {stream : Bytes} {answers : List (Syscall Nat)} {closed : Bool}
    {p : Polled} (h : Standing {} ⟨stream, answers, closed⟩ p) :
    stream = framesOf p.delivered ↔ p.state.readPhase = .header ∧ p.socket.unread = [] := by
  have hbytes : stream = framesOf p.delivered ++ (p.state.taken ++ p.socket.unread) := h.bytes
  constructor
  · intro heq
    rw [heq] at hbytes
    have hnil : p.state.taken ++ p.socket.unread = [] := List.self_eq_append_right.mp hbytes
    obtain ⟨htaken, hunread⟩ := List.append_eq_nil_iff.mp hnil
    refine ⟨?_, hunread⟩
    cases hp : p.state.readPhase with
    | header => rfl
    | payload =>
      have hlen := congrArg List.length htaken
      simp [State.taken, hp] at hlen
  · rintro ⟨hp, hunread⟩
    simpa [State.taken, hp, hunread] using hbytes

/-- Whatever the peer sends and however it arrives, what is delivered are the first payloads
that the parser finds. Each call asks for no more memory than a message may have, and reads
the same with it as without; and -1 means the end of the stream between two frames. -/
theorem whole_frames (action : Bytes → Int32) (stream : Bytes) (answers : List (Syscall Nat))
    (closed : Bool) (calls : Nat) :
    let p := poll action calls {} ⟨stream, answers, closed⟩
    p.delivered <+: parse stream ∧
    (p.code = 0 →
      let r := receiveMessage action p.state p.socket
      (∀ n, r.heap = some n → n ≤ MsgMaxSize) ∧
      (∀ heap, readAndAct action p.state p.socket heap =
        { readPayload action p.state p.socket with heap := heap }) ∧
      ((∀ b, action b ≠ -1) → (∀ e, .error e ∈ answers → e.code ≠ -1) →
        (r.code = -1 ↔ stream = framesOf p.delivered ∧ closed = true ∧
          ∃ n rest, posixSyscallError p.socket.answers = (.ok n, rest)))) := by
  intro p
  have hsized : State.Sized {} := fun h => by cases h
  obtain ⟨hfirst, hstanding⟩ :=
    poll_standing action calls (k := ⟨stream, answers, closed⟩) hsized
  refine ⟨hfirst, fun hc => ?_⟩
  have hst := hstanding hc
  refine ⟨(receiveMessage_keeps action p.socket hst.sized).heap, fun heap => ?_, fun ha he => ?_⟩
  · rw [readPayload_eq]
    unfold readAndAct
    split
    · rfl
    · split <;> rfl
  · have hclosed : p.socket.closed = closed := hst.closed
    rw [receiveMessage_eof ha fun e h => he e (hst.answers.subset h), hst.boundary]
    unfold Socket.Ended
    rw [hclosed, and_assoc]

/-- One frame in two reads, and then the end of the stream. -/
theorem whole_frames_ended :
    let p := poll accept 1 {} ⟨framesOf [[1, 2, 3]], [.done 7, .done 2, .done 0], true⟩
    p.delivered = [[1, 2, 3]] ∧ p.delivered <+: parse (framesOf [[1, 2, 3]]) ∧
      (receiveMessage accept p.state p.socket).code = -1 := by
  intro p
  have hsound := whole_frames accept (framesOf [[1, 2, 3]]) [.done 7, .done 2, .done 0] true 1
  refine ⟨rfl, hsound.1,
    ((hsound.2 rfl).2.2 (fun _ => show (0 : Int32) ≠ -1 by decide) fun e h => ?_).mpr ?_⟩
  · simp at h
  · exact ⟨rfl, rfl, 0, [], rfl⟩

end Ocvsmd.Ipc.SocketBase
