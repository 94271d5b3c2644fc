import Ocvsmd.RouteCodec

/-!
`SocketBase`: messages framed on a stream socket. What the kernel answers to the calls
that are made of it is an input: a list of answers, the first one first.
-/

set_option autoImplicit false

namespace Ocvsmd.Ipc

structure Errno where
  code : Int32
  nonzero : code ≠ 0
  deriving DecidableEq

namespace Errno

def EINTR : Errno := ⟨4, by decide⟩
def EAGAIN : Errno := ⟨11, by decide⟩

end Errno

inductive Syscall (α : Type) where
  | done : α → Syscall α
  | error : Errno → Syscall α
  deriving DecidableEq

/-- Retries a call that a signal interrupted. A kernel with no answer left says `EAGAIN`. -/
def posixSyscallError {α : Type} : List (Syscall α) → Except Errno α × List (Syscall α)
  | [] => (.error .EAGAIN, [])
  | .done a :: rest => (.ok a, rest)
  | .error e :: rest => if e = .EINTR then posixSyscallError rest else (.error e, rest)

namespace SocketBase

def MsgSmallPayloadSize : Nat := 256
def MsgSignature : Nat := 0x5356434F
def MsgMaxSize : Nat := 2^20

/-- `MsgHeader` as it lies in memory. The cast to 32 bits is that of `writeLE`. -/
def msgHeader (size : Nat) : Bytes := writeLE 4 MsgSignature ++ writeLE 4 size

def totalSize (payloads : List Bytes) : Nat := payloads.flatten.length

/-- How much of a buffer one `::send` takes: all of it, or n+1 bytes. -/
inductive Taken where
  | all : Taken
  | short : Nat → Taken
  deriving DecidableEq

def Taken.of (t : Taken) (bytes : Bytes) : Bytes :=
  match t with
  | .all => bytes
  | .short n => bytes.take (n + 1)

/-- What a call of `send` returns, and what it put on the stream. -/
structure Sent where
  code : Int32
  written : Bytes
  deriving DecidableEq

def sendFragments : List Bytes → List (Syscall Taken) → Sent
  | [], _ => ⟨0, []⟩
  | payload :: payloads, answers =>
    match posixSyscallError answers with
    | (.error e, _) => ⟨e.code, []⟩
    | (.ok t, rest) =>
      let sent := sendFragments payloads rest
      ⟨sent.code, t.of payload ++ sent.written⟩

/-- The number of bytes that `::send` took is not looked at. -/
def send (payloads : List Bytes) (answers : List (Syscall Taken)) : Sent :=
  match posixSyscallError answers with
  | (.error e, _) => ⟨e.code, []⟩
  | (.ok t, rest) =>
    let sent := sendFragments payloads rest
    ⟨sent.code, t.of (msgHeader (totalSize payloads)) ++ sent.written⟩

inductive ReadPhase where
  | header : ReadPhase
  | payload : ReadPhase
  deriving DecidableEq, Repr

structure State where
  readMsgSize : Nat := 0
  readPhase : ReadPhase := .header
  deriving DecidableEq, Repr

/-- The reading end of a stream: the bytes that were written and not read yet, whether
the writer has closed it behind them, and how many bytes less one each `::recv` that
gives any gives at most. -/
structure Socket where
  unread : Bytes
  answers : List (Syscall Nat)
  closed : Bool := false

/-- `::recv` in `posixSyscallError`. No bytes are the end of the stream. -/
def recv (size : Nat) (k : Socket) : Except Errno Bytes × Socket :=
  match posixSyscallError k.answers with
  | (.error e, rest) => (.error e, { k with answers := rest })
  | (.ok n, rest) =>
    if k.unread.isEmpty then
      (if k.closed then .ok [] else .error .EAGAIN, { k with answers := rest })
    else
      (.ok (k.unread.take (min size (n + 1))),
        { k with unread := k.unread.drop (min size (n + 1)), answers := rest })

/-- What a call of `receiveMessage` returns, the payload it handed to the action, and the
size of the buffer that it took from the heap. -/
structure Received where
  code : Int32
  payload : Option Bytes := none
  heap : Option Nat := none
  state : State
  socket : Socket

def readAndAct (action : Bytes → Int32) (s : State) (k : Socket) (heap : Option Nat) :
    Received :=
  match recv s.readMsgSize k with
  | (.error e, k) => { code := if e = .EAGAIN then 0 else e.code, heap, state := s, socket := k }
  | (.ok buffer, k) =>
    if buffer.length ≠ s.readMsgSize then { code := EINVAL, heap, state := s, socket := k }
    else
      { code := action buffer, payload := some buffer, heap,
        state := { s with readPhase := .header }, socket := k }

def readPayload (action : Bytes → Int32) (s : State) (k : Socket) : Received :=
  if s.readMsgSize ≤ MsgSmallPayloadSize then readAndAct action s k none
  else readAndAct action s k (some s.readMsgSize)

def receiveMessage (action : Bytes → Int32) (s : State) (k : Socket) : Received :=
  match s.readPhase with
  | .payload => readPayload action s k
  | .header =>
    match recv 8 k with
    | (.error e, k) => { code := if e = .EAGAIN then 0 else e.code, state := s, socket := k }
    | (.ok buffer, k) =>
      let signature := readLE 4 buffer
      let size := readLE 4 (buffer.drop 4)
      if buffer.length = 0 then { code := -1, state := s, socket := k }
      else if buffer.length ≠ 8 ∨ signature ≠ MsgSignature ∨ size = 0 ∨ MsgMaxSize < size then
        { code := EINVAL, state := s, socket := k }
      else readPayload action { readMsgSize := size, readPhase := .payload } k

def frame (payloads : List Bytes) : Bytes :=
  msgHeader (totalSize payloads) ++ payloads.flatten

@[simp] theorem msgHeader_length (size : Nat) : (msgHeader size).length = 8 := by
  simp [msgHeader]

theorem readLE_signature (size : Nat) : readLE 4 (msgHeader size) = MsgSignature :=
  readLE_writeLE_of_lt 4 MsgSignature (writeLE 4 size) (by decide)

theorem readLE_size (size : Nat) (h : size < 2^32) : readLE 4 ((msgHeader size).drop 4) = size := by
  have hd : (msgHeader size).drop 4 = writeLE 4 size := by
    unfold msgHeader
    rw [List.drop_append_of_le_length (by simp), List.drop_of_length_le (by simp)]
    rfl
  rw [hd]
  simpa using readLE_writeLE_of_lt 4 size [] (by omega)

end SocketBase

end Ocvsmd.Ipc
