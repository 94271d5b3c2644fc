import Mathlib.Data.List.Basic
import Mathlib.Tactic.Ring

/-!
The routing envelope: the messages of `Route.0.1.dsdl` and their wire form.

The code that serializes them is generated from the DSDL files, so the routers
below take it as a `RouteCodec`. `cyphalCodec` is the codec that the Cyphal rules
prescribe for these four definitions.
-/

set_option autoImplicit false

namespace Ocvsmd.Ipc

abbrev Bytes := List UInt8

namespace ErrorCode

def success : Int32 := 0
def notConnected : Int32 := 107
def disconnected : Int32 := 104
def shutdown : Int32 := 108

end ErrorCode

def EINVAL : Int32 := 22

structure Version where
  major : UInt8
  minor : UInt8
  deriving DecidableEq, Repr

def currentVersion : Version := ⟨0, 1⟩

structure RouteConnect where
  version : Version
  errorCode : Int32
  deriving DecidableEq, Repr

structure RouteChannelMsg where
  tag : UInt64
  sequence : UInt64
  serviceId : UInt64
  payloadSize : UInt64
  deriving DecidableEq, Repr

structure RouteChannelEnd where
  tag : UInt64
  errorCode : Int32
  deriving DecidableEq, Repr

inductive Route where
  | empty : Route
  | connect : RouteConnect → Route
  | channelMsg : RouteChannelMsg → Route
  | channelEnd : RouteChannelEnd → Route
  deriving DecidableEq, Repr

/-- The generated `serialize` and `deserialize` of `Route_0_1`. The buffer is a
fixed array, so a serialized route is small, and a reader ignores what follows it. -/
structure RouteCodec where
  serialize : Route → Bytes
  deserialize : Bytes → Option Route
  serialize_length : ∀ r, (serialize r).length < 2^64
  deserialize_serialize : ∀ r tail, deserialize (serialize r ++ tail) = some r

@[simp] theorem RouteCodec.deserialize_alone (κ : RouteCodec) (r : Route) :
    κ.deserialize (κ.serialize r) = some r := by
  have h := κ.deserialize_serialize r []
  rwa [List.append_nil] at h

def writeLE : Nat → Nat → Bytes
  | 0, _ => []
  | n+1, v => UInt8.ofNat v :: writeLE n (v / 256)

/-- Missing bytes read as zero. -/
def readLE : Nat → Bytes → Nat
  | 0, _ => 0
  | _, [] => 0
  | n+1, b :: bs => b.toNat + 256 * readLE n bs

@[simp] theorem writeLE_length (n v : Nat) : (writeLE n v).length = n := by
  induction n generalizing v with
  | zero => rfl
  | succ n ih => simp [writeLE, ih]

theorem readLE_writeLE (n v : Nat) (tail : Bytes) :
    readLE n (writeLE n v ++ tail) = v % 256^n := by
  induction n generalizing v with
  | zero => simp [readLE, Nat.mod_one]
  | succ n ih =>
    simp only [writeLE, List.cons_append, readLE, ih, UInt8.toNat_ofNat']
    rw [show 256^(n+1) = 256 * 256^n from Nat.pow_succ', Nat.mod_mul]

theorem readLE_writeLE_of_lt (n v : Nat) (tail : Bytes) (h : v < 256^n) :
    readLE n (writeLE n v ++ tail) = v := by
  rw [readLE_writeLE, Nat.mod_eq_of_lt h]

def delimited (body : Bytes) : Bytes := writeLE 4 body.length ++ body

/-- `none` when the header announces more bytes than there are. -/
def readDelimited (bs : Bytes) : Option Bytes :=
  let size := readLE 4 bs
  let rest := bs.drop 4
  if size ≤ rest.length then some (rest.take size) else none

theorem readDelimited_delimited (body tail : Bytes) (h : body.length < 2^32) :
    readDelimited (delimited body ++ tail) = some body := by
  have hs : readLE 4 (delimited body ++ tail) = body.length := by
    simp only [delimited, List.append_assoc]
    exact readLE_writeLE_of_lt 4 _ _ (by omega)
  have hd : (delimited body ++ tail).drop 4 = body ++ tail := by
    simp only [delimited, List.append_assoc]
    rw [List.drop_append_of_le_length (by simp), List.drop_of_length_le (by simp)]
    rfl
  simp [readDelimited, hs, hd]

def RouteConnect.body (c : RouteConnect) : Bytes :=
  [c.version.major, c.version.minor] ++ writeLE 4 c.errorCode.toUInt32.toNat

def RouteConnect.read (bs : Bytes) : RouteConnect :=
  ⟨⟨UInt8.ofNat (readLE 1 bs), UInt8.ofNat (readLE 1 (bs.drop 1))⟩,
   (UInt32.ofNat (readLE 4 (bs.drop 2))).toInt32⟩

def RouteChannelMsg.body (m : RouteChannelMsg) : Bytes :=
  writeLE 8 m.tag.toNat ++ (writeLE 8 m.sequence.toNat ++
    (writeLE 8 m.serviceId.toNat ++ writeLE 8 m.payloadSize.toNat))

def RouteChannelMsg.read (bs : Bytes) : RouteChannelMsg :=
  ⟨UInt64.ofNat (readLE 8 bs), UInt64.ofNat (readLE 8 (bs.drop 8)),
   UInt64.ofNat (readLE 8 (bs.drop 16)), UInt64.ofNat (readLE 8 (bs.drop 24))⟩

def RouteChannelEnd.body (e : RouteChannelEnd) : Bytes :=
  writeLE 8 e.tag.toNat ++ writeLE 4 e.errorCode.toUInt32.toNat

def RouteChannelEnd.read (bs : Bytes) : RouteChannelEnd :=
  ⟨UInt64.ofNat (readLE 8 bs), (UInt32.ofNat (readLE 4 (bs.drop 8))).toInt32⟩

def Route.serialize : Route → Bytes
  | .empty => [0]
  | .connect c => 1 :: delimited c.body
  | .channelMsg m => 2 :: delimited m.body
  | .channelEnd e => 3 :: delimited e.body

def Route.deserialize (bs : Bytes) : Option Route :=
  match readLE 1 bs with
  | 0 => some .empty
  | 1 => (readDelimited (bs.drop 1)).map fun b => .connect (.read b)
  | 2 => (readDelimited (bs.drop 1)).map fun b => .channelMsg (.read b)
  | 3 => (readDelimited (bs.drop 1)).map fun b => .channelEnd (.read b)
  | _ => none

theorem RouteConnect.read_body (c : RouteConnect) : RouteConnect.read c.body = c := by
  obtain ⟨⟨major, minor⟩, code⟩ := c
  have h := readLE_writeLE_of_lt 4 code.toUInt32.toNat [] (by
    have := code.toUInt32.toNat_lt; omega)
  simp only [List.append_nil] at h
  simp [read, body, readLE, h]

theorem RouteChannelMsg.read_body (m : RouteChannelMsg) : RouteChannelMsg.read m.body = m := by
  obtain ⟨tag, seq, svc, size⟩ := m
  have h (v : UInt64) (tail : Bytes) : readLE 8 (writeLE 8 v.toNat ++ tail) = v.toNat :=
    readLE_writeLE_of_lt 8 _ _ (by have := v.toNat_lt; omega)
  have hd (v : Nat) (tail : Bytes) : (writeLE 8 v ++ tail).drop 8 = tail := by
    rw [List.drop_append_of_le_length (by simp), List.drop_of_length_le (by simp)]
    rfl
  have hlast : readLE 8 (writeLE 8 size.toNat) = size.toNat := by simpa using h size []
  have h16 (bs : Bytes) : bs.drop 16 = (bs.drop 8).drop 8 := by simp
  have h24 (bs : Bytes) : bs.drop 24 = ((bs.drop 8).drop 8).drop 8 := by simp
  simp only [read, body, h16, h24, hd, h, hlast, UInt64.ofNat_toNat]

theorem RouteChannelEnd.read_body (e : RouteChannelEnd) : RouteChannelEnd.read e.body = e := by
  obtain ⟨tag, code⟩ := e
  have h8 := readLE_writeLE_of_lt 8 tag.toNat (writeLE 4 code.toUInt32.toNat) (by
    have := tag.toNat_lt; omega)
  have h4 := readLE_writeLE_of_lt 4 code.toUInt32.toNat [] (by
    have := code.toUInt32.toNat_lt; omega)
  simp only [List.append_nil] at h4
  have hd : (writeLE 8 tag.toNat ++ writeLE 4 code.toUInt32.toNat).drop 8 =
      writeLE 4 code.toUInt32.toNat := by
    rw [List.drop_append_of_le_length (by simp), List.drop_of_length_le (by simp)]
    rfl
  simp [read, body, h8, hd, h4]

theorem Route.deserialize_serialize (r : Route) (tail : Bytes) :
    Route.deserialize (r.serialize ++ tail) = some r := by
  cases r with
  | empty => simp [Route.serialize, Route.deserialize, readLE]
  | connect c =>
    have h := readDelimited_delimited c.body tail (by simp [RouteConnect.body])
    simp [Route.serialize, Route.deserialize, readLE, h, c.read_body]
  | channelMsg m =>
    have h := readDelimited_delimited m.body tail (by simp [RouteChannelMsg.body])
    simp [Route.serialize, Route.deserialize, readLE, h, m.read_body]
  | channelEnd e =>
    have h := readDelimited_delimited e.body tail (by simp [RouteChannelEnd.body])
    simp [Route.serialize, Route.deserialize, readLE, h, e.read_body]

theorem Route.serialize_length_lt (r : Route) : r.serialize.length < 2^64 := by
  cases r <;> simp [Route.serialize, delimited, RouteConnect.body, RouteChannelMsg.body,
    RouteChannelEnd.body]

def cyphalCodec : RouteCodec where
  serialize := Route.serialize
  deserialize := Route.deserialize
  serialize_length := Route.serialize_length_lt
  deserialize_serialize := Route.deserialize_serialize

/-- `payload.subspan(offset)`; an offset past the end is undefined behaviour. -/
def subspan (payload : Bytes) (offset : UInt64) : Option Bytes :=
  if offset.toNat ≤ payload.length then some (payload.drop offset.toNat) else none

def cutOffset (payload : Bytes) (m : RouteChannelMsg) : UInt64 :=
  UInt64.ofNat payload.length - m.payloadSize

/-- Cut routing stuff from the payload: the rest is the real message payload. -/
def msgRealPayload (payload : Bytes) (m : RouteChannelMsg) : Option Bytes :=
  subspan payload (cutOffset payload m)

theorem msgRealPayload_append (head payload : Bytes) (m : RouteChannelMsg)
    (hlen : head.length < 2^64) (hsize : m.payloadSize = UInt64.ofNat payload.length) :
    msgRealPayload (head ++ payload) m = some payload := by
  have hoff : cutOffset (head ++ payload) m = UInt64.ofNat head.length := by
    simp only [cutOffset, hsize, List.length_append, UInt64.ofNat_add]
    exact UInt64.add_sub_cancel _ _
  have hnat : (UInt64.ofNat head.length).toNat = head.length := by
    rw [UInt64.toNat_ofNat']
    exact Nat.mod_eq_of_lt hlen
  simp [msgRealPayload, subspan, hoff, hnat]

def isConnect (κ : RouteCodec) (message : Bytes) : Bool :=
  match κ.deserialize message with
  | some (.connect _) => true
  | _ => false

def isOfChannel (κ : RouteCodec) (message : Bytes) : Bool :=
  match κ.deserialize message with
  | some (.channelMsg _) => true
  | some (.channelEnd _) => true
  | _ => false

theorem isConnect_connect (κ : RouteCodec) (c : RouteConnect) :
    isConnect κ (κ.serialize (.connect c)) = true := by
  simp [isConnect]

theorem isOfChannel_msg (κ : RouteCodec) (m : RouteChannelMsg) (payload : Bytes) :
    isOfChannel κ (κ.serialize (.channelMsg m) ++ payload) = true := by
  simp [isOfChannel, κ.deserialize_serialize]

theorem isOfChannel_end (κ : RouteCodec) (e : RouteChannelEnd) :
    isOfChannel κ (κ.serialize (.channelEnd e)) = true := by
  simp [isOfChannel]

theorem isConnect_of_isOfChannel {κ : RouteCodec} {message : Bytes}
    (h : isOfChannel κ message = true) : isConnect κ message = false := by
  unfold isOfChannel at h
  unfold isConnect
  cases hd : κ.deserialize message with
  | none => rfl
  | some route => cases route <;> simp_all

end Ocvsmd.Ipc
