import Mathlib.Data.List.Basic
import Ocvsmd.MediaCollections
import Ocvsmd.SocketBase

/-!
CAN frames on a SocketCAN socket, and `CanMedia` over it. The kernel's answers are inputs,
that to a `write` one for each record; a frame is the bytes that are written to the socket or
that `recvmsg` gives.
-/

set_option autoImplicit false

namespace Ocvsmd.Engine.SocketCan

open Ipc (Bytes Errno Syscall writeLE readLE)

abbrev CanId := BitVec 32

def CAN_EFF_FLAG : CanId := 0x80000000#32
def CAN_RTR_FLAG : CanId := 0x40000000#32
def CAN_ERR_FLAG : CanId := 0x20000000#32
def CAN_INV_FILTER : CanId := 0x20000000#32
def CAN_EFF_MASK : CanId := 0x1FFFFFFF#32
def CAN_MAX_DLEN : Nat := 8
def CANFD_MAX_DLEN : Nat := 64
def CAN_MTU : Nat := 16
def CANFD_MTU : Nat := 72
def CANFD_BRS : UInt8 := 1
def CAN_RAW_FILTER_MAX : Nat := 512

def POLLIN : BitVec 16 := 1#16
def POLLOUT : BitVec 16 := 4#16

def EIO : Int := 5
def EINVAL : Int := 22
def EFBIG : Int := 27

/-- What does not fit into 16 bits is the least that does. -/
def getNegatedErrno (e : Errno) : Int := max (-(e.code.toInt.natAbs : Int)) (-2^15)

def doPoll (mask : BitVec 16) : Syscall (Option (BitVec 16)) → Int
  | .error e => getNegatedErrno e
  | .done none => 0
  | .done (some revents) => if revents &&& mask = 0 then - EIO else 1

/-- A payload that is not there is a null pointer. -/
structure CanardFrame where
  extendedCanId : CanId
  payload : Option Bytes
  deriving DecidableEq

/-- `struct canfd_frame`. A classic frame is the first 16 bytes of one. -/
structure CanfdFrame where
  canId : CanId
  len : UInt8
  flags : UInt8
  data : Bytes

namespace CanfdFrame

def bytes (f : CanfdFrame) : Bytes :=
  writeLE 4 f.canId.toNat ++ (writeLE 1 f.len.toNat ++
    (writeLE 1 f.flags.toNat ++ (writeLE 2 0 ++ f.data)))

def ofBytes (bytes : Bytes) : CanfdFrame where
  canId := BitVec.ofNat 32 (readLE 4 bytes)
  len := UInt8.ofNat (readLE 1 (bytes.drop 4))
  flags := UInt8.ofNat (readLE 1 (bytes.drop 5))
  data := bytes.drop 8 ++ List.replicate (CANFD_MTU - bytes.length) 0

end CanfdFrame

structure Pushed where
  code : Int
  written : Option Bytes := none
  deriving DecidableEq

/-- `none` is undefined behaviour: the payload is copied to where there is room for 64
bytes, and up to 255 are let through. -/
def socketcanPush (frame : Option CanardFrame) (poll : Syscall (Option (BitVec 16)))
    (write : Bytes → Syscall Unit) : Option Pushed :=
  match frame.bind fun f => f.payload.map fun payload => (f.extendedCanId, payload) with
  | none => some { code := -EINVAL }
  | some (extendedCanId, payload) =>
    if 255 < payload.length then some { code := -EINVAL }
    else
      let pollResult := doPoll POLLOUT poll
      if 0 < pollResult then
        if CANFD_MAX_DLEN < payload.length then none
        else
          let cfd : CanfdFrame :=
            { canId := extendedCanId ||| CAN_EFF_FLAG
              len := UInt8.ofNat payload.length
              flags := CANFD_BRS
              data := payload ++ List.replicate (CANFD_MAX_DLEN - payload.length) 0 }
          let mtu := if CAN_MAX_DLEN < payload.length then CANFD_MTU else CAN_MTU
          match write (cfd.bytes.take mtu) with
          | .error e => some { code := getNegatedErrno e }
          | .done _ => some { code := pollResult, written := some (cfd.bytes.take mtu) }
      else some { code := pollResult }

/-- The control message that comes with a frame: the time in seconds and microseconds, or
one that is not a time. -/
inductive Control where
  | absent : Control
  | timestamp : UInt64 → UInt64 → Control
  | other : Control
  deriving DecidableEq

/-- What `recvmsg` gives. A frame that the same socket has sent is confirmed. -/
structure Datagram where
  bytes : Bytes
  confirm : Bool := false
  control : Control := .absent

structure PopArgs where
  outFrame : Bool := true
  outTimestamp : Bool := false
  payloadBuffer : Option Nat
  loopback : Bool := false

structure Popped where
  code : Int
  frame : Option CanardFrame := none
  timestamp : Option UInt64 := none
  loopback : Option Bool := none
  deriving DecidableEq

def valid (canId : CanId) : Bool :=
  canId &&& CAN_EFF_FLAG ≠ 0 && canId &&& CAN_ERR_FLAG = 0 && canId &&& CAN_RTR_FLAG = 0

/-- The rest of `socketcanPop`, once there is a frame for the caller. More than 64 bytes
are not there to be copied. -/
def deliver (f : CanfdFrame) (pollResult : Int) (timestamp : Option UInt64)
    (loopback : Option Bool) : Option Popped :=
  if CANFD_MAX_DLEN < f.len.toNat then none
  else
    some { code := pollResult
           frame := some ⟨f.canId &&& CAN_EFF_MASK, some (f.data.take f.len.toNat)⟩
           timestamp, loopback }

/-- `none` is undefined behaviour. -/
def socketcanPop (args : PopArgs) (poll : Syscall (Option (BitVec 16)))
    (recvmsg : Syscall Datagram) : Option Popped :=
  match args.payloadBuffer with
  | none => some { code := -EINVAL }
  | some payloadBufferSize =>
    if !args.outFrame then some { code := -EINVAL }
    else
      let pollResult := doPoll POLLIN poll
      if 0 < pollResult then
        match recvmsg with
        | .error e => some { code := getNegatedErrno e }
        | .done d =>
          if d.bytes.length ≠ CAN_MTU ∧ d.bytes.length ≠ CANFD_MTU then some { code := - EIO }
          else
            let f := CanfdFrame.ofBytes d.bytes
            if payloadBufferSize < f.len.toNat then some { code := -EFBIG }
            else if !valid f.canId then some { code := 0 }
            else if !args.loopback && d.confirm then some { code := 0 }
            else
              let loopback := if args.loopback then some d.confirm else none
              if args.outTimestamp then
                match d.control with
                | .absent => none
                | .other => some { code := - EIO, loopback }
                | .timestamp sec usec =>
                  deliver f pollResult (some (sec * 1000000 + usec)) loopback
              else deliver f pollResult none loopback
      else some { code := pollResult }

structure Filter where
  id : CanId
  mask : CanId
  deriving DecidableEq

structure CanFilter where
  canId : CanId
  canMask : CanId

def canFilter (f : Filter) : CanFilter where
  canId := (f.id &&& CAN_EFF_MASK) ||| CAN_EFF_FLAG
  canMask := (f.mask &&& CAN_EFF_MASK) ||| CAN_EFF_FLAG ||| CAN_RTR_FLAG

/-- The return code, and what the kernel was given. -/
def socketcanFilter (configs : Option (List Filter)) (setsockopt : Syscall Unit) :
    Int × Option (List CanFilter) :=
  match configs with
  | none => (-EINVAL, none)
  | some configs =>
    if CAN_RAW_FILTER_MAX < configs.length then (-EFBIG, none)
    else
      match setsockopt with
      | .error e => (getNegatedErrno e, none)
      | .done _ => (0, some (configs.map canFilter))

/-- Raw sockets on a bus, without the option for CAN FD: what a `write` is answered, and
whether a socket with these filters is given a frame. Error frames have a filter of their
own. -/
structure RawSocket where
  write : Bytes → Syscall Unit
  write_classic : ∀ {bytes}, bytes.length = CAN_MTU → write bytes = .done ()
  write_fd : ∀ {bytes}, bytes.length = CANFD_MTU → ∃ e, write bytes = .error e
  gives : List CanFilter → CanId → Bool
  gives_iff : ∀ {filters canId}, (∀ f ∈ filters, f.canId &&& CAN_INV_FILTER = 0) →
    canId &&& CAN_ERR_FLAG = 0 →
      (gives filters canId = true ↔ ∃ f ∈ filters, canId &&& f.canMask = f.canId &&& f.canMask)

/-- `CanMedia::setFilters`. A vector that is empty has no storage. -/
def setFilters (filters : List Filter) (setsockopt : Syscall Unit) :
    Option Int × Option (List CanFilter) :=
  let result := socketcanFilter (if filters.isEmpty then none else some filters) setsockopt
  (if result.1 < 0 then some (-result.1) else none, result.2)

inductive PushResult where
  | failure : Int → PushResult
  | success : Bool → PushResult
  deriving DecidableEq

def push (canId : CanId) (payload : Option Bytes) (poll : Syscall (Option (BitVec 16)))
    (write : Bytes → Syscall Unit) : Option (PushResult × Option Bytes) :=
  (socketcanPush (some ⟨canId, payload⟩) poll write).map fun p =>
    (if p.code < 0 then .failure (-p.code) else .success (0 < p.code), p.written)

inductive PopResult where
  | failure : Int → PopResult
  | nothing : PopResult
  | metadata : CanId → Bytes → PopResult
  deriving DecidableEq

/-- `CanMedia::pop`. The frame may be one that was sent by the same medium. -/
def pop (payloadBufferSize : Nat) (poll : Syscall (Option (BitVec 16)))
    (recvmsg : Syscall Datagram) : Option PopResult :=
  (socketcanPop { payloadBuffer := some payloadBufferSize, loopback := true } poll recvmsg).map
    fun p =>
      if p.code < 0 then .failure (-p.code)
      else if p.code = 0 then .nothing
      else
        match p.frame with
        | some ⟨canId, some payload⟩ => .metadata canId payload
        | _ => .nothing

theorem eff_flag : CAN_EFF_FLAG = BitVec.twoPow 32 31 := by decide
theorem rtr_flag : CAN_RTR_FLAG = BitVec.twoPow 32 30 := by decide
theorem err_flag : CAN_ERR_FLAG = BitVec.twoPow 32 29 := by decide

theorem getLsbD_eff_mask (i : Nat) : CAN_EFF_MASK.getLsbD i = decide (i < 29) := by
  have hsmall : ∀ i : Fin 32, CAN_EFF_MASK.getLsbD i.val = decide (i.val < 29) := by decide
  by_cases hi : i < 32
  · exact hsmall ⟨i, hi⟩
  · rw [BitVec.getLsbD_of_ge _ _ (by omega)]
    simp
    omega

@[simp] theorem and_twoPow_eq_zero (x : CanId) {i : Nat} (hi : i < 32) :
    x &&& BitVec.twoPow 32 i = 0 ↔ x.getLsbD i = false := by
  rw [BitVec.and_twoPow]
  cases hx : x.getLsbD i with
  | false => simp
  | true =>
    have hne : BitVec.twoPow 32 i ≠ 0 := fun h => by
      have hbit := congrArg (BitVec.getLsbD · i) h
      simp [hi] at hbit
    simpa using hne

theorem valid_iff (canId : CanId) :
    valid canId = true ↔
      canId.getLsbD 31 = true ∧ canId.getLsbD 30 = false ∧ canId.getLsbD 29 = false := by
  have h31 := and_twoPow_eq_zero canId (i := 31) (by omega)
  have h30 := and_twoPow_eq_zero canId (i := 30) (by omega)
  have h29 := and_twoPow_eq_zero canId (i := 29) (by omega)
  simp only [valid, eff_flag, rtr_flag, err_flag, Bool.and_eq_true, decide_eq_true_eq, ne_eq,
    h31, h30, h29]
  simp
  tauto

def Filter.Accepts (f : Filter) (id : CanId) : Prop :=
  id &&& (f.mask &&& CAN_EFF_MASK) = f.id &&& (f.mask &&& CAN_EFF_MASK)

instance (f : Filter) (id : CanId) : Decidable (f.Accepts id) :=
  inferInstanceAs (Decidable (_ = _))

/-- Of what comes, the kernel keeps the extended frames that match, but for the remote
requests; error frames are left to the reader. -/
theorem admits_canFilter_iff (f : Filter) (canId : CanId) :
    canId &&& (canFilter f).canMask = (canFilter f).canId &&& (canFilter f).canMask ↔
      canId.getLsbD 31 = true ∧ canId.getLsbD 30 = false ∧ f.Accepts canId := by
  simp only [canFilter, Filter.Accepts, eff_flag, rtr_flag]
  constructor
  · intro h
    have hbit : ∀ i, (canId &&& (f.mask &&& CAN_EFF_MASK ||| BitVec.twoPow 32 31 |||
        BitVec.twoPow 32 30)).getLsbD i = _ := fun i => congrArg (BitVec.getLsbD · i) h
    refine ⟨?_, ?_, ?_⟩
    · have hb := hbit 31
      simp only [BitVec.getLsbD_and, BitVec.getLsbD_or, getLsbD_eff_mask,
        BitVec.getLsbD_twoPow] at hb
      simpa using hb
    · have hb := hbit 30
      simp only [BitVec.getLsbD_and, BitVec.getLsbD_or, getLsbD_eff_mask,
        BitVec.getLsbD_twoPow] at hb
      simpa using hb
    · refine BitVec.eq_of_getLsbD_eq fun i hi => ?_
      have hb := hbit i
      simp only [BitVec.getLsbD_and, BitVec.getLsbD_or, getLsbD_eff_mask,
        BitVec.getLsbD_twoPow] at hb ⊢
      by_cases hlow : i < 29
      · have h31 : i ≠ 31 := by omega
        have h30 : i ≠ 30 := by omega
        simpa [hlow, Ne.symm h31, Ne.symm h30] using hb
      · simp [hlow]
  · rintro ⟨h31, h30, hacc⟩
    refine BitVec.eq_of_getLsbD_eq fun i hi => ?_
    have hb := congrArg (BitVec.getLsbD · i) hacc
    simp only [BitVec.getLsbD_and, BitVec.getLsbD_or, getLsbD_eff_mask,
      BitVec.getLsbD_twoPow] at hb ⊢
    by_cases hlow : i < 29
    · have hne31 : i ≠ 31 := by omega
      have hne30 : i ≠ 30 := by omega
      simpa [hlow, Ne.symm hne31, Ne.symm hne30] using hb
    · rcases (by omega : i = 29 ∨ i = 30 ∨ i = 31) with rfl | rfl | rfl
      · simp
      · rw [h30]
        simp
      · rw [h31]
        simp

theorem CanfdFrame.take_bytes (f : CanfdFrame) {n : Nat} (hn : 8 ≤ n) :
    f.bytes.take n = writeLE 4 f.canId.toNat ++ (writeLE 1 f.len.toNat ++
      (writeLE 1 f.flags.toNat ++ (writeLE 2 0 ++ f.data.take (n - 8)))) := by
  have h4 : n - 4 - 1 - 1 - 2 = n - 8 := by omega
  simp only [bytes, List.take_append, Ipc.writeLE_length, h4]
  rw [List.take_of_length_le (by simp; omega), List.take_of_length_le (by simp; omega),
    List.take_of_length_le (by simp; omega), List.take_of_length_le (by simp; omega)]

theorem CanfdFrame.ofBytes_take (f : CanfdFrame) {n : Nat} (hn : 8 ≤ n) (hmax : n ≤ CANFD_MTU)
    (hdata : f.data.length = CANFD_MAX_DLEN) :
    ofBytes (f.bytes.take n) =
      { f with data := f.data.take (n - 8) ++ List.replicate (CANFD_MTU - n) 0 } := by
  have hdrop : ∀ (k v : Nat) (tail : Bytes), (writeLE k v ++ tail).drop k = tail :=
    fun k v tail => by rw [List.drop_append_of_le_length (by simp),
      List.drop_of_length_le (by simp), List.nil_append]
  have hread : ∀ (k v : Nat) (tail : Bytes), v < 256^k →
      readLE k (writeLE k v ++ tail) = v := Ipc.readLE_writeLE_of_lt
  have hlen : (f.bytes.take n).length = n := by
    rw [f.take_bytes hn]
    simp only [List.length_append, Ipc.writeLE_length, List.length_take, hdata]
    simp only [CANFD_MTU, CANFD_MAX_DLEN] at hmax ⊢
    omega
  have hid := hread 4 f.canId.toNat (writeLE 1 f.len.toNat ++ (writeLE 1 f.flags.toNat ++
    (writeLE 2 0 ++ f.data.take (n - 8)))) (by have := f.canId.isLt; omega)
  have hl := hread 1 f.len.toNat (writeLE 1 f.flags.toNat ++
    (writeLE 2 0 ++ f.data.take (n - 8))) (by have := f.len.toNat_lt; omega)
  have hf := hread 1 f.flags.toNat (writeLE 2 0 ++ f.data.take (n - 8))
    (by have := f.flags.toNat_lt; omega)
  have h5 : ∀ bs : Bytes, bs.drop 5 = (bs.drop 4).drop 1 := fun bs => by simp
  have h8 : ∀ bs : Bytes, bs.drop 8 = (((bs.drop 4).drop 1).drop 1).drop 2 := fun bs => by simp
  simp only [ofBytes, hlen]
  rw [f.take_bytes hn]
  simp only [h5, h8, hdrop, hid, hl, hf, BitVec.ofNat_toNat, BitVec.setWidth_eq,
    UInt8.ofNat_toNat]

def record (canId : CanId) (payload : Bytes) : Bytes :=
  let cfd : CanfdFrame :=
    { canId := canId ||| CAN_EFF_FLAG
      len := UInt8.ofNat payload.length
      flags := CANFD_BRS
      data := payload ++ List.replicate (CANFD_MAX_DLEN - payload.length) 0 }
  cfd.bytes.take (if CAN_MAX_DLEN < payload.length then CANFD_MTU else CAN_MTU)

theorem ofBytes_record (canId : CanId) {payload : Bytes}
    (hlen : payload.length ≤ CANFD_MAX_DLEN) :
    ∃ zeros, CanfdFrame.ofBytes (record canId payload) =
      { canId := canId ||| CAN_EFF_FLAG
        len := UInt8.ofNat payload.length
        flags := CANFD_BRS
        data := payload ++ zeros } := by
  have hdata : (payload ++ List.replicate (CANFD_MAX_DLEN - payload.length) (0 : UInt8)).length =
      CANFD_MAX_DLEN := by
    simp
    omega
  unfold record
  simp only
  split
  · rw [CanfdFrame.ofBytes_take _ (by decide) (by decide) hdata]
    refine ⟨List.replicate (CANFD_MAX_DLEN - payload.length) 0, ?_⟩
    simp only [CanfdFrame.mk.injEq, true_and]
    rw [List.take_of_length_le (by rw [hdata]; decide)]
    simp
  · next hsmall =>
    rw [CanfdFrame.ofBytes_take _ (by decide) (by decide) hdata]
    have hfit : payload.length ≤ CAN_MTU - 8 := by
      simp only [CAN_MAX_DLEN] at hsmall
      simp only [CAN_MTU]
      omega
    rw [List.take_append, List.take_of_length_le hfit, List.append_assoc]
    exact ⟨_, rfl⟩

theorem length_record (canId : CanId) {payload : Bytes}
    (hlen : payload.length ≤ CANFD_MAX_DLEN) :
    (record canId payload).length =
      if CAN_MAX_DLEN < payload.length then CANFD_MTU else CAN_MTU := by
  unfold record
  simp only [CanfdFrame.bytes, List.length_take, List.length_append, Ipc.writeLE_length,
    List.length_replicate]
  simp only [CANFD_MAX_DLEN, CAN_MTU, CANFD_MTU] at *
  split <;> omega

theorem getNegatedErrno_range (e : Errno) :
    -2^15 ≤ getNegatedErrno e ∧ getNegatedErrno e < 0 := by
  have hne : e.code.toInt ≠ 0 := fun h => e.nonzero (Int32.toInt_inj.mp h)
  unfold getNegatedErrno
  omega

theorem doPoll_ready {mask revents : BitVec 16} (h : revents &&& mask ≠ 0) :
    doPoll mask (.done (some revents)) = 1 := if_neg h

theorem socketcanPush_record (canId : CanId) {payload : Bytes}
    (hlen : payload.length ≤ CANFD_MAX_DLEN) {revents : BitVec 16}
    (hready : revents &&& POLLOUT ≠ 0) (write : Bytes → Syscall Unit) :
    socketcanPush (some ⟨canId, some payload⟩) (.done (some revents)) write =
      match write (record canId payload) with
      | .error e => some { code := getNegatedErrno e }
      | .done _ => some { code := 1, written := some (record canId payload) } := by
  have hsize : ¬ 255 < payload.length := by
    simp only [CANFD_MAX_DLEN] at hlen
    omega
  have hfits : ¬ CANFD_MAX_DLEN < payload.length := by omega
  simp [socketcanPush, doPoll_ready hready, hsize, hfits, record]

theorem pop_record (canId : CanId) {payload : Bytes} (hlen : payload.length ≤ CANFD_MAX_DLEN)
    {size : Nat} (hsize : payload.length ≤ size) {revents : BitVec 16}
    (hready : revents &&& POLLIN ≠ 0) (confirm : Bool) (control : Control) :
    pop size (.done (some revents)) (.done ⟨record canId payload, confirm, control⟩) =
      some (if valid (canId ||| CAN_EFF_FLAG) then
        .metadata ((canId ||| CAN_EFF_FLAG) &&& CAN_EFF_MASK) payload else .nothing) := by
  obtain ⟨zeros, hf⟩ := ofBytes_record canId hlen
  have hl : (UInt8.ofNat payload.length).toNat = payload.length := by
    rw [UInt8.toNat_ofNat']
    simp only [CANFD_MAX_DLEN] at hlen
    omega
  have hmtu : ¬((record canId payload).length ≠ CAN_MTU ∧
      (record canId payload).length ≠ CANFD_MTU) := by
    rw [length_record canId hlen]
    split <;> simp
  have hbig : ¬ size < payload.length := by omega
  have hcopy : ¬ CANFD_MAX_DLEN < payload.length := by omega
  simp only [pop, socketcanPop, doPoll_ready hready, hmtu, hf, hl, hbig, deliver, hcopy]
  cases valid (canId ||| CAN_EFF_FLAG) <;> simp

theorem accepts_push (f : Filter) (canId : CanId) :
    f.Accepts (canId ||| CAN_EFF_FLAG) ↔ f.Accepts canId := by
  have hmask : (canId ||| CAN_EFF_FLAG) &&& (f.mask &&& CAN_EFF_MASK) =
      canId &&& (f.mask &&& CAN_EFF_MASK) := by
    refine BitVec.eq_of_getLsbD_eq fun i hi => ?_
    simp only [BitVec.getLsbD_and, BitVec.getLsbD_or, getLsbD_eff_mask, eff_flag,
      BitVec.getLsbD_twoPow]
    by_cases hlow : i < 29
    · have h31 : 31 ≠ i := by omega
      simp [hlow, h31]
    · simp [hlow]
  rw [Filter.Accepts, hmask, Filter.Accepts]

theorem mask_push (canId : CanId) :
    (canId ||| CAN_EFF_FLAG) &&& CAN_EFF_MASK = canId &&& CAN_EFF_MASK := by
  rw [BitVec.and_or_distrib_right]
  have hflag : CAN_EFF_FLAG &&& CAN_EFF_MASK = 0#32 := by decide
  rw [hflag, BitVec.or_zero]

/-- What a medium with these filters is given of what is sent. -/
def Heard (filters : List Filter) (canId : CanId) : Prop :=
  canId.getLsbD 30 = false ∧ canId.getLsbD 29 = false ∧ ∃ f ∈ filters, f.Accepts canId

instance (filters : List Filter) (canId : CanId) : Decidable (Heard filters canId) :=
  inferInstanceAs (Decidable (_ ∧ _ ∧ _))

theorem getLsbD_push (canId : CanId) {i : Nat} (hi : i < 31) :
    (canId ||| CAN_EFF_FLAG).getLsbD i = canId.getLsbD i := by
  have hne : 31 ≠ i := by omega
  rw [BitVec.getLsbD_or, eff_flag, BitVec.getLsbD_twoPow]
  simp [hne]

theorem getLsbD_push_self (canId : CanId) : (canId ||| CAN_EFF_FLAG).getLsbD 31 = true := by
  rw [BitVec.getLsbD_or, eff_flag, BitVec.getLsbD_twoPow]
  simp

theorem canFilter_not_inverted (f : Filter) : (canFilter f).canId &&& CAN_INV_FILTER = 0 := by
  have hflag : CAN_INV_FILTER = BitVec.twoPow 32 29 := by decide
  rw [hflag, and_twoPow_eq_zero _ (by omega)]
  simp only [canFilter, eff_flag, BitVec.getLsbD_or, BitVec.getLsbD_and, getLsbD_eff_mask,
    BitVec.getLsbD_twoPow]
  simp

theorem heard_iff (k : RawSocket) (filters : List Filter) (canId : CanId) :
    Heard filters canId ↔ k.gives (filters.map canFilter) (canId ||| CAN_EFF_FLAG) = true ∧
      valid (canId ||| CAN_EFF_FLAG) = true := by
  have h30 := getLsbD_push canId (i := 30) (by omega)
  have h29 := getLsbD_push canId (i := 29) (by omega)
  have h31 := getLsbD_push_self canId
  have hstraight : ∀ f ∈ filters.map canFilter, f.canId &&& CAN_INV_FILTER = 0 := by
    intro f hf
    obtain ⟨g, -, rfl⟩ := List.mem_map.mp hf
    exact canFilter_not_inverted g
  have hgives : canId.getLsbD 29 = false →
      (k.gives (filters.map canFilter) (canId ||| CAN_EFF_FLAG) = true ↔
        ∃ f ∈ filters, canId.getLsbD 30 = false ∧ f.Accepts canId) := by
    intro herr
    have hdata : (canId ||| CAN_EFF_FLAG) &&& CAN_ERR_FLAG = 0 := by
      rw [err_flag, and_twoPow_eq_zero _ (by omega), h29, herr]
    rw [k.gives_iff hstraight hdata]
    simp only [List.mem_map, exists_exists_and_eq_and, admits_canFilter_iff, h30, h31,
      accepts_push, true_and]
  rw [valid_iff, h29, h30, h31, Heard]
  constructor
  · rintro ⟨hrtr, herr, f, hf, hacc⟩
    exact ⟨(hgives herr).mpr ⟨f, hf, hrtr, hacc⟩, rfl, hrtr, herr⟩
  · rintro ⟨hgiven, _, hrtr, herr⟩
    obtain ⟨f, hf, _, hacc⟩ := (hgives herr).mp hgiven
    exact ⟨hrtr, herr, f, hf, hacc⟩

def transmit (k : RawSocket) (frame : CanId × Bytes) : Option (PushResult × Option Bytes) :=
  push frame.1 (some frame.2) (.done (some POLLOUT)) k.write

def receive (payloadBufferSize : Nat) (record : Bytes) : Option PopResult :=
  pop payloadBufferSize (.done (some POLLIN)) (.done { bytes := record })

def PopResult.frame : PopResult → Option (CanId × Bytes)
  | .metadata canId payload => some (canId, payload)
  | _ => none

theorem transmit_classic (k : RawSocket) {frame : CanId × Bytes}
    (h : frame.2.length ≤ CAN_MAX_DLEN) :
    transmit k frame = some (.success true, some (record frame.1 frame.2)) := by
  have hready : POLLOUT &&& POLLOUT ≠ 0 := by decide
  have hmax : frame.2.length ≤ CANFD_MAX_DLEN := Nat.le_trans h (by decide)
  have hlen : (record frame.1 frame.2).length = CAN_MTU := by
    rw [length_record frame.1 hmax, if_neg (Nat.not_lt.mpr h)]
  simp [transmit, push, socketcanPush_record frame.1 hmax hready, k.write_classic hlen]

theorem transmit_fd (k : RawSocket) {frame : CanId × Bytes}
    (h : CAN_MAX_DLEN < frame.2.length) (hmax : frame.2.length ≤ CANFD_MAX_DLEN) :
    ∃ code, transmit k frame = some (.failure code, none) := by
  have hready : POLLOUT &&& POLLOUT ≠ 0 := by decide
  have hlen : (record frame.1 frame.2).length = CANFD_MTU := by
    rw [length_record frame.1 hmax, if_pos h]
  obtain ⟨e, he⟩ := k.write_fd hlen
  have hneg := (getNegatedErrno_range e).2
  refine ⟨-getNegatedErrno e, ?_⟩
  simp [transmit, push, socketcanPush_record frame.1 hmax hready, he, hneg]

/-- What becomes of one frame on its way. -/
theorem medium_hears_one (k : RawSocket) (filters : List Filter) {size : Nat}
    (hsize : CAN_MAX_DLEN ≤ size) {frame : CanId × Bytes}
    (hlen : frame.2.length ≤ CANFD_MAX_DLEN) :
    ∃ pushed results, transmit k frame = some pushed ∧
      (pushed.1 = .success true ↔ frame.2.length ≤ CAN_MAX_DLEN) ∧
      (pushed.2.toList.filter fun r =>
        k.gives (filters.map canFilter) (CanfdFrame.ofBytes r).canId).mapM (receive size) =
          some results ∧
      results.filterMap (·.frame) =
        if frame.2.length ≤ CAN_MAX_DLEN ∧ Heard filters frame.1 then
          [(frame.1 &&& CAN_EFF_MASK, frame.2)]
        else [] := by
  by_cases hclassic : frame.2.length ≤ CAN_MAX_DLEN
  · obtain ⟨zeros, hread⟩ := ofBytes_record frame.1 hlen
    have hheard := heard_iff k filters frame.1
    have hready : POLLIN &&& POLLIN ≠ 0 := by decide
    have hpop := pop_record frame.1 hlen (Nat.le_trans hclassic hsize) hready false .absent
    by_cases hgiven : k.gives (filters.map canFilter) (frame.1 ||| CAN_EFF_FLAG) = true
    · refine ⟨_, [if valid (frame.1 ||| CAN_EFF_FLAG) then
          .metadata ((frame.1 ||| CAN_EFF_FLAG) &&& CAN_EFF_MASK) frame.2 else .nothing],
        transmit_classic k hclassic, by simp [hclassic], ?_, ?_⟩
      · rw [Option.toList_some, List.filter_singleton, hread, hgiven, cond_true, List.mapM_cons,
          receive, hpop]
        rfl
      · by_cases hval : valid (frame.1 ||| CAN_EFF_FLAG) = true
        · rw [if_pos hval, if_pos ⟨hclassic, hheard.mpr ⟨hgiven, hval⟩⟩, mask_push]
          rfl
        · rw [if_neg hval, if_neg fun h => hval (hheard.mp h.2).2]
          rfl
    · refine ⟨_, [], transmit_classic k hclassic, by simp [hclassic], ?_, ?_⟩
      · rw [Option.toList_some, List.filter_singleton, hread, Bool.eq_false_of_not_eq_true hgiven,
          cond_false]
        rfl
      · rw [if_neg fun h => hgiven (hheard.mp h.2).1]
        rfl
  · obtain ⟨code, hcode⟩ := transmit_fd k (Nat.lt_of_not_le hclassic) hlen
    refine ⟨_, [], hcode, by simp [hclassic], rfl, ?_⟩
    rw [if_neg fun h => hclassic h.1]
    rfl

/-- A medium pops what was pushed on the bus and matches its filters, all of it, in order
and unaltered, and nothing else. A push of more than 8 bytes fails. -/
theorem medium_hears (k : RawSocket) (filters : List Filter) (hne : filters ≠ [])
    (hmax : filters.length ≤ CAN_RAW_FILTER_MAX) {size : Nat} (hsize : CAN_MAX_DLEN ≤ size)
    (frames : List (CanId × Bytes)) (hlen : ∀ f ∈ frames, f.2.length ≤ CANFD_MAX_DLEN) :
    ∃ kernel pushed results,
      setFilters filters (.done ()) = (none, some kernel) ∧
      frames.mapM (transmit k) = some pushed ∧
      (pushed.map fun p => decide (p.1 = .success true)) =
        frames.map (fun f => decide (f.2.length ≤ CAN_MAX_DLEN)) ∧
      ((pushed.filterMap (·.2)).filter fun r =>
        k.gives kernel (CanfdFrame.ofBytes r).canId).mapM (receive size) = some results ∧
      results.filterMap (·.frame) =
        (frames.filter fun f => f.2.length ≤ CAN_MAX_DLEN ∧ Heard filters f.1).map
          fun f => (f.1 &&& CAN_EFF_MASK, f.2) := by
  have hset : setFilters filters (.done ()) = (none, some (filters.map canFilter)) := by
    have hempty : filters.isEmpty = false := by simpa using hne
    have hfew : ¬ CAN_RAW_FILTER_MAX < filters.length := by omega
    simp [setFilters, socketcanFilter, hempty, hfew]
  induction frames with
  | nil => exact ⟨_, [], [], hset, rfl, rfl, rfl, rfl⟩
  | cons frame frames ih =>
    obtain ⟨kernel, pushed, results, hk, hpushed, hsent, hresults, heq⟩ :=
      ih fun f hf => hlen f (List.mem_cons_of_mem _ hf)
    rw [hset] at hk
    cases hk
    obtain ⟨p, rs, hp, hclassic, hrs, hheard⟩ :=
      medium_hears_one k filters hsize (hlen frame List.mem_cons_self)
    refine ⟨_, p :: pushed, rs ++ results, hset, ?_, ?_, ?_, ?_⟩
    · rw [List.mapM_cons, hp, hpushed]
      rfl
    · rw [List.map_cons, List.map_cons, hsent]
      exact congrArg (· :: _) (decide_eq_decide.mpr hclassic)
    · have hcons : (p :: pushed).filterMap (·.2) = p.2.toList ++ pushed.filterMap (·.2) := by
        rw [List.filterMap_cons]
        cases p.2 <;> rfl
      rw [hcons, List.filter_append, List.mapM_append, hrs, hresults]
      rfl
    · rw [List.filterMap_append, hheard, heq, List.filter_cons]
      by_cases hh : frame.2.length ≤ CAN_MAX_DLEN ∧ Heard filters frame.1
      · rw [if_pos hh, if_pos (decide_eq_true hh)]
        rfl
      · rw [if_neg hh, if_neg (by simpa using hh)]
        rfl

def linuxRawSocket : RawSocket where
  write := fun bytes => if bytes.length = CAN_MTU then .done () else .error ⟨22, by decide⟩
  write_classic := fun h => if_pos h
  write_fd := fun h => ⟨⟨22, by decide⟩, if_neg (by rw [h]; decide)⟩
  gives := fun filters canId => canId &&& CAN_ERR_FLAG = 0 &&
    filters.any fun f => canId &&& f.canMask = f.canId &&& f.canMask
  gives_iff := fun _ hdata => by simp [hdata]

/-- The second frame does not match, and the third one is too long. -/
theorem medium_hears_sample :
    ∃ kernel pushed results,
      setFilters [⟨0x100#32, 0xF00#32⟩] (.done ()) = (none, some kernel) ∧
      [(0x123#32, [1, 2]), (0x223#32, [3]), (0x124#32, List.replicate 9 0),
        (0x125#32, [4])].mapM (transmit linuxRawSocket) = some pushed ∧
      (pushed.map fun p => decide (p.1 = .success true)) = [true, true, false, true] ∧
      ((pushed.filterMap (·.2)).filter fun r =>
        linuxRawSocket.gives kernel (CanfdFrame.ofBytes r).canId).mapM (receive 64) =
          some results ∧
      results.filterMap (·.frame) = [(0x123#32, [1, 2]), (0x125#32, [4])] :=
  medium_hears linuxRawSocket [⟨0x100#32, 0xF00#32⟩] (by decide) (by decide) (by decide)
    [(0x123#32, [1, 2]), (0x223#32, [3]), (0x124#32, List.replicate 9 0), (0x125#32, [4])]
    (by decide)

end Ocvsmd.Engine.SocketCan
