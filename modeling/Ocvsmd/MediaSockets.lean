import Ocvsmd.EngineInit
import Ocvsmd.PipeDescriptors
import Ocvsmd.SocketCan

set_option autoImplicit false

namespace Ocvsmd.Engine

open CString (cstr)
open Holdings (Balanced)
open Io (Kernel OwnFd WatchedFd Inet)
open Ipc (Bytes Errno Syscall)
open SocketCan (getNegatedErrno getNegatedErrno_range EINVAL)

/-- A descriptor is an `int`. `none` is an answer that the kernel cannot give. -/
def openSocket (fd : Nat) (k : Kernel) : Option Kernel :=
  if fd < 2^31 then k.acquire fd else none

/-- The error of the first call that fails. No call is made after it. -/
def firstError (calls : List (Syscall Unit)) : Option Errno :=
  calls.findSome? fun call =>
    match call with
    | .error e => some e
    | .done _ => none

/-- A socket that is not set up is closed. To close what was not opened does nothing. -/
def setUpSocket (socket : Syscall Nat) (calls : List (Syscall Unit)) (k : Kernel) :
    Option (Except Errno Nat × Kernel) :=
  match socket with
  | .error e => some (.error e, k)
  | .done fd =>
    (openSocket fd k).map fun k =>
      match firstError calls with
      | some e => (.error e, k.release fd)
      | none => (.ok fd, k)

theorem setUpSocket_spec {socket : Syscall Nat} {calls : List (Syscall Unit)} {k k' : Kernel}
    {result : Except Errno Nat} {held : List (Nat × Bool)} (h : Balanced k held)
    (hs : setUpSocket socket calls k = some (result, k')) :
    (∃ e, result = .error e ∧ Balanced k' held) ∨
    ∃ fd : Nat, result = .ok fd ∧ fd < 2^31 ∧ Balanced k' ((fd, false) :: held) := by
  unfold setUpSocket at hs
  split at hs
  · next e =>
    cases hs
    exact Or.inl ⟨e, rfl, h⟩
  · next fd =>
    obtain ⟨k1, hk, hs⟩ := Option.map_eq_some_iff.mp hs
    obtain ⟨hfd, hk⟩ := Option.ite_none_right_eq_some.mp hk
    have hopen := h.acquire hk
    split at hs
    · next e _ =>
      cases hs
      exact Or.inl ⟨e, rfl, hopen.release⟩
    · cases hs
      exact Or.inr ⟨fd, rfl, hfd, hopen⟩

def EBADF : Errno := ⟨9, by decide⟩
def ENAMETOOLONG : Int := 36
def IFNAMSIZ : Nat := 16

structure CanOpenAnswers where
  socket : Syscall Nat
  ioctl : Syscall Unit := .done ()
  bind : Syscall Unit := .done ()
  canFdFrames : Syscall Unit := .done ()
  timestamp : Syscall Unit := .done ()
  recvOwnMsgs : Syscall Unit := .done ()

namespace CanOpenAnswers

def calls (a : CanOpenAnswers) (canFd : Bool) : List (Syscall Unit) :=
  a.ioctl :: a.bind :: ((if canFd then [a.canFdFrames] else []) ++ [a.timestamp, a.recvOwnMsgs])

/-- `errno` is looked at after `close`, which fails as well if there is no socket. -/
def errno (a : CanOpenAnswers) (e : Errno) : Errno :=
  match a.socket with
  | .error _ => EBADF
  | .done _ => e

end CanOpenAnswers

def socketcanOpen (ifaceName : Bytes) (canFd : Bool) (a : CanOpenAnswers) (k : Kernel) :
    Option (Int × Kernel) :=
  if IFNAMSIZ < (cstr ifaceName).length + 1 then some (-ENAMETOOLONG, k)
  else
    (setUpSocket a.socket (a.calls canFd) k).map fun made =>
      match made.1 with
      | .ok fd => (fd, made.2)
      | .error e => (getNegatedErrno (a.errno e), made.2)

/-- A descriptor, or a negative number that says why there is none. -/
theorem socketcanOpen_spec {ifaceName : Bytes} {canFd : Bool} {a : CanOpenAnswers}
    {k k' : Kernel} {result : Int} {held : List (Nat × Bool)} (h : Balanced k held)
    (hs : socketcanOpen ifaceName canFd a k = some (result, k')) :
    (-2^15 ≤ result ∧ result < 0 ∧ Balanced k' held) ∨
    ∃ fd : Nat, result = fd ∧ fd < 2^31 ∧ Balanced k' ((fd, false) :: held) := by
  unfold socketcanOpen at hs
  split at hs
  · cases hs
    exact Or.inl ⟨by decide, by decide, h⟩
  · obtain ⟨⟨made, k1⟩, hmade, hs⟩ := Option.map_eq_some_iff.mp hs
    rcases setUpSocket_spec h hmade with ⟨e, rfl, hb⟩ | ⟨fd, rfl, hfd, hb⟩
    · cases hs
      obtain ⟨hlow, hneg⟩ := getNegatedErrno_range (a.errno e)
      exact Or.inl ⟨hlow, hneg, hb⟩
    · cases hs
      exact Or.inr ⟨fd, rfl, hfd, hb⟩

/-- What `socketcanOpen` returns does not depend on what else is open. -/
def CanOpenAnswers.result (a : CanOpenAnswers) (ifaceName : Bytes) : Int :=
  if IFNAMSIZ < (cstr ifaceName).length + 1 then -ENAMETOOLONG
  else
    match a.socket, firstError (a.calls false) with
    | .error _, _ => getNegatedErrno EBADF
    | .done fd, none => fd
    | .done _, some e => getNegatedErrno e

theorem socketcanOpen_result {ifaceName : Bytes} {a : CanOpenAnswers} {k k' : Kernel}
    {result : Int} (hs : socketcanOpen ifaceName false a k = some (result, k')) :
    result = a.result ifaceName := by
  unfold socketcanOpen at hs
  unfold CanOpenAnswers.result
  split at hs
  · next hlong =>
    cases hs
    rw [if_pos hlong]
  · next hlong =>
    obtain ⟨⟨made, k1⟩, hmade, hs⟩ := Option.map_eq_some_iff.mp hs
    rw [if_neg hlong]
    unfold setUpSocket at hmade
    cases hsocket : a.socket with
    | error e =>
      rw [hsocket] at hmade
      cases hmade
      cases hs
      simp only [CanOpenAnswers.errno, hsocket]
    | done fd =>
      rw [hsocket] at hmade
      obtain ⟨k2, -, hmade⟩ := Option.map_eq_some_iff.mp hmade
      cases hfirst : firstError (a.calls false) with
      | none =>
        rw [hfirst] at hmade
        cases hmade
        cases hs
        rfl
      | some e =>
        rw [hfirst] at hmade
        cases hmade
        cases hs
        simp only [CanOpenAnswers.errno, hsocket]

theorem socketcanOpen_neg_iff {ifaceName : Bytes} {canFd : Bool} {a : CanOpenAnswers}
    {k k' : Kernel} {result : Int} {held : List (Nat × Bool)} (h : Balanced k held)
    (hs : socketcanOpen ifaceName canFd a k = some (result, k')) :
    Int32.ofInt result < 0 ↔ result < 0 := by
  have hrange : -2^31 ≤ result ∧ result < 2^31 := by
    rcases socketcanOpen_spec h hs with ⟨hlow, hneg, -⟩ | ⟨fd, rfl, hfd, -⟩ <;> omega
  rw [Int32.lt_iff_toInt_lt, Int32.toInt_ofInt_of_le hrange.1 hrange.2]
  rfl

def CanMedia.sockets (m : CanMedia) : List WatchedFd :=
  [{ fd := ⟨m.socketCanRxFd.toInt⟩ }, { fd := ⟨m.socketCanTxFd.toInt⟩ }]

def CanMedia.destroy (m : CanMedia) (k : Kernel) : Kernel :=
  OwnFd.destroy ⟨m.socketCanTxFd.toInt⟩ (OwnFd.destroy ⟨m.socketCanRxFd.toInt⟩ k)

def CanMedia.move (other : CanMedia) : CanMedia × CanMedia :=
  (other, { other with socketCanRxFd := -1, socketCanTxFd := -1 })

theorem CanMedia.move_fst (m : CanMedia) : m.move.1 = m := rfl

theorem CanMedia.destroy_moved (m : CanMedia) (k : Kernel) : m.move.2.destroy k = k := by
  have hempty : (⟨(-1 : Int32).toInt⟩ : OwnFd) = {} := by decide
  simp only [CanMedia.move, CanMedia.destroy, hempty, OwnFd.destroy_empty]

/-- `CanMedia::make`. The first socket is closed if there is no second one; what is returned
was moved. -/
def CanMedia.makeOn (ifaceAddress : Bytes) (a : CanOpenAnswers × CanOpenAnswers) (k : Kernel) :
    Option (Except Int32 CanMedia × Kernel) :=
  (socketcanOpen ifaceAddress false a.1 k).bind fun rx =>
    if rx.1 < 0 then some (.error (-Int32.ofInt rx.1), rx.2)
    else
      (socketcanOpen ifaceAddress false a.2 rx.2).map fun tx =>
        if tx.1 < 0 then (.error (-Int32.ofInt tx.1), tx.2.release rx.1.toNat)
        else
          let media := CanMedia.move ⟨ifaceAddress, Int32.ofInt rx.1, Int32.ofInt tx.1⟩
          (.ok media.1, media.2.destroy tx.2)

def openingOf (a : CanOpenAnswers × CanOpenAnswers) (ifaceAddress : Bytes) : Opening :=
  (Int32.ofInt (a.1.result ifaceAddress), Int32.ofInt (a.2.result ifaceAddress))

def held (sockets : List WatchedFd) : List (Nat × Bool) := sockets.flatMap WatchedFd.holdings

theorem held_append (ws vs : List WatchedFd) : held (ws ++ vs) = held ws ++ held vs :=
  List.flatMap_append

theorem held_sockets {ifaceAddress : Bytes} {rx tx : Nat} (hrx : rx < 2^31) (htx : tx < 2^31) :
    held (CanMedia.sockets ⟨ifaceAddress, Int32.ofInt rx, Int32.ofInt tx⟩) =
      [(rx, false), (tx, false)] := by
  have hr : (Int32.ofInt rx).toInt = rx := Int32.toInt_ofInt_of_le (by omega) (by omega)
  have ht : (Int32.ofInt tx).toInt = tx := Int32.toInt_ofInt_of_le (by omega) (by omega)
  simp [held, CanMedia.sockets, WatchedFd.holdings, hr, ht]

theorem CanMedia.makeOn_spec {ifaceAddress : Bytes} {a : CanOpenAnswers × CanOpenAnswers}
    {k k' : Kernel} {result : Except Int32 CanMedia} {rest : List (Nat × Bool)}
    (h : Balanced k rest) (hs : CanMedia.makeOn ifaceAddress a k = some (result, k')) :
    result = CanMedia.make ifaceAddress (openingOf a ifaceAddress) ∧
    Balanced k' (held (result.toOption.toList.flatMap CanMedia.sockets) ++ rest) := by
  obtain ⟨⟨rx, k1⟩, hrx, hs⟩ := Option.bind_eq_some_iff.mp hs
  have hfirst : (openingOf a ifaceAddress).1 = Int32.ofInt rx := by
    rw [socketcanOpen_result hrx]
    rfl
  have hrxNeg := socketcanOpen_neg_iff h hrx
  rw [← hfirst] at hrxNeg
  rcases socketcanOpen_spec h hrx with ⟨-, hneg, hb⟩ | ⟨fd, rfl, hfd, hb⟩
  · simp only [if_pos hneg] at hs
    cases hs
    rw [CanMedia.make, if_pos (hrxNeg.mpr hneg), hfirst]
    exact ⟨rfl, hb⟩
  · have hopen : ¬ (fd : Int) < 0 := by omega
    simp only [if_neg hopen] at hs
    obtain ⟨⟨tx, k2⟩, htx, hs⟩ := Option.map_eq_some_iff.mp hs
    have hsecond : (openingOf a ifaceAddress).2 = Int32.ofInt tx := by
      rw [socketcanOpen_result htx]
      rfl
    have htxNeg := socketcanOpen_neg_iff hb htx
    rw [← hsecond] at htxNeg
    rw [CanMedia.make, if_neg (mt hrxNeg.mp hopen)]
    rcases socketcanOpen_spec hb htx with ⟨-, hneg, hb'⟩ | ⟨fd', rfl, hfd', hb'⟩
    · simp only [if_pos hneg] at hs
      cases hs
      rw [if_pos (htxNeg.mpr hneg), hsecond]
      exact ⟨rfl, hb'.release⟩
    · have hopen' : ¬ (fd' : Int) < 0 := by omega
      simp only [if_neg hopen', CanMedia.move_fst, CanMedia.destroy_moved] at hs
      cases hs
      rw [if_neg (mt htxNeg.mp hopen'), hfirst, hsecond]
      refine ⟨rfl, ?_⟩
      simp only [Except.toOption, Option.toList, List.flatMap_cons, List.flatMap_nil,
        List.append_nil, held_sockets hfd hfd']
      exact hb'.perm (List.Perm.swap _ _ _)

namespace CanMediaCollection

def sockets (c : CanMediaCollection) : List WatchedFd :=
  c.mediaArray.toList.flatMap fun media => media.toList.flatMap CanMedia.sockets

/-- A medium is moved into its place, and what is left of it is destroyed. -/
def destroyMade (made : Except Int32 CanMedia × Kernel) : Kernel :=
  match made.1 with
  | .ok media => media.move.2.destroy made.2
  | .error _ => made.2

theorem destroyMade_eq (made : Except Int32 CanMedia × Kernel) : destroyMade made = made.2 := by
  unfold destroyMade
  split
  · exact CanMedia.destroy_moved _ _
  · rfl

/-- `none` once the kernel has given an answer that it cannot give. -/
def placeOn (answers : Nat → CanOpenAnswers × CanOpenAnswers) (ifaceAddress : Bytes)
    (st : Parsing × Option Kernel) : Parsing × Option Kernel :=
  (place (fun n => openingOf (answers n)) ifaceAddress st.1,
    st.2.bind fun k => (CanMedia.makeOn ifaceAddress (answers st.1.opened) k).map destroyMade)

/-- The collection was reset, so that there is nothing to be closed before. -/
def parseOn (answers : Nat → CanOpenAnswers × CanOpenAnswers) (fuel : Nat)
    (ifaceAddresses : Bytes) (k : Kernel) : Option (CanMediaCollection × Kernel) :=
  (StringView.splitLoop comma (fun st => st.1.index < MaxMedia) (placeOn answers) fuel
    ifaceAddresses 0 ({}, some k)).bind fun st => st.2.map fun k => (st.1.collection, k)

end CanMediaCollection

theorem flatMap_set_perm {A B : Type} {f : A → List B} {l : List A} {i : Nat}
    (hi : i < l.length) (hf : f l[i] = []) (x : A) :
    ((l.set i x).flatMap f).Perm (f x ++ l.flatMap f) := by
  have hset := (List.set_perm_cons_eraseIdx hi x).flatMap_right f
  have hold := (List.getElem_cons_eraseIdx_perm hi).flatMap_right f
  rw [List.flatMap_cons] at hset hold
  rw [hf, List.nil_append] at hold
  exact hset.trans (hold.append_left _)

namespace CanMediaCollection

def Opened (rest : List (Nat × Bool)) (st : Parsing × Option Kernel) : Prop :=
  ∀ k, st.2 = some k →
    Balanced k (held st.1.collection.sockets ++ rest) ∧
    ∀ (i : Nat) (hi : i < MaxMedia), st.1.index ≤ i → st.1.collection.mediaArray[i] = none

theorem Opened.placeOn {answers : Nat → CanOpenAnswers × CanOpenAnswers} {seg : Bytes}
    {rest : List (Nat × Bool)} {st : Parsing × Option Kernel} (h : Opened rest st)
    (hmore : st.1.index < MaxMedia) : Opened rest (placeOn answers seg st) := by
  intro k' hk'
  obtain ⟨k, hk, hk'⟩ := Option.bind_eq_some_iff.mp hk'
  obtain ⟨⟨result, k''⟩, hmake, hkept⟩ := Option.map_eq_some_iff.mp hk'
  rw [destroyMade_eq] at hkept
  subst hkept
  obtain ⟨hbal, hempty⟩ := h k hk
  obtain ⟨rfl, hbal'⟩ := CanMedia.makeOn_spec hbal hmake
  cases hresult : CanMedia.make seg (openingOf (answers st.1.opened) seg) with
  | error e =>
    have hplace : (CanMediaCollection.placeOn answers seg st).1 =
        { st.1 with opened := st.1.opened + 1 } := by
      simp only [CanMediaCollection.placeOn, place, hresult]
    rw [hplace]
    rw [hresult] at hbal'
    exact ⟨hbal', hempty⟩
  | ok media =>
    have hplace : (CanMediaCollection.placeOn answers seg st).1 =
        { collection :=
            { mediaArray := st.1.collection.mediaArray.setIfInBounds st.1.index (some media)
              mediaIfaces := st.1.collection.mediaIfaces.setIfInBounds st.1.index
                (some (Fin.ofNat MaxMedia st.1.index)) }
          index := st.1.index + 1
          opened := st.1.opened + 1 } := by
      simp only [CanMediaCollection.placeOn, place, hresult]
    rw [hplace]
    rw [hresult] at hbal'
    refine ⟨?_, fun i hi hle => ?_⟩
    · have hnone := hempty st.1.index hmore le_rfl
      have hperm := flatMap_set_perm
        (f := fun media : Option CanMedia => media.toList.flatMap CanMedia.sockets)
        (l := st.1.collection.mediaArray.toList) (i := st.1.index) (by simpa using hmore)
        (by simp [hnone]) (some media)
      have hheld := (hperm.flatMap_right WatchedFd.holdings).append_right rest
      refine hbal'.perm (List.Perm.trans ?_ (hheld.symm.trans (List.Perm.of_eq ?_)))
      · simp [held, sockets, Except.toOption]
      · simp [held, sockets, Vector.toList_setIfInBounds]
    · simp only at hle ⊢
      rw [Vector.getElem_setIfInBounds, if_neg (by omega)]
      exact hempty i hi (by omega)

theorem parseOn_spec {answers : Nat → CanOpenAnswers × CanOpenAnswers} {fuel : Nat}
    {ifaceAddresses : Bytes} {k k' : Kernel} {c : CanMediaCollection}
    {rest : List (Nat × Bool)} (h : Balanced k rest)
    (hs : parseOn answers fuel ifaceAddresses k = some (c, k')) :
    parse (fun n => openingOf (answers n)) fuel ifaceAddresses {} = some c ∧
    Balanced k' (held c.sockets ++ rest) := by
  obtain ⟨st, hloop, hs⟩ := Option.bind_eq_some_iff.mp hs
  obtain ⟨k1, hk1, hs⟩ := Option.map_eq_some_iff.mp hs
  cases hs
  refine ⟨?_, ?_⟩
  · have hmap := @StringView.splitLoop_map _ _ (Parsing × Option Kernel) Parsing comma
      (fun st => st.1.index < MaxMedia) (fun st => st.index < MaxMedia) (placeOn answers)
      (place fun n => openingOf (answers n)) Prod.fst (fun _ => rfl) (fun _ _ => rfl)
      fuel ifaceAddresses 0 ({}, some k)
    rw [hloop] at hmap
    rw [parse, ← hmap]
    rfl
  · have hopened := StringView.splitLoop_keeps (P := Opened rest)
      (fun seg st hst hmore => hst.placeOn (of_decide_eq_true hmore)) ?_ hloop
    · exact (hopened k' hk1).1
    · rintro k2 ⟨⟩
      have hnone : held ({} : CanMediaCollection).sockets = [] := rfl
      refine ⟨?_, fun i hi _ => by simp⟩
      rwa [hnone, List.nil_append]

end CanMediaCollection

def negatedErrno (e : Errno) : Int := (-e.code).toInt16.toInt

def isMulticast (address : UInt32) : Bool := address &&& 0xF0000000 = 0xE0000000

structure UdpTxAnswers where
  socket : Syscall Nat
  bind : Syscall Unit := .done ()
  nonblock : Syscall Unit := .done ()
  multicastTtl : Syscall Unit := .done ()
  multicastIf : Syscall Unit := .done ()

structure UdpRxAnswers where
  socket : Syscall Nat
  nonblock : Syscall Unit := .done ()
  reuseAddr : Syscall Unit := .done ()
  reusePort : Syscall Unit := .done ()
  bind : Syscall Unit := .done ()
  addMembership : Syscall Unit := .done ()

/-- The code, and the handle after it. The arguments are looked at first. -/
def initHandle (valid : Bool) (socket : Syscall Nat) (calls : List (Syscall Unit)) (k : Kernel) :
    Option (Int × OwnFd × Kernel) :=
  if valid then
    (setUpSocket socket calls k).map fun made =>
      match made.1 with
      | .ok fd => (0, ⟨fd⟩, made.2)
      | .error e => (negatedErrno e, {}, made.2)
  else some (-EINVAL, {}, k)

def udpTxInit (localIfaceAddress : UInt32) (a : UdpTxAnswers) (k : Kernel) :
    Option (Int × OwnFd × Kernel) :=
  initHandle (0 < localIfaceAddress) a.socket [a.bind, a.nonblock, a.multicastTtl, a.multicastIf] k

def udpRxInit (localIfaceAddress multicastGroup : UInt32) (remotePort : UInt16)
    (a : UdpRxAnswers) (k : Kernel) : Option (Int × OwnFd × Kernel) :=
  initHandle (0 < localIfaceAddress && isMulticast multicastGroup && 0 < remotePort) a.socket
    [a.nonblock, a.reuseAddr, a.reusePort, a.bind, a.addMembership] k

def udpTxClose (self : OwnFd) (k : Kernel) : Kernel := self.destroy k
def udpRxClose (self : OwnFd) (k : Kernel) : Kernel := self.destroy k

/-- In host order, and zero for what is no address. -/
def udpParseIfaceAddress (inet : Inet) (address : Bytes) : UInt32 :=
  match inet.pton4 (cstr address) with
  | some octets => octets.val.foldl (fun n octet => n * 256 + octet.toUInt32) 0
  | none => 0

inductive MakeFailure where
  | platformError : Int → MakeFailure
  | memoryError : MakeFailure

/-- The handle is closed if there is no memory for the object that owns it. -/
def makeSocket (close : OwnFd → Kernel → Kernel) (allocated : Bool)
    (init : Option (Int × OwnFd × Kernel)) : Option (Except MakeFailure WatchedFd × Kernel) :=
  init.map fun made =>
    if made.1 < 0 then (.error (.platformError (-made.1)), made.2.2)
    else if allocated then (.ok { fd := made.2.1 }, made.2.2)
    else (.error .memoryError, close made.2.1 made.2.2)

def UdpTxSocket.make (inet : Inet) (ifaceAddress : Bytes) (a : UdpTxAnswers) (allocated : Bool)
    (k : Kernel) : Option (Except MakeFailure WatchedFd × Kernel) :=
  makeSocket udpTxClose allocated (udpTxInit (udpParseIfaceAddress inet ifaceAddress) a k)

def UdpRxSocket.make (inet : Inet) (address : Bytes) (ipAddress : UInt32) (udpPort : UInt16)
    (a : UdpRxAnswers) (allocated : Bool) (k : Kernel) :
    Option (Except MakeFailure WatchedFd × Kernel) :=
  makeSocket udpRxClose allocated
    (udpRxInit (udpParseIfaceAddress inet address) ipAddress udpPort a k)

theorem initHandle_spec {valid : Bool} {socket : Syscall Nat} {calls : List (Syscall Unit)}
    {k k' : Kernel} {code : Int} {handle : OwnFd} {rest : List (Nat × Bool)}
    (h : Balanced k rest) (hs : initHandle valid socket calls k = some (code, handle, k')) :
    Balanced k' (handle.holds false ++ rest) ∧ (code < 0 → handle = {}) := by
  unfold initHandle at hs
  split at hs
  · obtain ⟨⟨made, k1⟩, hmade, hs⟩ := Option.map_eq_some_iff.mp hs
    rcases setUpSocket_spec h hmade with ⟨e, rfl, hb⟩ | ⟨fd, rfl, -, hb⟩
    · cases hs
      exact ⟨hb, fun _ => rfl⟩
    · cases hs
      refine ⟨?_, fun hneg => absurd hneg (by decide)⟩
      simpa using hb
  · cases hs
    exact ⟨h, fun _ => rfl⟩

theorem makeSocket_spec {close : OwnFd → Kernel → Kernel} {allocated valid : Bool}
    {socket : Syscall Nat} {calls : List (Syscall Unit)} {k k' : Kernel}
    {result : Except MakeFailure WatchedFd} {rest : List (Nat × Bool)}
    (hclose : ∀ (o : OwnFd) (k : Kernel), close o k = o.destroy k) (h : Balanced k rest)
    (hs : makeSocket close allocated (initHandle valid socket calls k) = some (result, k')) :
    Balanced k' (held result.toOption.toList ++ rest) ∧
    ∀ w ∈ result.toOption, w.callback = none := by
  obtain ⟨⟨code, handle, k1⟩, hinit, hs⟩ := Option.map_eq_some_iff.mp hs
  obtain ⟨hb, hempty⟩ := initHandle_spec h hinit
  simp only at hs
  split at hs
  · next hneg =>
    cases hs
    rw [hempty hneg] at hb
    exact ⟨hb, fun w hw => by cases hw⟩
  · split at hs
    · cases hs
      refine ⟨?_, ?_⟩
      · simpa [held, Except.toOption, WatchedFd.holdings] using hb
      · rintro w ⟨⟩
        rfl
    · cases hs
      refine ⟨?_, fun w hw => by cases hw⟩
      rw [hclose]
      exact OwnFd.balanced_destroy hb

end Ocvsmd.Engine
