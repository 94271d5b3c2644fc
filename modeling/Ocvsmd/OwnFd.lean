import Ocvsmd.Holdings
import Ocvsmd.SocketAddress
import Ocvsmd.SocketBase

/-!
`OwnFd`, and the two calls that make one: `SocketAddress::socket` and
`SocketAddress::accept`. The kernel's answers are inputs. A descriptor that it gives out is
any that is not open, so that numbers come back.
-/

set_option autoImplicit false

namespace Ocvsmd.Io

open Holdings (Balanced)
open Ipc (Errno Syscall posixSyscallError)

/-- The descriptors of the process. The watched ones have a callback of the executor. -/
abbrev Kernel := Holdings.Table Nat

structure OwnFd where
  fd : Int := -1
  deriving DecidableEq

namespace OwnFd

def reset (o : OwnFd) (k : Kernel) : OwnFd × Kernel :=
  if 0 ≤ o.fd then ({ fd := -1 }, k.release o.fd.toNat) else (o, k)

def destroy (o : OwnFd) (k : Kernel) : Kernel := (o.reset k).2

def move (other : OwnFd) : OwnFd × OwnFd := (⟨other.fd⟩, ⟨-1⟩)

def moveAssign (o other : OwnFd) (k : Kernel) : OwnFd × OwnFd × Kernel :=
  let old := o.move.1
  let moved := other.move
  (moved.1, moved.2, old.destroy k)

/-- The same, where both are one object. -/
def moveAssignSelf (o : OwnFd) (k : Kernel) : OwnFd × Kernel :=
  let old := o.move
  (old.2.move.1, old.1.destroy k)

def assignNull (o : OwnFd) (k : Kernel) : OwnFd × Kernel :=
  let old := o.move
  (old.2, old.1.destroy k)

def holds (o : OwnFd) (watched : Bool) : List (Nat × Bool) :=
  if 0 ≤ o.fd then [(o.fd.toNat, watched)] else []

@[simp] theorem holds_empty (watched : Bool) : ({} : OwnFd).holds watched = [] := rfl

@[simp] theorem holds_ofNat (fd : Nat) (watched : Bool) :
    (⟨(fd : Int)⟩ : OwnFd).holds watched = [(fd, watched)] := by simp [holds]

@[simp] theorem destroy_empty (k : Kernel) : ({} : OwnFd).destroy k = k := rfl

theorem balanced_destroy {o : OwnFd} {k : Kernel} {rest : List (Nat × Bool)}
    (h : Balanced k (o.holds false ++ rest)) : Balanced (o.destroy k) rest := by
  unfold holds at h
  unfold destroy reset
  split
  · next hfd =>
    rw [if_pos hfd] at h
    exact h.release
  · next hfd => simpa [hfd] using h

theorem balanced_moveAssign {o other : OwnFd} {k : Kernel} {rest : List (Nat × Bool)}
    (h : Balanced k (o.holds false ++ (other.holds false ++ rest))) :
    Balanced (o.moveAssign other k).2.2 ((o.moveAssign other k).1.holds false ++
      ((o.moveAssign other k).2.1.holds false ++ rest)) :=
  balanced_destroy (o := o) h

theorem balanced_moveAssignSelf {o : OwnFd} {k : Kernel} {rest : List (Nat × Bool)}
    (h : Balanced k (o.holds false ++ rest)) :
    Balanced (o.moveAssignSelf k).2 ((o.moveAssignSelf k).1.holds false ++ rest) :=
  balanced_destroy (o := o) h

theorem balanced_assignNull {o : OwnFd} {k : Kernel} {rest : List (Nat × Bool)}
    (h : Balanced k (o.holds false ++ rest)) :
    Balanced (o.assignNull k).2 ((o.assignNull k).1.holds false ++ rest) :=
  balanced_destroy (o := o) h

end OwnFd

def EINTR : Errno := .EINTR
def EPROTO : Errno := ⟨71, by decide⟩
def ENETDOWN : Errno := ⟨100, by decide⟩
def ENETUNREACH : Errno := ⟨101, by decide⟩
def ECONNABORTED : Errno := ⟨103, by decide⟩
def ETIMEDOUT : Errno := ⟨110, by decide⟩
def EHOSTDOWN : Errno := ⟨112, by decide⟩
def EHOSTUNREACH : Errno := ⟨113, by decide⟩

/-- A guess of temporary network errors. -/
def temporary : List Errno :=
  [EINTR, ENETDOWN, ETIMEDOUT, EHOSTDOWN, ENETUNREACH, ECONNABORTED, EHOSTUNREACH, EPROTO]

/-- The answers to the calls of `::socket` and of `::fcntl`. Delays are switched off for TCP,
and it does not matter if that fails. `none` is an answer that the kernel cannot give. -/
def SocketAddress.socket (sockets : List (Syscall Nat)) (fcntls : List (Syscall Unit))
    (k : Kernel) : Option (Except Errno OwnFd × Kernel) :=
  match posixSyscallError sockets with
  | (.error e, _) => some (.error e, ({} : OwnFd).destroy k)
  | (.ok fd, _) =>
    (k.acquire fd).map fun k =>
      let assigned := ({} : OwnFd).moveAssign ⟨fd⟩ k
      let outFd := assigned.1
      let k := assigned.2.1.destroy assigned.2.2
      match posixSyscallError fcntls with
      | (.error e, _) => (.error e, outFd.destroy k)
      | (.ok _, _) =>
        let result := outFd.move
        (.ok result.1, result.2.destroy k)

def SocketAddress.accept (fcntls : List (Syscall Unit)) (k : Kernel) :
    List (Syscall Nat) → Option (Option OwnFd × Kernel)
  | [] => some (none, k)
  | .error e :: accepts =>
    if e ∈ temporary then accept fcntls k accepts else some (none, k)
  | .done fd :: _ =>
    (k.acquire fd).map fun k =>
      let clientFd : OwnFd := ⟨fd⟩
      match posixSyscallError fcntls with
      | (.error _, _) => (none, clientFd.destroy k)
      | (.ok _, _) =>
        let result := clientFd.move
        (some result.1, result.2.destroy k)

theorem SocketAddress.socket_spec {sockets : List (Syscall Nat)} {fcntls : List (Syscall Unit)}
    {k k' : Kernel} {result : Except Errno OwnFd} {held : List (Nat × Bool)}
    (h : Balanced k held) (hs : socket sockets fcntls k = some (result, k')) :
    (∃ e, result = .error e ∧ Balanced k' held) ∨
    ∃ fd : Nat, result = .ok ⟨fd⟩ ∧ Balanced k' ((fd, false) :: held) := by
  unfold socket at hs
  split at hs
  · next e _ _ =>
    cases hs
    exact Or.inl ⟨e, rfl, h⟩
  · next fd _ _ =>
    obtain ⟨k1, hk, hs⟩ := Option.map_eq_some_iff.mp hs
    have hopen := h.acquire hk
    simp only [OwnFd.moveAssign, OwnFd.move] at hs
    split at hs
    · next e _ _ =>
      cases hs
      refine Or.inl ⟨e, rfl, OwnFd.balanced_destroy (o := ⟨fd⟩) ?_⟩
      simpa using hopen
    · cases hs
      exact Or.inr ⟨fd, rfl, hopen⟩

theorem SocketAddress.accept_spec {fcntls : List (Syscall Unit)} {k k' : Kernel}
    {accepts : List (Syscall Nat)} {result : Option OwnFd} {held : List (Nat × Bool)}
    (h : Balanced k held) (hs : accept fcntls k accepts = some (result, k')) :
    (result = none ∧ Balanced k' held) ∨
    ∃ fd : Nat, result = some ⟨fd⟩ ∧ Balanced k' ((fd, false) :: held) := by
  induction accepts with
  | nil =>
    cases hs
    exact Or.inl ⟨rfl, h⟩
  | cons answer accepts ih =>
    cases answer with
    | error e =>
      simp only [accept] at hs
      split at hs
      · exact ih hs
      · cases hs
        exact Or.inl ⟨rfl, h⟩
    | done fd =>
      obtain ⟨k1, hk, hs⟩ := Option.map_eq_some_iff.mp hs
      have hopen := h.acquire hk
      simp only at hs
      split at hs
      · cases hs
        refine Or.inl ⟨rfl, OwnFd.balanced_destroy (o := ⟨fd⟩) ?_⟩
        simpa using hopen
      · cases hs
        exact Or.inr ⟨fd, rfl, hopen⟩

end Ocvsmd.Io
