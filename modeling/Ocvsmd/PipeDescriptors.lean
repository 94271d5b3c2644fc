import Ocvsmd.OwnFd
import Ocvsmd.Runs

/-!
The descriptors of `SocketServer` and `SocketClient`, and the callbacks that are registered
for them. Other parts of the process open and close descriptors of their own meanwhile.
-/

set_option autoImplicit false

namespace Ocvsmd.Io

open Holdings (Balanced)
open Ipc (Errno Syscall posixSyscallError)

/-- A descriptor and the callback that is registered for one. A server has one for
connections, and each of its clients has one; a client has one. -/
structure WatchedFd where
  fd : OwnFd := {}
  callback : Option Nat := none

namespace WatchedFd

def holdings (w : WatchedFd) : List (Nat × Bool) := w.fd.holds w.callback.isSome

def Coherent (w : WatchedFd) : Prop := ∀ fd, w.callback = some fd → w.fd.fd = fd

def register (w : WatchedFd) (k : Kernel) : WatchedFd × Kernel :=
  ({ w with callback := some w.fd.fd.toNat }, k.watch w.fd.fd.toNat)

def resetCallback (w : WatchedFd) (k : Kernel) : WatchedFd × Kernel :=
  match w.callback with
  | none => (w, k)
  | some fd => ({ w with callback := none }, k.unwatch fd)

/-- The callback goes before the descriptor. In `SocketServer` and `SocketClient` it is the
later member. -/
def destroy (w : WatchedFd) (k : Kernel) : Kernel :=
  let reset := w.resetCallback k
  reset.1.fd.destroy reset.2

theorem coherent_empty : ({} : WatchedFd).Coherent := fun _ h => by cases h

theorem Coherent.unwatched {w : WatchedFd} (h : w.Coherent) (hfd : w.fd.fd = -1) :
    w.callback = none := by
  cases hc : w.callback with
  | none => rfl
  | some fd =>
    have heq := h fd hc
    omega

theorem balanced_register {fd : Nat} {k : Kernel} {rest : List (Nat × Bool)}
    (h : Balanced k ((fd, false) :: rest)) :
    Balanced (register ⟨⟨fd⟩, none⟩ k).2 ((register ⟨⟨fd⟩, none⟩ k).1.holdings ++ rest) ∧
      (register ⟨⟨fd⟩, none⟩ k).1.Coherent := by
  refine ⟨?_, fun f hf => ?_⟩
  · simpa [register, holdings] using h.watch
  · simp only [register, Option.some.injEq, Int.toNat_natCast] at hf
    simp [register, hf]

theorem balanced_resetCallback {w : WatchedFd} {k : Kernel} {rest : List (Nat × Bool)}
    (hw : w.Coherent) (h : Balanced k (w.holdings ++ rest)) :
    (w.resetCallback k).1 = { w with callback := none } ∧
      Balanced (w.resetCallback k).2 (w.fd.holds false ++ rest) := by
  unfold resetCallback
  split
  · next hc =>
    refine ⟨by rw [← hc], ?_⟩
    simpa [holdings, hc] using h
  · next fd hc =>
    refine ⟨rfl, ?_⟩
    have hfd : w.fd = ⟨fd⟩ := congrArg OwnFd.mk (hw fd hc)
    rw [holdings, hc, hfd] at h
    rw [hfd]
    simpa using Balanced.unwatch (by simpa using h)

theorem balanced_destroy {w : WatchedFd} {k : Kernel} {rest : List (Nat × Bool)}
    (hw : w.Coherent) (h : Balanced k (w.holdings ++ rest)) : Balanced (w.destroy k) rest := by
  obtain ⟨hreset, hbal⟩ := balanced_resetCallback hw h
  unfold destroy
  simp only [hreset]
  exact OwnFd.balanced_destroy hbal

end WatchedFd

/-- `IPV6_V6ONLY` is switched off for a wildcard address. -/
def SocketAddress.bind (isWildcard : Bool) (setsockopts binds : List (Syscall Unit)) :
    Except Errno Unit :=
  if isWildcard then
    match (posixSyscallError setsockopts).1 with
    | .error e => .error e
    | .ok _ => (posixSyscallError binds).1
  else (posixSyscallError binds).1

def EINPROGRESS : Errno := ⟨115, by decide⟩

/-- A connection that is being made is not an error. -/
def SocketAddress.connect (connects : List (Syscall Unit)) : Except Errno Unit :=
  match (posixSyscallError connects).1 with
  | .error e => if e = EINPROGRESS then .ok () else .error e
  | .ok _ => .ok ()

structure StartAnswers where
  sockets : List (Syscall Nat)
  fcntls : List (Syscall Unit) := [.done ()]
  reuses : List (Syscall Unit) := [.done ()]
  isWildcard : Bool := false
  setsockopts : List (Syscall Unit) := [.done ()]
  binds : List (Syscall Unit) := [.done ()]
  listens : List (Syscall Unit) := [.done ()]
  connects : List (Syscall Unit) := [.done ()]

/-- A socket that is set up goes to its place, and one that is not is closed. -/
def makeSocketHandle (a : StartAnswers) (setUp : Except Errno Unit) (w : WatchedFd)
    (k : Kernel) : Option (Except Errno WatchedFd × Kernel) :=
  (SocketAddress.socket a.sockets a.fcntls k).map fun result =>
    match result.1, setUp with
    | .error e, _ => (.error e, result.2)
    | .ok socketFd, .error e => (.error e, socketFd.destroy result.2)
    | .ok socketFd, .ok _ =>
      let assigned := w.fd.moveAssign socketFd result.2
      (.ok { w with fd := assigned.1 }, assigned.2.1.destroy assigned.2.2)

theorem makeSocketHandle_spec {a : StartAnswers} {setUp : Except Errno Unit} {w : WatchedFd}
    {k k' : Kernel} {result : Except Errno WatchedFd} {rest : List (Nat × Bool)}
    (hfd : w.fd.fd = -1) (h : Balanced k rest)
    (hs : makeSocketHandle a setUp w k = some (result, k')) :
    (∃ e, result = .error e ∧ Balanced k' rest) ∨
    ∃ fd : Nat, result = .ok { w with fd := ⟨fd⟩ } ∧ Balanced k' ((fd, false) :: rest) := by
  obtain ⟨⟨made, k1⟩, hmade, hresult⟩ := Option.map_eq_some_iff.mp hs
  rcases SocketAddress.socket_spec h hmade with ⟨e, rfl, hb⟩ | ⟨fd, rfl, hb⟩
  · cases hresult
    exact Or.inl ⟨e, rfl, hb⟩
  · cases setUp with
    | error e =>
      cases hresult
      refine Or.inl ⟨e, rfl, OwnFd.balanced_destroy (o := ⟨fd⟩) ?_⟩
      simpa using hb
    | ok u =>
      have hempty : w.fd = {} := congrArg OwnFd.mk hfd
      simp only [hempty, OwnFd.moveAssign, OwnFd.move] at hresult
      cases hresult
      exact Or.inr ⟨fd, rfl, hb⟩

structure PipeProcess where
  kernel : Kernel := {}
  listener : WatchedFd := {}
  uniqueClientIdCounter : Nat := 0
  clientIdToContext : List (Nat × WatchedFd) := []
  client : WatchedFd := {}
  connecting : Bool := false
  others : List Nat := []

inductive PipeAction where
  | serverStart : StartAnswers → PipeAction
  | handleAccept : List (Syscall Nat) → List (Syscall Unit) → PipeAction
  | closeContext : Nat → PipeAction
  | serverDestroy : PipeAction
  | clientStart : StartAnswers → PipeAction
  | handleConnect : Except Errno Unit → PipeAction
  | handleDisconnect : PipeAction
  | clientDestroy : PipeAction
  | otherOpens : Nat → PipeAction
  | otherCloses : Nat → PipeAction

namespace PipeProcess

/-- `SocketServer::start`, which is for a server that has no socket. One that cannot listen
keeps it. -/
def serverStart (p : PipeProcess) (a : StartAnswers) : Option PipeProcess :=
  if p.listener.fd.fd = -1 then
    let setUp := match (posixSyscallError a.reuses).1 with
      | .error e => .error e
      | .ok _ => SocketAddress.bind a.isWildcard a.setsockopts a.binds
    (makeSocketHandle a setUp p.listener p.kernel).map fun made =>
      match made.1 with
      | .error _ => { p with kernel := made.2 }
      | .ok listener =>
        match (posixSyscallError a.listens).1 with
        | .error _ => { p with listener, kernel := made.2 }
        | .ok _ =>
          let registered := listener.register made.2
          { p with listener := registered.1, kernel := registered.2 }
  else none

def handleAccept (p : PipeProcess) (accepts : List (Syscall Nat))
    (fcntls : List (Syscall Unit)) : Option PipeProcess :=
  if p.listener.callback.isSome then
    (SocketAddress.accept fcntls p.kernel accepts).map fun accepted =>
      match accepted.1 with
      | none => { p with kernel := accepted.2 }
      | some clientFd =>
        let newClientId := p.uniqueClientIdCounter + 1
        let assigned := ({} : OwnFd).moveAssign clientFd accepted.2
        let registered := WatchedFd.register { fd := assigned.1 } assigned.2.2
        { p with
          uniqueClientIdCounter := newClientId
          clientIdToContext := (newClientId, registered.1) :: p.clientIdToContext
          kernel := assigned.2.1.destroy registered.2 }
  else none

/-- `client_id_to_context_.erase(..)`, when a request could not be handled. -/
def closeContext (p : PipeProcess) (clientId : Nat) : Option PipeProcess :=
  (p.clientIdToContext.find? (·.1 = clientId)).map fun context =>
    { p with
      clientIdToContext := p.clientIdToContext.eraseP (·.1 = clientId)
      kernel := context.2.destroy p.kernel }

/-- The contexts are the last member, so that they are destroyed first. -/
def serverDestroy (p : PipeProcess) : PipeProcess :=
  let k := p.clientIdToContext.foldl (fun k context => context.2.destroy k) p.kernel
  { p with clientIdToContext := [], listener := {}, kernel := p.listener.destroy k }

def clientStart (p : PipeProcess) (a : StartAnswers) : Option PipeProcess :=
  if p.client.fd.fd = -1 then
    (makeSocketHandle a (SocketAddress.connect a.connects) p.client p.kernel).map fun made =>
      match made.1 with
      | .error _ => { p with kernel := made.2 }
      | .ok client =>
        let registered := client.register made.2
        { p with client := registered.1, connecting := true, kernel := registered.2 }
  else none

def handleDisconnect (p : PipeProcess) : PipeProcess :=
  let reset := p.client.resetCallback p.kernel
  let closed := reset.1.fd.reset reset.2
  { p with
    client := { reset.1 with fd := closed.1 }
    connecting := false
    kernel := closed.2 }

def handleConnect (p : PipeProcess) (soError : Except Errno Unit) : PipeProcess :=
  let reset := p.client.resetCallback p.kernel
  match soError with
  | .error _ => { p with client := reset.1, kernel := reset.2 }.handleDisconnect
  | .ok _ =>
    let registered := reset.1.register reset.2
    { p with client := registered.1, connecting := false, kernel := registered.2 }

def clientDestroy (p : PipeProcess) : PipeProcess :=
  { p with client := {}, connecting := false, kernel := p.client.destroy p.kernel }

/-- A callback is called while it is registered. -/
def step (p : PipeProcess) : PipeAction → Option PipeProcess
  | .serverStart a => p.serverStart a
  | .handleAccept accepts fcntls => p.handleAccept accepts fcntls
  | .closeContext clientId => p.closeContext clientId
  | .serverDestroy => some p.serverDestroy
  | .clientStart a => p.clientStart a
  | .handleConnect soError =>
    if p.connecting ∧ p.client.callback.isSome then some (p.handleConnect soError) else none
  | .handleDisconnect =>
    if ¬ p.connecting ∧ p.client.callback.isSome then some p.handleDisconnect else none
  | .clientDestroy => some p.clientDestroy
  | .otherOpens fd =>
    (p.kernel.acquire fd).map fun kernel => { p with others := fd :: p.others, kernel }
  | .otherCloses fd =>
    if fd ∈ p.others then
      some { p with others := p.others.erase fd, kernel := p.kernel.release fd }
    else none

def Reachable (p : PipeProcess) : Prop := Runs.Reachable step {} p

def holdings (p : PipeProcess) : List (Nat × Bool) :=
  p.listener.holdings ++ (p.client.holdings ++
    ((p.clientIdToContext.flatMap fun context => context.2.holdings) ++
      p.others.map fun fd => (fd, false)))

structure Accounted (p : PipeProcess) : Prop where
  balanced : Balanced p.kernel p.holdings
  listener : p.listener.Coherent
  contexts : ∀ context ∈ p.clientIdToContext, context.2.Coherent
  client : p.client.Coherent

def besidesClient (p : PipeProcess) : List (Nat × Bool) :=
  p.listener.holdings ++ ((p.clientIdToContext.flatMap fun context => context.2.holdings) ++
    p.others.map fun fd => (fd, false))

theorem client_first (p : PipeProcess) :
    p.holdings.Perm (p.client.holdings ++ p.besidesClient) :=
  List.perm_append_comm_assoc _ _ _

theorem Accounted.withClient {p : PipeProcess} (h : p.Accounted) {client : WatchedFd}
    {kernel : Kernel} (hco : client.Coherent)
    (hb : Balanced kernel (client.holdings ++ p.besidesClient)) (connecting : Bool) :
    ({ p with client, connecting, kernel } : PipeProcess).Accounted :=
  { h with
    balanced := hb.perm (client_first { p with client, connecting, kernel }).symm
    client := hco }

theorem contexts_first (p : PipeProcess) :
    p.holdings.Perm ((p.clientIdToContext.flatMap fun context => context.2.holdings) ++
      (p.listener.holdings ++ (p.client.holdings ++ p.others.map fun fd => (fd, false)))) :=
  ((List.perm_append_comm_assoc _ _ _).append_left _).trans (List.perm_append_comm_assoc _ _ _)

theorem others_first (p : PipeProcess) :
    p.holdings.Perm ((p.others.map fun fd => (fd, false)) ++ (p.listener.holdings ++
      (p.client.holdings ++ p.clientIdToContext.flatMap fun context => context.2.holdings))) := by
  have h : ((p.listener.holdings ++ (p.client.holdings ++
        p.clientIdToContext.flatMap fun context => context.2.holdings)) ++
      p.others.map fun fd => (fd, false)).Perm
    ((p.others.map fun fd => (fd, false)) ++ (p.listener.holdings ++ (p.client.holdings ++
        p.clientIdToContext.flatMap fun context => context.2.holdings))) :=
    List.perm_append_comm
  simpa [holdings, List.append_assoc] using h

theorem Accounted.serverStart {p p' : PipeProcess} {a : StartAnswers} (h : p.Accounted)
    (hs : p.serverStart a = some p') : p'.Accounted := by
  obtain ⟨hfd, hmade⟩ := Option.ite_none_right_eq_some.mp hs
  obtain ⟨⟨result, k⟩, hmake, rfl⟩ := Option.map_eq_some_iff.mp hmade
  have hcallback := h.listener.unwatched hfd
  have hnone : p.listener.holdings = [] := by simp [WatchedFd.holdings, OwnFd.holds, hfd]
  have hbal := h.balanced
  rw [holdings, hnone] at hbal
  rcases makeSocketHandle_spec hfd hbal hmake with ⟨e, rfl, hb⟩ | ⟨fd, rfl, hb⟩
  · exact { h with balanced := by simpa [holdings, hnone] using hb }
  · rw [hcallback]
    simp only
    split
    · exact { h with
        balanced := by simpa [holdings, WatchedFd.holdings] using hb
        listener := fun _ hc => by cases hc }
    · obtain ⟨hreg, hco⟩ := WatchedFd.balanced_register hb
      exact { h with balanced := hreg, listener := hco }

theorem Accounted.clientStart {p p' : PipeProcess} {a : StartAnswers} (h : p.Accounted)
    (hs : p.clientStart a = some p') : p'.Accounted := by
  obtain ⟨hfd, hmade⟩ := Option.ite_none_right_eq_some.mp hs
  obtain ⟨⟨result, k⟩, hmake, rfl⟩ := Option.map_eq_some_iff.mp hmade
  have hcallback := h.client.unwatched hfd
  have hnone : p.client.holdings = [] := by simp [WatchedFd.holdings, OwnFd.holds, hfd]
  have hbal := h.balanced.perm p.client_first
  rw [hnone, List.nil_append] at hbal
  rcases makeSocketHandle_spec hfd hbal hmake with ⟨e, rfl, hb⟩ | ⟨fd, rfl, hb⟩
  · exact { h with balanced := by simpa [holdings, hnone, besidesClient] using hb }
  · rw [hcallback]
    obtain ⟨hreg, hco⟩ := WatchedFd.balanced_register hb
    exact h.withClient hco hreg true

theorem Accounted.handleAccept {p p' : PipeProcess} {accepts : List (Syscall Nat)}
    {fcntls : List (Syscall Unit)} (h : p.Accounted)
    (hs : p.handleAccept accepts fcntls = some p') : p'.Accounted := by
  obtain ⟨_, hacc⟩ := Option.ite_none_right_eq_some.mp hs
  obtain ⟨⟨result, k⟩, haccept, rfl⟩ := Option.map_eq_some_iff.mp hacc
  rcases SocketAddress.accept_spec (h.balanced.perm p.contexts_first) haccept with
    ⟨rfl, hb⟩ | ⟨fd, rfl, hb⟩
  · exact { h with balanced := hb.perm p.contexts_first.symm }
  · obtain ⟨hreg, hco⟩ := WatchedFd.balanced_register hb
    have hassign : ({} : OwnFd).moveAssign ⟨fd⟩ k = (⟨fd⟩, {}, k) := rfl
    simp only [hassign, OwnFd.destroy_empty]
    refine { h with balanced := ?_, contexts := ?_ }
    · exact Balanced.perm (by simpa [List.append_assoc] using hreg) (contexts_first _).symm
    · intro context hcontext
      rcases List.mem_cons.mp hcontext with rfl | hold
      · exact hco
      · exact h.contexts context hold

theorem Accounted.closeContext {p p' : PipeProcess} {clientId : Nat} (h : p.Accounted)
    (hs : p.closeContext clientId = some p') : p'.Accounted := by
  obtain ⟨context, hfind, rfl⟩ := Option.map_eq_some_iff.mp hs
  obtain ⟨hid, before, after, hsplit, hbefore⟩ := List.find?_eq_some_iff_append.mp hfind
  have herase : p.clientIdToContext.eraseP (·.1 = clientId) = before ++ after := by
    have hid' : context.1 = clientId := by simpa using hid
    rw [hsplit, List.eraseP_append_right _ (by simpa using hbefore)]
    simp [hid']
  have hmem : context ∈ p.clientIdToContext := by simp [hsplit]
  have hperm : (p.clientIdToContext.flatMap fun context => context.2.holdings).Perm
      (context.2.holdings ++ (before ++ after).flatMap fun context => context.2.holdings) := by
    rw [hsplit, List.flatMap_append, List.flatMap_cons, List.flatMap_append]
    exact List.perm_append_comm_assoc _ _ _
  have hbal := h.balanced.perm (p.contexts_first.trans (hperm.append_right _))
  rw [List.append_assoc] at hbal
  have hb := WatchedFd.balanced_destroy (h.contexts context hmem) hbal
  refine { h with balanced := ?_, contexts := ?_ }
  · refine Balanced.perm ?_ (contexts_first _).symm
    simp only [herase]
    exact hb
  · intro c hc
    exact h.contexts c (List.mem_of_mem_eraseP hc)

theorem balanced_contexts {contexts : List (Nat × WatchedFd)} {k : Kernel}
    {rest : List (Nat × Bool)} (hco : ∀ context ∈ contexts, context.2.Coherent)
    (h : Balanced k ((contexts.flatMap fun context => context.2.holdings) ++ rest)) :
    Balanced (contexts.foldl (fun k context => context.2.destroy k) k) rest := by
  induction contexts generalizing k with
  | nil => exact h
  | cons context contexts ih =>
    rw [List.flatMap_cons, List.append_assoc] at h
    have hb := WatchedFd.balanced_destroy (hco context (by simp)) h
    exact ih (fun c hc => hco c (List.mem_cons_of_mem _ hc)) hb

theorem Accounted.serverDestroy {p : PipeProcess} (h : p.Accounted) :
    p.serverDestroy.Accounted := by
  have hb := balanced_contexts h.contexts (h.balanced.perm p.contexts_first)
  have hl := WatchedFd.balanced_destroy h.listener hb
  exact {
    balanced := by simpa [PipeProcess.serverDestroy, holdings, WatchedFd.holdings] using hl
    listener := WatchedFd.coherent_empty
    contexts := fun _ hc => by cases hc
    client := h.client }

theorem Accounted.clientDestroy {p : PipeProcess} (h : p.Accounted) :
    p.clientDestroy.Accounted := by
  have hb := WatchedFd.balanced_destroy h.client (h.balanced.perm p.client_first)
  exact h.withClient WatchedFd.coherent_empty hb false

theorem Accounted.handleDisconnect {p : PipeProcess} (h : p.Accounted) :
    p.handleDisconnect.Accounted := by
  obtain ⟨hreset, hb⟩ :=
    WatchedFd.balanced_resetCallback h.client (h.balanced.perm p.client_first)
  have hd := OwnFd.balanced_destroy hb
  have hempty : (p.client.fd.reset (p.client.resetCallback p.kernel).2).1.holds false = [] := by
    unfold OwnFd.reset
    split
    · rfl
    · next hneg => simp [OwnFd.holds, hneg]
  simp only [PipeProcess.handleDisconnect, hreset]
  refine h.withClient (fun fd hc => by cases hc) ?_ false
  rw [WatchedFd.holdings, Option.isSome_none, hempty]
  exact hd

theorem Accounted.handleConnect {p : PipeProcess} {soError : Except Errno Unit}
    (h : p.Accounted) (hc : p.client.callback.isSome = true) :
    (p.handleConnect soError).Accounted := by
  obtain ⟨hreset, hb⟩ :=
    WatchedFd.balanced_resetCallback h.client (h.balanced.perm p.client_first)
  unfold PipeProcess.handleConnect
  cases soError with
  | error e =>
    simp only [hreset]
    exact Accounted.handleDisconnect
      (h.withClient (fun fd hc => by cases hc) hb p.connecting)
  | ok u =>
    obtain ⟨fd, hfd⟩ := Option.isSome_iff_exists.mp hc
    have heq : p.client.fd = ⟨fd⟩ := congrArg OwnFd.mk (h.client fd hfd)
    rw [heq, OwnFd.holds_ofNat] at hb
    obtain ⟨hreg, hco⟩ := WatchedFd.balanced_register hb
    simp only [hreset, heq]
    exact h.withClient hco hreg false

theorem Accounted.otherOpens {p : PipeProcess} {fd : Nat} {kernel : Kernel} (h : p.Accounted)
    (hk : p.kernel.acquire fd = some kernel) :
    ({ p with others := fd :: p.others, kernel } : PipeProcess).Accounted :=
  { h with
    balanced := ((h.balanced.perm p.others_first).acquire hk).perm
      (others_first { p with others := fd :: p.others, kernel }).symm }

theorem Accounted.otherCloses {p : PipeProcess} {fd : Nat} (h : p.Accounted)
    (hfd : fd ∈ p.others) :
    ({ p with others := p.others.erase fd, kernel := p.kernel.release fd } :
      PipeProcess).Accounted := by
  have hperm := ((List.perm_cons_erase hfd).map fun fd => (fd, false)).append_right
    (p.listener.holdings ++
      (p.client.holdings ++ p.clientIdToContext.flatMap fun context => context.2.holdings))
  have hbal := h.balanced.perm (p.others_first.trans hperm)
  exact { h with
    balanced := hbal.release.perm (others_first
      { p with others := p.others.erase fd, kernel := p.kernel.release fd }).symm }

theorem Accounted.step {p p' : PipeProcess} {a : PipeAction} (h : p.Accounted)
    (hs : p.step a = some p') : p'.Accounted := by
  cases a with
  | serverStart a => exact h.serverStart hs
  | handleAccept accepts fcntls => exact h.handleAccept hs
  | closeContext clientId => exact h.closeContext hs
  | serverDestroy =>
    cases hs
    exact h.serverDestroy
  | clientStart a => exact h.clientStart hs
  | handleConnect soError =>
    obtain ⟨⟨_, hc⟩, heq⟩ := Option.ite_none_right_eq_some.mp hs
    cases heq
    exact h.handleConnect hc
  | handleDisconnect =>
    obtain ⟨_, heq⟩ := Option.ite_none_right_eq_some.mp hs
    cases heq
    exact h.handleDisconnect
  | clientDestroy =>
    cases hs
    exact h.clientDestroy
  | otherOpens fd =>
    obtain ⟨kernel, hk, rfl⟩ := Option.map_eq_some_iff.mp hs
    exact h.otherOpens hk
  | otherCloses fd =>
    obtain ⟨hfd, heq⟩ := Option.ite_none_right_eq_some.mp hs
    cases heq
    exact h.otherCloses hfd

theorem accounted_init : ({} : PipeProcess).Accounted where
  balanced := Holdings.balanced_init
  listener := WatchedFd.coherent_empty
  contexts := fun _ hc => by cases hc
  client := WatchedFd.coherent_empty

/-- In every run each descriptor that is open has one owner, nothing is closed twice or
while a callback is registered for it, and each callback is for the descriptor that its
owner has; when server and client are gone, what they had is closed. -/
theorem descriptors_accounted {p : PipeProcess} (h : Reachable p) :
    p.Accounted ∧
    p.serverDestroy.clientDestroy.kernel.opened.Perm p.others ∧
    p.serverDestroy.clientDestroy.kernel.watched = [] ∧
    p.serverDestroy.clientDestroy.kernel.faults = 0 := by
  have ha := Runs.Reachable.invariant h accounted_init fun ha hs => ha.step hs
  have hgone := ha.serverDestroy.clientDestroy
  have hholdings : p.serverDestroy.clientDestroy.holdings =
      p.others.map fun fd => (fd, false) := by
    simp [holdings, PipeProcess.serverDestroy, PipeProcess.clientDestroy, WatchedFd.holdings]
  have hbal := hgone.balanced
  rw [hholdings] at hbal
  refine ⟨ha, ?_, ?_, hbal.faults⟩
  · simpa [Function.comp_def] using hbal.opened
  · have hw := hbal.watched
    simpa [List.filter_map, Function.comp_def] using hw

def served : List PipeAction :=
  [.otherOpens 0, .serverStart { sockets := [.error .EINTR, .done 3] },
   .handleAccept [.error ECONNABORTED, .done 4] [.done ()], .handleAccept [.done 5] [.done ()],
   .handleAccept [.error .EAGAIN] [], .closeContext 1,
   .clientStart { sockets := [.done 4], connects := [.error EINPROGRESS] },
   .handleConnect (.ok ()), .handleAccept [.done 6] [.error .EAGAIN]]

def servedProcess : PipeProcess := (Runs.run step {} served).getD {}

theorem servedProcess_reachable : Reachable servedProcess :=
  Runs.Reachable.getD (by decide +kernel)

theorem descriptors_accounted_served :
    servedProcess.kernel.opened = [4, 5, 3, 0] ∧ servedProcess.Accounted :=
  ⟨by decide +kernel, (descriptors_accounted servedProcess_reachable).1⟩

end PipeProcess

end Ocvsmd.Io
