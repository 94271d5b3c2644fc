import Mathlib.Data.Finset.Card
import Mathlib.Data.Finset.Range
import Mathlib.Data.List.AList
import Ocvsmd.PollTimeout
import Ocvsmd.Runs

/-!
What the executors have registered with the kernel, and the nodes it is registered for. A
node is an object at an address, and the kernel is given the address.
-/

set_option autoImplicit false

namespace Ocvsmd.Platform.Registration

abbrev Addr := Nat

/-- `AwaitableNode`. Without a descriptor it owns nothing. -/
structure AwaitableNode where
  fd : Int32 := -1
  events : UInt32 := 0
  deriving DecidableEq

inductive Interest where
  | events : UInt32 → Interest
  | filter : Int16 → Interest
  deriving DecidableEq

structure Entry where
  fd : Int32
  interest : Interest
  udata : Addr
  deriving DecidableEq

def EPOLLIN : UInt32 := 1
def EPOLLOUT : UInt32 := 4
def EVFILT_READ : UInt32 := (-1 : Int32).toUInt32
def EVFILT_WRITE : UInt32 := (-2 : Int32).toUInt32
def EVFILT_VNODE : UInt32 := (-4 : Int32).toUInt32

inductive EpollOp where
  | add : EpollOp
  | mod : EpollOp
  | del : EpollOp

def epollCtl (op : EpollOp) (fd : Int32) (events : UInt32) (ptr : Addr)
    (set : Finset Entry) : Option (Finset Entry) :=
  let others := set.filter fun e => e.fd ≠ fd
  match op with
  | .add => if others = set then some (insert ⟨fd, .events events, ptr⟩ set) else none
  | .mod => if others = set then none else some (insert ⟨fd, .events events, ptr⟩ others)
  | .del => if others = set then none else some others

inductive KeventOp where
  | add : KeventOp
  | delete : KeventOp

/-- `::kevent`. A pair of a descriptor and a filter is in the set at most once, and is
replaced if it is added again. -/
def kevent (op : KeventOp) (ident : Int32) (filter : Int16) (udata : Addr)
    (set : Finset Entry) : Option (Finset Entry) :=
  let others := set.filter fun e => ¬ (e.fd = ident ∧ e.interest = .filter filter)
  match op with
  | .add => some (insert ⟨ident, .filter filter, udata⟩ others)
  | .delete => if others = set then none else some others

namespace AwaitableNode

def filter (n : AwaitableNode) : Int16 := n.events.toInt32.toInt16

def interest (x : Executor) (n : AwaitableNode) : Interest :=
  match x with
  | .epoll => .events n.events
  | .kqueue => .filter n.filter

def entry (x : Executor) (a : Addr) (n : AwaitableNode) : Entry := ⟨n.fd, n.interest x, a⟩

/-- The kernel call of `setup`. Nothing looks at what such a call returns. -/
def watch (x : Executor) (a : Addr) (n : AwaitableNode) (set : Finset Entry) : Finset Entry :=
  match x with
  | .epoll => (epollCtl .add n.fd n.events a set).getD set
  | .kqueue => (kevent .add n.fd n.filter a set).getD set

def rewatch (x : Executor) (a : Addr) (n : AwaitableNode) (set : Finset Entry) :
    Finset Entry :=
  match x with
  | .epoll => (epollCtl .mod n.fd n.events a set).getD set
  | .kqueue =>
    let set := (kevent .delete n.fd n.filter 0 set).getD set
    (kevent .add n.fd n.filter a set).getD set

def unwatch (x : Executor) (n : AwaitableNode) (set : Finset Entry) : Finset Entry :=
  match x with
  | .epoll => (epollCtl .del n.fd 0 0 set).getD set
  | .kqueue => (kevent .delete n.fd n.filter 0 set).getD set

end AwaitableNode

inductive Trigger where
  | readable : Int32 → Trigger
  | writable : Int32 → Trigger

def Trigger.fd : Trigger → Int32
  | .readable fd => fd
  | .writable fd => fd

def Trigger.events (x : Executor) : Trigger → UInt32
  | .readable _ => match x with | .epoll => EPOLLIN | .kqueue => EVFILT_READ
  | .writable _ => match x with | .epoll => EPOLLOUT | .kqueue => EVFILT_WRITE

structure State where
  nodes : AList fun _ : Addr => AwaitableNode := ∅
  interest : Finset Entry := ∅
  totalAwaitables : UInt64 := 0

namespace State

def construct (a : Addr) (s : State) : State := { s with nodes := s.nodes.insert a {} }

def nodeOf (x : Executor) (fd : Int32) (events : UInt32) : AwaitableNode :=
  match x with
  | .epoll => ⟨fd, events⟩
  | .kqueue => ⟨fd, events ||| EVFILT_VNODE⟩

def setup (x : Executor) (a : Addr) (fd : Int32) (events : UInt32) (s : State) : State where
  nodes := s.nodes.insert a (nodeOf x fd events)
  interest := (nodeOf x fd events).watch x a s.interest
  totalAwaitables := s.totalAwaitables + 1

/-- The move constructor of the node at `dst`. What is left at `src` owns nothing. -/
def moveConstruct (x : Executor) (src dst : Addr) (s : State) : State :=
  match s.nodes.lookup src with
  | none => s
  | some n =>
    { s with
      nodes := (s.nodes.insert src ⟨-1, 0⟩).insert dst n
      interest := if 0 ≤ n.fd then n.rewatch x dst s.interest else s.interest }

def destruct (x : Executor) (a : Addr) (s : State) : State :=
  match s.nodes.lookup a with
  | none => s
  | some n =>
    { nodes := s.nodes.erase a
      interest := if 0 ≤ n.fd then n.unwatch x s.interest else s.interest
      totalAwaitables := if 0 ≤ n.fd then s.totalAwaitables - 1 else s.totalAwaitables }

/-- The node is made here, and moved into the callback that is returned. -/
def registerAwaitableCallback (x : Executor) (here there : Addr) (trigger : Trigger)
    (s : State) : State :=
  (((s.construct here).setup x here trigger.fd (trigger.events x)).moveConstruct x here
    there).destruct x here

def Owns (s : State) (a : Addr) (n : AwaitableNode) : Prop :=
  s.nodes.lookup a = some n ∧ 0 ≤ n.fd

end State

inductive Action where
  | registerAwaitableCallback : Addr → Addr → Trigger → Action
  | move : Addr → Addr → Action
  | destroy : Addr → Action

/-- Only what is alive is moved or destroyed, and nothing is made where something is alive.
A descriptor is not registered while a live node holds it. -/
def Enabled (s : State) : Action → Prop
  | .registerAwaitableCallback here there trigger =>
    here ∉ s.nodes ∧ there ∉ s.nodes ∧ here ≠ there ∧ 0 ≤ trigger.fd ∧
      ∀ a ∈ s.nodes.keys, (s.nodes.lookup a).all fun n => n.fd ≠ trigger.fd
  | .move src dst => src ∈ s.nodes ∧ dst ∉ s.nodes
  | .destroy a => a ∈ s.nodes

instance (s : State) : (a : Action) → Decidable (Enabled s a)
  | .registerAwaitableCallback _ _ _ => inferInstanceAs (Decidable (_ ∧ _))
  | .move _ _ => inferInstanceAs (Decidable (_ ∧ _))
  | .destroy _ => inferInstanceAs (Decidable (_ ∈ _))

def step (x : Executor) (s : State) (a : Action) : Option State :=
  if Enabled s a then
    match a with
    | .registerAwaitableCallback here there trigger =>
      some (s.registerAwaitableCallback x here there trigger)
    | .move src dst => some (s.moveConstruct x src dst)
    | .destroy a => some (s.destruct x a)
  else none

/-- The set has an entry for each owner, at the address of the owner, and nothing else. -/
structure Matches (x : Executor) (owns : Addr → AwaitableNode → Prop)
    (interest : Finset Entry) (total : UInt64) : Prop where
  exact : ∀ e, e ∈ interest ↔ ∃ a n, owns a n ∧ e = n.entry x a
  unshared : ∀ a n a' n', owns a n → owns a' n' → n.fd = n'.fd → a = a' ∧ n = n'
  counted : total.toNat = interest.card

namespace Matches

variable {x : Executor} {owns owns' : Addr → AwaitableNode → Prop} {interest : Finset Entry}
  {total : UInt64}

theorem congr (h : Matches x owns interest total) (heq : ∀ a n, owns' a n ↔ owns a n) :
    Matches x owns' interest total where
  exact := fun e => (h.exact e).trans (by simp only [heq])
  unshared := fun a n a' n' ho ho' =>
    h.unshared a n a' n' ((heq a n).mp ho) ((heq a' n').mp ho')
  counted := h.counted

theorem card_le (h : Matches x owns interest total) : interest.card ≤ 2^32 := by
  have hinj : Set.InjOn (fun e : Entry => e.fd.toBitVec.toNat) interest := by
    intro e he e' he' heq
    obtain ⟨a, n, ho, rfl⟩ := (h.exact e).mp he
    obtain ⟨a', n', ho', rfl⟩ := (h.exact e').mp he'
    have hfd : n.fd = n'.fd := Int32.toBitVec.inj (BitVec.eq_of_toNat_eq heq)
    obtain ⟨rfl, rfl⟩ := h.unshared a n a' n' ho ho' hfd
    rfl
  have hmaps : ∀ e ∈ interest, e.fd.toBitVec.toNat ∈ Finset.range (2^32) :=
    fun e _ => Finset.mem_range.mpr e.fd.toBitVec.isLt
  simpa using Finset.card_le_card_of_injOn _ hmaps hinj

theorem entry_of_fd (h : Matches x owns interest total) {a : Addr} {n : AwaitableNode}
    (ho : owns a n) {e : Entry} (he : e ∈ interest) (hfd : e.fd = n.fd) :
    e = n.entry x a := by
  obtain ⟨a', n', ho', rfl⟩ := (h.exact e).mp he
  obtain ⟨rfl, rfl⟩ := h.unshared a' n' a n ho' ho hfd
  rfl

theorem entry_mem (h : Matches x owns interest total) {a : Addr} {n : AwaitableNode}
    (ho : owns a n) : n.entry x a ∈ interest := (h.exact _).mpr ⟨a, n, ho, rfl⟩

theorem filter_eq_erase (h : Matches x owns interest total) {a : Addr} {n : AwaitableNode}
    (ho : owns a n) {p : Entry → Prop} [DecidablePred p] (hp : p (n.entry x a))
    (hfd : ∀ e, p e → e.fd = n.fd) :
    (interest.filter fun e => ¬ p e) = interest.erase (n.entry x a) := by
  ext e
  rw [Finset.mem_filter, Finset.mem_erase]
  constructor
  · rintro ⟨he, hne⟩
    exact ⟨fun heq => hne (heq ▸ hp), he⟩
  · rintro ⟨hne, he⟩
    exact ⟨he, fun hpe => hne (h.entry_of_fd ho he (hfd e hpe))⟩

theorem erase_ne (h : Matches x owns interest total) {a : Addr} {n : AwaitableNode}
    (ho : owns a n) : interest.erase (n.entry x a) ≠ interest :=
  fun heq => Finset.erase_eq_self.mp heq (h.entry_mem ho)

theorem gains (h : Matches x owns interest total) (b : Addr) {m : AwaitableNode}
    (hnew : ∀ a n, owns a n → n.fd ≠ m.fd) :
    Matches x (fun a n => (a = b ∧ n = m) ∨ owns a n) (insert (m.entry x b) interest)
      (total + 1) where
  exact := fun e => by
    rw [Finset.mem_insert, h.exact]
    constructor
    · rintro (rfl | ⟨a, n, ho, rfl⟩)
      · exact ⟨b, m, Or.inl ⟨rfl, rfl⟩, rfl⟩
      · exact ⟨a, n, Or.inr ho, rfl⟩
    · rintro ⟨a, n, ⟨rfl, rfl⟩ | ho, rfl⟩
      · exact Or.inl rfl
      · exact Or.inr ⟨a, n, ho, rfl⟩
  unshared := by
    rintro a n a' n' (⟨rfl, rfl⟩ | ho) (⟨rfl, rfl⟩ | ho') hfd
    · exact ⟨rfl, rfl⟩
    · exact absurd hfd.symm (hnew a' n' ho')
    · exact absurd hfd (hnew a n ho)
    · exact h.unshared a n a' n' ho ho' hfd
  counted := by
    have hfresh : m.entry x b ∉ interest := fun he => by
      obtain ⟨a, n, ho, heq⟩ := (h.exact _).mp he
      exact hnew a n ho (congrArg Entry.fd heq).symm
    have hle := h.card_le
    have hcount := h.counted
    rw [Finset.card_insert_of_notMem hfresh, ← hcount, UInt64.toNat_add]
    exact Nat.mod_eq_of_lt (by simp; omega)

theorem loses (h : Matches x owns interest total) {b : Addr} {m : AwaitableNode}
    (hb : ∀ n, owns b n ↔ n = m) :
    Matches x (fun a n => owns a n ∧ a ≠ b) (interest.erase (m.entry x b)) (total - 1) where
  exact := fun e => by
    rw [Finset.mem_erase, h.exact]
    constructor
    · rintro ⟨hne, a, n, ho, rfl⟩
      refine ⟨a, n, ⟨ho, ?_⟩, rfl⟩
      rintro rfl
      exact hne (by rw [(hb n).mp ho])
    · rintro ⟨a, n, ⟨ho, hne⟩, rfl⟩
      exact ⟨fun heq => hne (congrArg Entry.udata heq), a, n, ho, rfl⟩
  unshared := fun a n a' n' ho ho' => h.unshared a n a' n' ho.1 ho'.1
  counted := by
    have hmem := h.entry_mem ((hb m).mpr rfl)
    have hpos := Finset.card_pos.mpr ⟨_, hmem⟩
    have hcount := h.counted
    rw [Finset.card_erase_of_mem hmem, ← hcount, UInt64.toNat_sub_of_le]
    · rfl
    · rw [UInt64.le_iff_toNat_le]
      show 1 ≤ total.toNat
      omega

theorem passes (h : Matches x owns interest total) {src dst : Addr} {m : AwaitableNode}
    (hsrc : ∀ n, owns src n ↔ n = m) :
    Matches x (fun a n => (a = dst ∧ n = m) ∨ (owns a n ∧ a ≠ src))
      (insert (m.entry x dst) (interest.erase (m.entry x src))) total := by
  have hpassed := (h.loses hsrc).gains dst (m := m) fun a n ho hfd =>
    ho.2 (h.unshared a n src m ho.1 ((hsrc m).mpr rfl) hfd).1
  rwa [UInt64.sub_add_cancel] at hpassed

end Matches

namespace AwaitableNode

variable {x : Executor} {owns : Addr → AwaitableNode → Prop} {interest : Finset Entry}
  {total : UInt64}

theorem watch_eq (x : Executor) {n : AwaitableNode}
    (hnew : ∀ e ∈ interest, e.fd ≠ n.fd) (a : Addr) :
    n.watch x a interest = insert (n.entry x a) interest := by
  cases x with
  | epoll =>
    have hall : (interest.filter fun e => e.fd ≠ n.fd) = interest :=
      Finset.filter_true_of_mem hnew
    simp only [watch, epollCtl, hall, if_true, Option.getD_some]
    rfl
  | kqueue =>
    have hall : (interest.filter fun e => ¬ (e.fd = n.fd ∧ e.interest = .filter n.filter)) =
        interest := Finset.filter_true_of_mem fun e he h => hnew e he h.1
    simp only [watch, kevent, hall, Option.getD_some]
    rfl

theorem unwatch_eq (h : Matches x owns interest total) {a : Addr} {n : AwaitableNode}
    (ho : owns a n) : n.unwatch x interest = interest.erase (n.entry x a) := by
  cases x with
  | epoll =>
    have hall := h.filter_eq_erase ho (p := fun e => e.fd = n.fd) rfl fun _ => id
    simp only [unwatch, epollCtl, ne_eq, hall, h.erase_ne ho, if_false, Option.getD_some]
  | kqueue =>
    have hall := h.filter_eq_erase ho
      (p := fun e => e.fd = n.fd ∧ e.interest = .filter n.filter) ⟨rfl, rfl⟩ fun _ h => h.1
    simp only [unwatch, kevent, hall, h.erase_ne ho, if_false, Option.getD_some]

theorem rewatch_eq (h : Matches x owns interest total) {src : Addr} {n : AwaitableNode}
    (ho : owns src n) (dst : Addr) :
    n.rewatch x dst interest = insert (n.entry x dst) (interest.erase (n.entry x src)) := by
  cases x with
  | epoll =>
    have hall := h.filter_eq_erase ho (p := fun e => e.fd = n.fd) rfl fun _ => id
    simp only [rewatch, epollCtl, ne_eq, hall, h.erase_ne ho, if_false, Option.getD_some]
    rfl
  | kqueue =>
    -- deleted, and added again at the new address
    have hdeleted := unwatch_eq h ho
    have hnew : ∀ e ∈ interest.erase (n.entry .kqueue src), e.fd ≠ n.fd := fun e he hfd =>
      (Finset.mem_erase.mp he).1 (h.entry_of_fd ho (Finset.mem_erase.mp he).2 hfd)
    have hadded := watch_eq .kqueue hnew dst
    rw [← hdeleted] at hadded ⊢
    exact hadded

end AwaitableNode

namespace State

def Wf (x : Executor) (s : State) : Prop :=
  Matches x s.Owns s.interest s.totalAwaitables

theorem fd_nodeOf (x : Executor) (fd : Int32) (events : UInt32) :
    (nodeOf x fd events).fd = fd := by cases x <;> rfl

theorem owns_unique {s : State} {a : Addr} {m : AwaitableNode} (h : s.Owns a m)
    (n : AwaitableNode) : s.Owns a n ↔ n = m := by
  constructor
  · exact fun hn => Option.some.inj (hn.1.symm.trans h.1)
  · rintro rfl
    exact h

theorem lookup_insert (m : AList fun _ : Addr => AwaitableNode) (a b : Addr)
    (n : AwaitableNode) : (m.insert a n).lookup b = if b = a then some n else m.lookup b := by
  split
  · next h => rw [h, AList.lookup_insert]
  · next h => exact AList.lookup_insert_ne h

theorem Wf.construct {x : Executor} {s : State} (h : s.Wf x) {a : Addr} (ha : a ∉ s.nodes) :
    (s.construct a).Wf x := by
  refine Matches.congr h fun b n => ?_
  simp only [Owns, State.construct, lookup_insert]
  by_cases hb : b = a
  · subst hb
    simp only [if_true, AList.lookup_eq_none.mpr ha, Option.some.injEq, reduceCtorEq,
      false_and, iff_false]
    rintro ⟨rfl, hfd⟩
    exact absurd hfd (by decide)
  · rw [if_neg hb]

theorem Wf.setup {x : Executor} {s : State} (h : s.Wf x) {a : Addr} {fd : Int32}
    (events : UInt32) (ha : s.nodes.lookup a = some {}) (hfd : 0 ≤ fd)
    (hnew : ∀ b n, s.Owns b n → n.fd ≠ fd) : (s.setup x a fd events).Wf x := by
  have hentries : ∀ e ∈ s.interest, e.fd ≠ (nodeOf x fd events).fd := fun e he => by
    obtain ⟨b, n, ho, rfl⟩ := (h.exact e).mp he
    rw [fd_nodeOf]
    exact hnew b n ho
  have hgains := Matches.gains h a (m := nodeOf x fd events) (by rwa [fd_nodeOf])
  rw [Wf, State.setup, AwaitableNode.watch_eq x hentries a]
  refine hgains.congr fun b n => ?_
  simp only [Owns, lookup_insert]
  by_cases hb : b = a
  · subst hb
    simp only [if_true, Option.some.injEq, true_and, ha]
    constructor
    · rintro ⟨rfl, -⟩
      exact Or.inl rfl
    · rintro (rfl | ⟨rfl, hneg⟩)
      · exact ⟨rfl, by rwa [fd_nodeOf]⟩
      · exact absurd hneg (by decide)
  · simp [hb]

theorem owns_moved {s : State} {src dst : Addr} {m : AwaitableNode}
    (hm : s.nodes.lookup src = some m) (hdst : dst ∉ s.nodes) (interest : Finset Entry)
    (b : Addr) (n : AwaitableNode) :
    Owns ⟨(s.nodes.insert src ⟨-1, 0⟩).insert dst m, interest, s.totalAwaitables⟩ b n ↔
      ((b = dst ∧ n = m) ∧ 0 ≤ m.fd) ∨ (s.Owns b n ∧ b ≠ src) := by
  have hnone := AList.lookup_eq_none.mpr hdst
  simp only [Owns, lookup_insert]
  by_cases hb : b = dst
  · subst hb
    simp only [if_true, Option.some.injEq, hnone, reduceCtorEq, false_and, or_false, true_and]
    constructor
    · rintro ⟨rfl, hfd⟩
      exact ⟨rfl, hfd⟩
    · rintro ⟨rfl, hfd⟩
      exact ⟨rfl, hfd⟩
  · by_cases hs : b = src
    · subst hs
      simp only [hb, if_false, if_true, Option.some.injEq, false_and, ne_eq,
        not_true_eq_false, and_false, or_false, iff_false]
      rintro ⟨rfl, hneg⟩
      exact absurd hneg (by decide)
    · simp [hb, hs]

theorem Wf.moveConstruct {x : Executor} {s : State} (h : s.Wf x) {src dst : Addr}
    (hsrc : src ∈ s.nodes) (hdst : dst ∉ s.nodes) : (s.moveConstruct x src dst).Wf x := by
  obtain ⟨m, hm⟩ := Option.isSome_iff_exists.mp (AList.lookup_isSome.mpr hsrc)
  unfold State.moveConstruct
  rw [hm]
  by_cases hfd : 0 ≤ m.fd
  · have ho : s.Owns src m := ⟨hm, hfd⟩
    simp only [Wf, if_pos hfd, AwaitableNode.rewatch_eq h ho dst]
    refine (Matches.passes h (owns_unique ho)).congr fun b n => ?_
    simp [owns_moved hm hdst, hfd]
  · simp only [Wf, if_neg hfd]
    refine Matches.congr h fun b n => ?_
    simp only [owns_moved hm hdst, hfd, and_false, false_or, ne_eq, and_iff_left_iff_imp]
    rintro ho rfl
    exact hfd (Option.some.inj (ho.1.symm.trans hm) ▸ ho.2)

theorem lookup_erase (m : AList fun _ : Addr => AwaitableNode) (a b : Addr) :
    (m.erase a).lookup b = if b = a then none else m.lookup b := by
  split
  · next h => rw [h, AList.lookup_erase]
  · next h => exact AList.lookup_erase_ne h

theorem Wf.destruct {x : Executor} {s : State} (h : s.Wf x) {a : Addr} (ha : a ∈ s.nodes) :
    (s.destruct x a).Wf x := by
  obtain ⟨m, hm⟩ := Option.isSome_iff_exists.mp (AList.lookup_isSome.mpr ha)
  have howns : ∀ b n, (Owns ⟨s.nodes.erase a, s.interest, s.totalAwaitables⟩ b n) ↔
      s.Owns b n ∧ b ≠ a := by
    intro b n
    simp only [Owns, lookup_erase]
    by_cases hb : b = a <;> simp [hb]
  unfold State.destruct
  rw [hm]
  by_cases hfd : 0 ≤ m.fd
  · have ho : s.Owns a m := ⟨hm, hfd⟩
    simp only [Wf, if_pos hfd, AwaitableNode.unwatch_eq h ho]
    exact (Matches.loses h (owns_unique ho)).congr howns
  · simp only [Wf, if_neg hfd]
    refine Matches.congr h fun b n => (howns b n).trans ?_
    constructor
    · exact And.left
    · refine fun ho => ⟨ho, ?_⟩
      rintro rfl
      exact hfd (by rw [← Option.some.inj (ho.1.symm.trans hm)]; exact ho.2)

theorem Wf.registerAwaitableCallback {x : Executor} {s : State} (h : s.Wf x)
    {here there : Addr} {trigger : Trigger} (hhere : here ∉ s.nodes) (hthere : there ∉ s.nodes)
    (hne : here ≠ there) (hfd : 0 ≤ trigger.fd)
    (hnew : ∀ b n, s.Owns b n → n.fd ≠ trigger.fd) :
    (s.registerAwaitableCallback x here there trigger).Wf x := by
  have hmade := h.construct hhere
  have hlookup : (s.construct here).nodes.lookup here = some {} := by
    simp [State.construct]
  have hothers : ∀ b n, (s.construct here).Owns b n → n.fd ≠ trigger.fd := by
    intro b n ho
    obtain ⟨hb, hpos⟩ := ho
    rw [State.construct, lookup_insert] at hb
    split at hb
    · cases hb
      exact absurd hpos (by decide)
    · exact hnew b n ⟨hb, hpos⟩
  have hset := hmade.setup (trigger.events x) hlookup hfd hothers
  have hmoved : (((s.construct here).setup x here trigger.fd (trigger.events x)).moveConstruct
      x here there).Wf x := hset.moveConstruct (by simp [State.setup, State.construct])
    (by simp [State.setup, State.construct, hthere, Ne.symm hne])
  refine hmoved.destruct ?_
  unfold State.moveConstruct
  split
  · next hnone => simp [State.setup] at hnone
  · simp

end State

theorem wf_step {x : Executor} {s s' : State} {a : Action} (h : s.Wf x)
    (hs : step x s a = some s') : s'.Wf x := by
  unfold step at hs
  split at hs
  · next hen =>
    cases a with
    | registerAwaitableCallback here there trigger =>
      cases hs
      obtain ⟨hhere, hthere, hne, hfd, hnew⟩ := hen
      refine h.registerAwaitableCallback hhere hthere hne hfd fun b n ho => ?_
      have hb := hnew b (AList.lookup_isSome.mp (by rw [ho.1]; rfl))
      simpa [ho.1] using hb
    | move src dst =>
      cases hs
      exact h.moveConstruct hen.1 hen.2
    | destroy a =>
      cases hs
      exact h.destruct hen
  · cases hs

theorem wf_init (x : Executor) : ({} : State).Wf x where
  exact := fun e => by simp [State.Owns]
  unshared := by
    rintro a n a' n' ⟨h, -⟩
    simp at h
  counted := rfl

/-- Whatever was registered, moved and destroyed: each live node with a descriptor has its
entry, with its events and its address, and there is no other. The counter counts them,
and is not zero when the next of them goes. -/
theorem registrations_match_nodes (x : Executor) {s : State}
    (h : Runs.Reachable (step x) {} s) :
    (∀ e, e ∈ s.interest ↔ ∃ a n, s.nodes.lookup a = some n ∧ 0 ≤ n.fd ∧
      e = ⟨n.fd, n.interest x, a⟩) ∧
    s.totalAwaitables.toNat = s.interest.card ∧
    ∀ a n, s.nodes.lookup a = some n → 0 ≤ n.fd →
      (∃! e, e ∈ s.interest ∧ e.fd = n.fd) ∧ 0 < s.totalAwaitables.toNat := by
  have hw : s.Wf x := h.invariant (wf_init x) fun hs => wf_step hs
  refine ⟨fun e => (hw.exact e).trans ?_, hw.counted, fun a n ha hfd => ?_⟩
  · simp only [State.Owns, and_assoc]
    rfl
  · have ho : s.Owns a n := ⟨ha, hfd⟩
    refine ⟨⟨n.entry x a, ⟨hw.entry_mem ho, rfl⟩, fun e he => ?_⟩, ?_⟩
    · exact hw.entry_of_fd ho he.1 he.2
    · rw [hw.counted]
      exact Finset.card_pos.mpr ⟨_, hw.entry_mem ho⟩

/-- A socket is registered for reading, and the callback is moved once more. -/
theorem registrations_match_moved :
    ∃ s, Runs.run (step .kqueue) {}
        [.registerAwaitableCallback 1 2 (.readable 3), .move 2 4] = some s ∧
      s.interest = {⟨3, .filter (-1), 4⟩} ∧ s.totalAwaitables.toNat = s.interest.card := by
  refine ⟨_, rfl, by decide, ?_⟩
  exact (registrations_match_nodes .kqueue
    ⟨[.registerAwaitableCallback 1 2 (.readable 3), .move 2 4], rfl⟩).2.1

end Ocvsmd.Platform.Registration
