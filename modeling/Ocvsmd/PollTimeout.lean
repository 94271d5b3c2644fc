import Mathlib.Data.List.TakeWhile
import Ocvsmd.Chrono

/-!
How long the executors wait for their resources, and what the run loops ask of them.
Durations are microseconds, as `libcyphal::Duration` is.
-/

set_option autoImplicit false

namespace Ocvsmd.Platform

inductive Executor where
  | epoll : Executor
  | kqueue : Executor
  deriving DecidableEq

structure Timespec where
  tvSec : Int64 := 0
  tvNsec : Int64 := 0
  deriving DecidableEq

/-- What a poll waits with. The kernel waits for ever without a timespec, or with a
negative number of milliseconds. -/
inductive Wait where
  | argumentError : Wait
  | sleepFor : Int64 → Wait
  | epollWait : Int32 → Wait
  | kevent : Option Timespec → Wait
  deriving DecidableEq

def IntMax : Int64 := 2147483647

def TimeoutNsMax : Int64 := 9223372036854775807

namespace Executor

def clampedTimeoutMs : Option Int64 → Int32
  | none => -1
  | some timeout => (max 0 (min (Chrono.coarsen 1000 timeout) IntMax)).toInt32

/-- The timeout of `::kevent`, unless its nanoseconds overflow. All of it is in `tv_nsec`. -/
def timeoutSpec (timeout : Int64) : Option Timespec :=
  (Chrono.refine 1000 timeout).map fun ns => { tvNsec := max 0 (min ns TimeoutNsMax) }

/-- Without awaitables there is nothing to wait for but the time. -/
def pollAwaitableResourcesFor (x : Executor) (totalAwaitables : UInt64)
    (timeout : Option Int64) : Option Wait :=
  if totalAwaitables = 0 then
    match timeout with
    | none => some .argumentError
    | some timeout => some (.sleepFor timeout)
  else
    match x, timeout with
    | .epoll, timeout => some (.epollWait (clampedTimeoutMs timeout))
    | .kqueue, none => some (.kevent none)
    | .kqueue, some timeout => (timeoutSpec timeout).map fun spec => .kevent (some spec)

end Executor

/-- One round of a run loop: what the predicate says before the spin and after it, what the
spin returns, the time then, and how many awaitables the executor has. -/
structure Round where
  predicate : Bool
  predicateAfter : Bool
  nextExecTime : Option Int64
  now : Int64
  totalAwaitables : UInt64

/-- At least once per second, or sooner if something is to be executed. -/
def Round.timeout (r : Round) : Option Int64 :=
  match r.nextExecTime with
  | none => some 1000000
  | some next => (Chrono.sub next r.now).map (min 1000000)

abbrev Polled := Option Int64 × Option Wait

def pollWhile (goesOn : Round → Bool) (x : Executor) : List Round → List Polled
  | [] => []
  | r :: rounds =>
    if goesOn r then
      (r.timeout, r.timeout.bind fun t => x.pollAwaitableResourcesFor r.totalAwaitables (some t))
        :: pollWhile goesOn x rounds
    else []

def runWhile : Executor → List Round → List Polled := pollWhile fun r => r.predicate

/-- The spin itself may fulfil the predicate. -/
def waitPollingUntil : Executor → List Round → List Polled :=
  pollWhile fun r => !r.predicate && !r.predicateAfter

/-- A wait that the kernel accepts, and that is not longer than asked: whole milliseconds,
or a normalised timespec that is the timeout itself. -/
def Wait.Honours (timeout : Int64) : Wait → Prop
  | .argumentError => False
  | .sleepFor duration => duration = timeout
  | .epollWait ms =>
    0 ≤ ms.toInt ∧ ms.toInt ≤ 2^31 - 1 ∧ ms.toInt * 1000 ≤ max 0 timeout.toInt
  | .kevent none => False
  | .kevent (some spec) =>
    0 ≤ spec.tvSec.toInt ∧ 0 ≤ spec.tvNsec.toInt ∧ spec.tvNsec.toInt ≤ 999999999 ∧
      spec.tvSec.toInt * 1000000000 + spec.tvNsec.toInt = max 0 timeout.toInt * 1000

def Polled.Valid (p : Polled) : Prop :=
  ∃ timeout wait, p = (some timeout, some wait) ∧ wait.Honours timeout

/-- What `kqueue` is given has to be less than a second, and to fit when it is negative. -/
def Executor.Converts (x : Executor) (totalAwaitables : UInt64) (timeout : Int) : Prop :=
  x = .kqueue → totalAwaitables ≠ 0 → -9223372036854775 ≤ timeout ∧ timeout ≤ 999999

def Round.Converts (x : Executor) (r : Round) : Prop :=
  match r.nextExecTime with
  | none => x = .kqueue → r.totalAwaitables = 0
  | some next => -2^63 ≤ next.toInt - r.now.toInt ∧ next.toInt - r.now.toInt < 2^63 ∧
      x.Converts r.totalAwaitables (next.toInt - r.now.toInt)

theorem toInt_clampedTimeoutMs (timeout : Int64) :
    (Executor.clampedTimeoutMs (some timeout)).toInt =
      max 0 (min (timeout.toInt.tdiv 1000) 2147483647) := by
  have hval : (max 0 (min (Chrono.coarsen 1000 timeout) IntMax)).toInt =
      max 0 (min (timeout.toInt.tdiv 1000) 2147483647) := by
    rw [Chrono.toInt_max, Chrono.toInt_min, Chrono.toInt_coarsen]
    rfl
  rw [Executor.clampedTimeoutMs, Int64.toInt_toInt32, hval]
  exact Int.bmod_eq_of_le (by omega) (by omega)

theorem epollWait_honours (timeout : Int64) :
    (Wait.epollWait (Executor.clampedTimeoutMs (some timeout))).Honours timeout := by
  rw [Wait.Honours, toInt_clampedTimeoutMs]
  refine ⟨by omega, by omega, ?_⟩
  rcases Int.le_total 0 timeout.toInt with h | h
  · have hle := Chrono.coarsen_mul_le (k := 1000) h
    simp only [Chrono.toInt_coarsen, Int.cast_ofNat_Int] at hle
    omega
  · have hneg := Chrono.coarsen_nonpos (k := 1000) h
    simp only [Chrono.toInt_coarsen, Int.cast_ofNat_Int] at hneg
    omega

/-- `tv_sec` is never set, so that a second or more is not normalised. -/
theorem timeoutSpec_honours_iff (timeout : Int64) :
    (∃ spec, Executor.timeoutSpec timeout = some spec ∧
      (Wait.kevent (some spec)).Honours timeout) ↔
      -9223372036854775 ≤ timeout.toInt ∧ timeout.toInt ≤ 999999 := by
  have hmax : TimeoutNsMax.toInt = 9223372036854775807 := rfl
  have hzero : (0 : Int64).toInt = 0 := rfl
  unfold Executor.timeoutSpec
  constructor
  · rintro ⟨spec, hspec, -, -, hle, heq⟩
    obtain ⟨ns, hns, rfl⟩ := Option.map_eq_some_iff.mp hspec
    have hval := Chrono.checked_eq_some.mp hns
    have hlow := ns.le_toInt
    have hhigh := ns.toInt_lt
    simp only [Chrono.toInt_max, Chrono.toInt_min, hmax, hzero] at hle heq
    omega
  · rintro ⟨hlow, hhigh⟩
    obtain ⟨ns, hns⟩ := Chrono.exists_checked (x := timeout.toInt * (1000 : Nat)) |>.mpr
      ⟨by omega, by omega⟩
    have hval := Chrono.checked_eq_some.mp hns
    refine ⟨_, Option.map_eq_some_iff.mpr ⟨ns, hns, rfl⟩, ?_⟩
    simp only [Wait.Honours, Chrono.toInt_max, Chrono.toInt_min, hmax, hzero]
    omega

theorem poll_honours_iff (x : Executor) (totalAwaitables : UInt64) (timeout : Int64) :
    (∃ wait, x.pollAwaitableResourcesFor totalAwaitables (some timeout) = some wait ∧
      wait.Honours timeout) ↔ x.Converts totalAwaitables timeout.toInt := by
  unfold Executor.pollAwaitableResourcesFor Executor.Converts
  by_cases hzero : totalAwaitables = 0
  · simp [hzero, Wait.Honours]
  · rw [if_neg hzero]
    cases x with
    | epoll => simp [epollWait_honours]
    | kqueue =>
      simp only [Option.map_eq_some_iff, ne_eq, hzero, not_false_eq_true, true_imp_iff,
        ← timeoutSpec_honours_iff]
      constructor
      · rintro ⟨_, ⟨spec, hspec, rfl⟩, h⟩
        exact ⟨spec, hspec, h⟩
      · rintro ⟨spec, hspec, h⟩
        exact ⟨_, ⟨spec, hspec, rfl⟩, h⟩

theorem polled_valid_iff (x : Executor) (totalAwaitables : UInt64) (timeout : Option Int64) :
    Polled.Valid (timeout, timeout.bind fun t =>
      x.pollAwaitableResourcesFor totalAwaitables (some t)) ↔
      ∃ t, timeout = some t ∧ x.Converts totalAwaitables t.toInt := by
  constructor
  · rintro ⟨t, w, h, hw⟩
    obtain ⟨ht, hpoll⟩ := Prod.mk.inj h
    rw [ht, Option.bind_some] at hpoll
    exact ⟨t, ht, (poll_honours_iff x _ t).mp ⟨w, hpoll, hw⟩⟩
  · rintro ⟨t, ht, hconv⟩
    obtain ⟨w, hpoll, hw⟩ := (poll_honours_iff x _ t).mpr hconv
    exact ⟨t, w, by rw [ht, Option.bind_some, hpoll], hw⟩

/-- A second is just what `kqueue` cannot be given, and the loops ask for it. -/
theorem round_valid_iff (x : Executor) (r : Round) :
    Polled.Valid (r.timeout, r.timeout.bind fun t =>
      x.pollAwaitableResourcesFor r.totalAwaitables (some t)) ↔ r.Converts x := by
  have hsecond : (1000000 : Int64).toInt = 1000000 := rfl
  rw [polled_valid_iff]
  unfold Round.timeout Round.Converts
  cases r.nextExecTime with
  | none =>
    simp only [Option.some.injEq, exists_eq_left', hsecond, Executor.Converts]
    constructor
    · intro h hx
      by_contra hne
      have := (h hx hne).2
      omega
    · exact fun h hx hne => absurd (h hx) hne
  | some next =>
    simp only [Option.map_eq_some_iff, Chrono.sub, Chrono.checked_eq_some]
    constructor
    · rintro ⟨_, ⟨t, ht, rfl⟩, hconv⟩
      have hlow := t.le_toInt
      have hhigh := t.toInt_lt
      refine ⟨by omega, by omega, fun hx hne => ?_⟩
      have := hconv hx hne
      rw [Chrono.toInt_min, hsecond] at this
      omega
    · rintro ⟨hlow, hhigh, hconv⟩
      obtain ⟨t, ht⟩ := Chrono.exists_checked.mpr ⟨hlow, hhigh⟩
      have hval := Chrono.checked_eq_some.mp ht
      refine ⟨_, ⟨t, hval, rfl⟩, fun hx hne => ?_⟩
      have := hconv hx hne
      rw [Chrono.toInt_min, hsecond]
      omega

theorem pollWhile_valid_iff (goesOn : Round → Bool) (x : Executor) (rounds : List Round) :
    (∀ p ∈ pollWhile goesOn x rounds, p.Valid) ↔
      ∀ r ∈ rounds.takeWhile goesOn, r.Converts x := by
  induction rounds with
  | nil => simp [pollWhile]
  | cons r rounds ih =>
    unfold pollWhile
    by_cases hr : goesOn r = true
    · rw [if_pos hr, List.takeWhile_cons_of_pos hr, List.forall_mem_cons, List.forall_mem_cons,
        ih, round_valid_iff]
    · rw [if_neg hr, List.takeWhile_cons_of_neg hr]
      simp

/-- When the kernel is handed a valid wait: by a poll for any duration, and by all the
polls of a run loop. -/
theorem waits_valid_iff (x : Executor) :
    (∀ totalAwaitables timeout,
      (∃ wait, x.pollAwaitableResourcesFor totalAwaitables (some timeout) = some wait ∧
        wait.Honours timeout) ↔ x.Converts totalAwaitables timeout.toInt) ∧
    (∀ rounds, (∀ p ∈ runWhile x rounds, p.Valid) ↔
      ∀ r ∈ rounds.takeWhile fun r => r.predicate, r.Converts x) ∧
    ∀ rounds, (∀ p ∈ waitPollingUntil x rounds, p.Valid) ↔
      ∀ r ∈ rounds.takeWhile fun r => !r.predicate && !r.predicateAfter, r.Converts x :=
  ⟨poll_honours_iff x, pollWhile_valid_iff _ x, pollWhile_valid_iff _ x⟩

/-- With an awaitable and nothing to be executed, a loop on `kqueue` asks for a second. It
is given as a thousand million nanoseconds, which is not a valid timespec. -/
theorem second_not_normalised : ¬ ∀ (x : Executor) (rounds : List Round),
    ∀ p ∈ runWhile x rounds, p.Valid := by
  intro h
  obtain ⟨timeout, wait, hp, hw⟩ := h .kqueue
    [{ predicate := true, predicateAfter := true, nextExecTime := none, now := 0,
       totalAwaitables := 1 }]
    (some 1000000, some (.kevent (some { tvNsec := 1000000000 }))) (by decide)
  cases hp
  exact absurd hw.2.2.1 (by decide)

end Ocvsmd.Platform
