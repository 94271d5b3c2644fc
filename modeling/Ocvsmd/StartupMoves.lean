import Ocvsmd.Startup

set_option autoImplicit false

namespace Ocvsmd.Startup

open Ipc (Bytes Errno)
open CString (text cstr)
open Engine (ConfigImpl InitAnswers)

def callFailures : List Bytes :=
  ["Failed to setsid: ", "Failed to fork: ", "Failed to open(/dev/null): ",
    "Failed to chdir(/): ", "Failed to create on PID file: ", "Failed to lock PID file: ",
    "Failed to ftruncate PID file: ", "Failed to write to PID file: "].map
      fun s => text s.toList

/-- What a process writes before it exits with a failure. -/
inductive Report (env : Env) : List Bytes → Prop
  | call {msg : Bytes} (e : Errno) : msg ∈ callFailures → Report env [msg, env.strerror e]
  | config (path what : Bytes) : Report env
      [text "Failed to load configuration file (path='".toList ++ path ++
        text "').\n".toList ++ what]
  | configUnknown : Report env [text "Failed to load configuration file.".toList]
  | logging (what : Bytes) : Report env [text "Failed to setup logging: ".toList, what]
  | engine (failureStr : Bytes) : Report env [text "Failed to init engine: ".toList, failureStr]

theorem Report.length_le {env : Env} {report : List Bytes} (h : Report env report) :
    report.length ≤ 2 := by
  cases h <;> simp

theorem Report.head {env : Env} {report : List Bytes} (h : Report env report) :
    ∃ t rest, report.map cstr = (70 :: t) :: rest := by
  cases h with
  | call e hmsg =>
    have hall : ∀ msg ∈ callFailures, ∃ t, cstr msg = 70 :: t := by
      intro msg hmem
      have hhead : (cstr msg).head? = some 70 := by
        revert msg
        decide
      obtain ⟨t, ht⟩ := List.head?_eq_some_iff.mp hhead
      exact ⟨t, ht⟩
    obtain ⟨t, ht⟩ := hall _ hmsg
    exact ⟨t, [cstr (env.strerror e)], by rw [List.map_cons, ht]; rfl⟩
  | config path what => exact ⟨_, _, rfl⟩
  | configUnknown => exact ⟨_, _, rfl⟩
  | logging what => exact ⟨_, _, rfl⟩
  | engine failureStr => exact ⟨_, _, rfl⟩

inductive ChildStep.Fails (env : Env) : ChildStep → Answer → List Bytes → Prop
  | createNewSession (e : Errno) : Fails env .createNewSession (.error e)
      [text "Failed to setsid: ".toList, env.strerror e]
  | forkAgain (e : Errno) : Fails env .forkAgain (.error e)
      [text "Failed to fork: ".toList, env.strerror e]

inductive DaemonStep.Fails (env : Env) (args : List Bytes) :
    DaemonStep → Answer → List Bytes → Prop
  | redirectStdio (e : Errno) : Fails env args .redirectStdio (.error e)
      [text "Failed to open(/dev/null): ".toList, env.strerror e]
  | changeCurrDir (e : Errno) : Fails env args .changeCurrDir (.error e)
      [text "Failed to chdir(/): ".toList, env.strerror e]
  | openPidFile (e : Errno) : Fails env args .openPidFile (.error e)
      [text "Failed to create on PID file: ".toList, env.strerror e]
  | lockPidFile (fd : Nat) (e : Errno) : Fails env args (.lockPidFile fd) (.error e)
      [text "Failed to lock PID file: ".toList, env.strerror e]
  | truncatePidFile (fd : Nat) (e : Errno) : Fails env args (.truncatePidFile fd) (.error e)
      [text "Failed to ftruncate PID file: ".toList, env.strerror e]
  | writePidFile (fd : Nat) (e : Errno) : Fails env args (.writePidFile fd) (.error e)
      [text "Failed to write to PID file: ".toList, env.strerror e]
  | writeShort (fd n : Nat) (e : Errno) : Fails env args (.writePidFile fd) (.short n e)
      [text "Failed to write to PID file: ".toList, env.strerror e]
  | loadConfig (what : Bytes) : Fails env args .loadConfig (.throws what)
      [text "Failed to load configuration file (path='".toList ++ cfgFilePath args ++
        text "').\n".toList ++ what]
  | loadUnknown : Fails env args .loadConfig .throwsOther
      [text "Failed to load configuration file.".toList]
  | setupLogging (c : ConfigImpl) (what : Bytes) : Fails env args (.setupLogging c)
      (.throws what) [text "Failed to setup logging: ".toList, what]
  | initEngine {c : ConfigImpl} {a : InitAnswers} {file : Option Toml.Bytes}
      {failureStr : Bytes} :
      (Engine.Engine.init env.toml env.inet a file c).1 = some (.error failureStr) →
        Fails env args (.initEngine c) (.init a file)
          [text "Failed to init engine: ".toList, failureStr]

theorem ChildStep.Fails.report {env : Env} {s : ChildStep} {a : Answer} {report : List Bytes}
    (h : s.Fails env a report) : Report env report := by
  cases h with
  | createNewSession e => exact .call e (by decide)
  | forkAgain e => exact .call e (by decide)

theorem DaemonStep.Fails.report {env : Env} {args : List Bytes} {s : DaemonStep} {a : Answer}
    {report : List Bytes} (h : s.Fails env args a report) : Report env report := by
  cases h with
  | loadConfig what => exact .config _ what
  | loadUnknown => exact .configUnknown
  | setupLogging c what => exact .logging what
  | initEngine hinit => exact .engine _
  | redirectStdio e => exact .call e (by decide)
  | changeCurrDir e => exact .call e (by decide)
  | openPidFile e => exact .call e (by decide)
  | lockPidFile fd e => exact .call e (by decide)
  | truncatePidFile fd e => exact .call e (by decide)
  | writePidFile fd e => exact .call e (by decide)
  | writeShort fd n e => exact .call e (by decide)

inductive DaemonStep.Passes (env : Env) : DaemonStep → Answer → DaemonStep → Prop
  | redirectStdio : Passes env .redirectStdio .done .changeCurrDir
  | changeCurrDir : Passes env .changeCurrDir .done .openPidFile
  | openPidFile (fd : Nat) : Passes env .openPidFile .done (.lockPidFile fd)
  | lockPidFile (fd : Nat) : Passes env (.lockPidFile fd) .done (.truncatePidFile fd)
  | truncatePidFile (fd : Nat) : Passes env (.truncatePidFile fd) .done (.writePidFile fd)
  | writePidFile (fd : Nat) : Passes env (.writePidFile fd) .done .loadConfig
  | loadConfig (root : Toml.Table) :
      Passes env .loadConfig (.parsed root) (.setupLogging ⟨root, false⟩)
  | setupLogging (c : ConfigImpl) : Passes env (.setupLogging c) .done (.initEngine c)
  | initEngine {c : ConfigImpl} {a : InitAnswers} {file : Option Toml.Bytes}
      {engine : Engine.Engine} :
      (Engine.Engine.init env.toml env.inet a file c).1 = some (.ok engine) →
        Passes env (.initEngine c) (.init a file) (.notifyInitComplete engine)

/-- What is remembered of the steps of a launch. -/
inductive Event where
  | failed : List Bytes → Event
  | loaded : Toml.Table → Event
  /-- `engine.init()` has succeeded with these answers. -/
  | made : ConfigImpl → InitAnswers → Engine.Engine → Event

def Event.Possible (env : Env) : Event → Prop
  | .failed report => Report env report
  | _ => True

/-- What was written of the report of a failure so far. -/
def Cut (past : Event → Prop) (said : List Bytes) : Prop :=
  said = [] ∨ ∃ report, past (.failed report) ∧ said <+: report.map cstr

theorem cut_nil (past : Event → Prop) : Cut past [] := Or.inl rfl

theorem Cut.not_complete {env : Env} {past : Event → Prop}
    (hpast : ∀ event, past event → event.Possible env) {said : List Bytes}
    (h : Cut past said) : cstr (said.flatten.take 1023) ≠ initComplete := by
  obtain rfl | ⟨report, hfailed, hprefix⟩ := h
  · decide
  · have hreport : Report env report := hpast _ hfailed
    obtain ⟨t, rest, hmap⟩ := hreport.head
    cases said with
    | nil => decide
    | cons first later =>
      rw [hmap] at hprefix
      obtain ⟨hfirst, -⟩ := List.cons_prefix_cons.mp hprefix
      rw [hfirst]
      intro heq
      have hhead := congrArg List.head? heq
      cases hhead

namespace Process

variable {S : Type} {past : Event → Prop} {isOpen : Bool}

/-- `isOpen` is whether the pipe is still read. -/
structure Honest (past : Event → Prop) (isOpen : Bool) (p : Process S) : Prop where
  doing : ∀ s, p.stage = .doing s → p.said = []
  exiting : ∀ texts, p.stage = .exiting texts → ∃ report, past (.failed report) ∧
    p.said <+: report.map cstr ∧
    (isOpen = true → p.connected = true → p.said ++ texts.map cstr = report.map cstr)
  gone : p.stage = .gone → Cut past p.said

theorem Honest.cut {p : Process S} (h : p.Honest past isOpen) :
    Cut past p.said := by
  cases hs : p.stage with
  | doing s =>
    rw [h.doing s hs]
    exact cut_nil past
  | exiting texts =>
    obtain ⟨report, hreport, hprefix, -⟩ := h.exiting texts hs
    exact Or.inr ⟨report, hreport, hprefix⟩
  | gone => exact h.gone hs

theorem Honest.closed {p : Process S} (h : p.Honest past isOpen) :
    p.Honest past false where
  doing := h.doing
  exiting := by
    intro texts hs
    obtain ⟨report, hreport, hprefix, -⟩ := h.exiting texts hs
    exact ⟨report, hreport, hprefix, fun hopen => by cases hopen⟩
  gone := h.gone

theorem Honest.exit {p : Process S} (h : p.Honest past isOpen) :
    p.exit.Honest past isOpen where
  doing := fun s hs => by cases hs
  exiting := fun texts hs => by cases hs
  gone := fun _ => h.cut

theorem honest_doing {p : Process S} {s : S} (hs : p.stage = .doing s)
    (hsaid : p.said = []) : p.Honest past isOpen where
  doing := fun _ _ => hsaid
  exiting := fun texts h => by rw [hs] at h; cases h
  gone := fun h => by rw [hs] at h; cases h

theorem Honest.failing {p : Process S} (h : p.Honest past isOpen)
    {s : S} (hs : p.stage = .doing s) {report : List Bytes} (hreport : past (.failed report)) :
    (p.failing report).Honest past isOpen where
  doing := fun s h => by cases h
  exiting := by
    rintro texts ⟨⟩
    have hsaid : (p.failing report).said = [] := h.doing s hs
    rw [hsaid]
    exact ⟨report, hreport, List.nil_prefix, fun _ _ => rfl⟩
  gone := fun h => by cases h

end Process

def Stage.rank {S : Type} (rank : S → Nat) : Stage S → Nat
  | .doing s => rank s
  | .exiting texts => texts.length + 1
  | .gone => 0

def DaemonStep.rank : DaemonStep → Nat
  | .redirectStdio => 12
  | .changeCurrDir => 11
  | .openPidFile => 10
  | .lockPidFile _ => 9
  | .truncatePidFile _ => 8
  | .writePidFile _ => 7
  | .loadConfig => 6
  | .setupLogging _ => 5
  | .initEngine _ => 4
  | .notifyInitComplete _ => 2
  | .run _ => 1

/-- A fork is the first step of twelve and one more. -/
def ChildStep.rank : ChildStep → Nat
  | .createNewSession => 15
  | .forkAgain => 14
  | .leave => 1

theorem DaemonStep.Fails.rank {env : Env} {args : List Bytes} {s : DaemonStep} {a : Answer}
    {report : List Bytes} (h : s.Fails env args a report) : 4 ≤ s.rank := by
  cases h <;> simp [DaemonStep.rank]

theorem DaemonStep.Passes.rank_lt {env : Env} {s s' : DaemonStep} {a : Answer}
    (h : s.Passes env a s') : s'.rank < s.rank := by
  cases h <;> simp [DaemonStep.rank]

theorem DaemonStep.Passes.starting {env : Env} {s s' : DaemonStep} {a : Answer}
    (h : s.Passes env a s') (engine : Engine.Engine) : s ≠ .run engine ∧ s' ≠ .run engine := by
  cases h <;> simp

theorem ChildStep.Fails.rank {env : Env} {s : ChildStep} {a : Answer} {report : List Bytes}
    (h : s.Fails env a report) : 14 ≤ s.rank := by
  cases h <;> simp [ChildStep.rank]

/-- What a process adds to what it has said, it adds to what is in the pipe. -/
def Wrote {S : Type} (l : Launch) (p : Process S) (result : Process S × Bytes) : Prop :=
  ∃ new, result.1.said = p.said ++ new ∧ result.2 = l.buffer ++ new.flatten

theorem wrote_nothing {S : Type} {l : Launch} {p next : Process S} (h : next.said = p.said) :
    Wrote l p (next, l.buffer) :=
  ⟨[], by rw [h, List.append_nil], by rw [List.flatten_nil, List.append_nil]⟩

namespace Launch

/-- What comes of a write: it is in the pipe, it kills the process, or it has no effect. -/
theorem writeString_cases {S : Type} (l : Launch) (p next : Process S) (str : Bytes) :
    (p.connected = true ∧ l.readerOpen = true ∧ l.writeString p next str =
      ({ next with said := p.said ++ [cstr str] }, l.buffer ++ cstr str)) ∨
    (p.connected = true ∧ l.readerOpen = false ∧
      l.writeString p next str = (p.exit, l.buffer)) ∨
    ((p.connected = true → l.readerOpen = false ∧ (l.sigpipeIgnored = true ∨ cstr str = [])) ∧
      l.writeString p next str = (next, l.buffer)) := by
  unfold writeString
  by_cases hc : p.connected = true
  · rw [if_pos hc]
    by_cases ho : l.readerOpen = true
    · rw [if_pos ho]
      exact Or.inl ⟨hc, ho, rfl⟩
    · rw [if_neg ho]
      rw [Bool.not_eq_true] at ho
      by_cases hi : l.sigpipeIgnored = true ∨ cstr str = []
      · rw [if_pos hi]
        exact Or.inr (Or.inr ⟨fun _ => ⟨ho, hi⟩, rfl⟩)
      · rw [if_neg hi]
        exact Or.inr (Or.inl ⟨hc, ho, rfl⟩)
  · rw [if_neg hc]
    exact Or.inr (Or.inr ⟨fun h => absurd h hc, rfl⟩)

theorem wrote_writeString {S : Type} (l : Launch) {p next : Process S} (str : Bytes)
    (h : next.said = p.said) : Wrote l p (l.writeString p next str) := by
  rcases l.writeString_cases p next str with ⟨-, -, heq⟩ | ⟨-, -, heq⟩ | ⟨-, heq⟩
  · rw [heq]
    exact ⟨[cstr str], rfl, by simp⟩
  · rw [heq]
    exact wrote_nothing rfl
  · rw [heq]
    exact wrote_nothing h

theorem wrote_exitStep {S : Type} (l : Launch) (p : Process S) (texts : List Bytes) :
    Wrote l p (l.exitStep p texts) := by
  cases texts with
  | nil => exact wrote_nothing rfl
  | cons str rest => exact l.wrote_writeString str rfl

theorem honest_exitStep {S : Type} {past : Event → Prop} {l : Launch} {p : Process S}
    {texts : List Bytes} (h : p.Honest past l.readerOpen) (hs : p.stage = .exiting texts) :
    (l.exitStep p texts).1.Honest past l.readerOpen := by
  obtain ⟨report, hreport, hprefix, hall⟩ := h.exiting texts hs
  cases texts with
  | nil => exact h.exit
  | cons str rest =>
    rcases l.writeString_cases p (p.failing rest) str with
      ⟨hc, ho, heq⟩ | ⟨-, -, heq⟩ | ⟨hnone, heq⟩
    · have hrest : (p.said ++ [cstr str]) ++ rest.map cstr = report.map cstr := by
        rw [← hall ho hc, List.map_cons, List.append_assoc, List.singleton_append]
      rw [exitStep, heq]
      exact {
        doing := fun s hd => by cases hd
        exiting := by
          rintro texts ⟨⟩
          exact ⟨report, hreport, ⟨_, hrest⟩, fun _ _ => hrest⟩
        gone := fun hg => by cases hg }
    · rw [exitStep, heq]
      exact h.exit
    · rw [exitStep, heq]
      exact {
        doing := fun s hd => by cases hd
        exiting := by
          rintro texts ⟨⟩
          refine ⟨report, hreport, hprefix, fun ho hc => ?_⟩
          rw [(hnone hc).1] at ho
          cases ho
        gone := fun hg => by cases hg }

theorem exitStep_stage {S : Type} (rank : S → Nat) (l : Launch) (p : Process S)
    (texts : List Bytes) :
    (l.exitStep p texts).1.pipeWriteFd = p.pipeWriteFd ∧
    (l.exitStep p texts).1.stage.rank rank ≤ texts.length ∧
    (∀ s, (l.exitStep p texts).1.stage ≠ .doing s) ∧
    ((l.exitStep p texts).1.stage = .gone → (l.exitStep p texts).1.fds = []) := by
  cases texts with
  | nil => exact ⟨rfl, le_rfl, fun s hs => (by cases hs), fun _ => rfl⟩
  | cons str rest =>
    rcases l.writeString_cases p (p.failing rest) str with
      ⟨-, -, heq⟩ | ⟨-, -, heq⟩ | ⟨-, heq⟩
    · rw [exitStep, heq]
      exact ⟨rfl, le_rfl, fun s hs => (by cases hs), fun hs => by cases hs⟩
    · rw [exitStep, heq]
      exact ⟨rfl, Nat.zero_le _, fun s hs => (by cases hs), fun _ => rfl⟩
    · rw [exitStep, heq]
      exact ⟨rfl, le_rfl, fun s hs => (by cases hs), fun hs => by cases hs⟩

end Launch

/-- What a daemon has open at each of its steps. -/
def DaemonStep.fds (stdio : Stdio) : DaemonStep → Fds
  | .redirectStdio => stdio.childFds
  | .changeCurrDir | .openPidFile => redirected stdio.childFds
  | .run _ => ((redirected stdio.childFds).opened .pidFile).2.close stdio.pipeWriteFd
  | _ => ((redirected stdio.childFds).opened .pidFile).2

/-- The end to write to is still there when it is needed, unless it had one of the numbers
that were redirected. -/
theorem notify_connected (stdio : Stdio) (engine : Engine.Engine) :
    ((DaemonStep.fds stdio (.notifyInitComplete engine))[stdio.pipeWriteFd]? =
      some (some .pipeWrite)) ↔ stdio.Suffices := by
  obtain ⟨stdin, stdout, stderr⟩ := stdio
  simp only [DaemonStep.fds]
  revert stdin stdout stderr
  decide

structure Advance (env : Env) (s s' : DaemonStep) (a : Answer) (p p' : Process DaemonStep) :
    Prop where
  passes : s.Passes env a s'
  stage : p'.stage = .doing s'
  said : p'.said = p.said
  pipeWriteFd : p'.pipeWriteFd = p.pipeWriteFd
  wired : ∀ stdio, p.pipeWriteFd = stdio.pipeWriteFd → p.fds = s.fds stdio →
    p'.fds = s'.fds stdio

theorem orExit_cases {S : Type} {env : Env} {msg : Bytes} {next p p' : Process S} {a : Answer}
    (h : p.orExit env msg next a = some p') :
    (a = .done ∧ p' = next) ∨ ∃ e, a = .error e ∧ p' = p.failing [msg, env.strerror e] := by
  cases a with
  | done =>
    cases h
    exact Or.inl ⟨rfl, rfl⟩
  | error e =>
    cases h
    exact Or.inr ⟨e, rfl, rfl⟩
  | _ => cases h

inductive DaemonMove (env : Env) (l : Launch) (p : Process DaemonStep) (a : Answer) :
    Process DaemonStep × Bytes → Prop
  | advance {s s' : DaemonStep} {p' : Process DaemonStep} :
      p.stage = .doing s → Advance env s s' a p p' → DaemonMove env l p a (p', l.buffer)
  | fail {s : DaemonStep} {report : List Bytes} :
      p.stage = .doing s → s.Fails env p.args a report →
        DaemonMove env l p a (p.failing report, l.buffer)
  | leave {s : DaemonStep} : p.stage = .doing s → DaemonMove env l p a (p.exit, l.buffer)
  | notify {engine : Engine.Engine} :
      p.stage = .doing (.notifyInitComplete engine) →
        DaemonMove env l p a (l.step14NotifyInitComplete p engine)
  | exit {texts : List Bytes} :
      p.stage = .exiting texts → DaemonMove env l p a (l.exitStep p texts)

theorem move_orExit {env : Env} {l : Launch} {p next p' : Process DaemonStep}
    {s s' : DaemonStep} {msg : Bytes} {a : Answer} (hs : p.stage = .doing s)
    (hfails : ∀ e, s.Fails env p.args (.error e) [msg, env.strerror e])
    (hadv : Advance env s s' .done p next) (h : p.orExit env msg next a = some p') :
    DaemonMove env l p a (p', l.buffer) := by
  rcases orExit_cases h with ⟨rfl, rfl⟩ | ⟨e, rfl, rfl⟩
  · exact .advance hs hadv
  · exact .fail hs (hfails e)

theorem advance_goTo {env : Env} {s s' : DaemonStep} {a : Answer} {p : Process DaemonStep}
    (hpasses : s.Passes env a s') (hfds : ∀ stdio, s'.fds stdio = s.fds stdio) :
    Advance env s s' a p (p.goTo s') where
  passes := hpasses
  stage := rfl
  said := rfl
  pipeWriteFd := rfl
  wired := fun stdio _ h => h.trans (hfds stdio).symm

section Moves

variable {env : Env} {l : Launch} {p p' : Process DaemonStep} {a : Answer}

theorem move_step09 (hs : p.stage = .doing .redirectStdio)
    (h : step09RedirectStdioToDevnull env p a = some p') :
    DaemonMove env l p a (p', l.buffer) := by
  have hadv : Advance env .redirectStdio .changeCurrDir .done p
      { p with fds := redirected p.fds, stage := .doing .changeCurrDir } :=
    ⟨.redirectStdio, rfl, rfl, rfl, fun stdio _ hfds => congrArg redirected hfds⟩
  exact move_orExit hs .redirectStdio hadv h

theorem move_step11 (hs : p.stage = .doing .changeCurrDir)
    (h : step11ChangeCurrDir env p a = some p') : DaemonMove env l p a (p', l.buffer) :=
  move_orExit hs .changeCurrDir (advance_goTo .changeCurrDir fun _ => rfl) h

theorem move_step12Open {files : PidFiles} {result : Process DaemonStep × PidFiles}
    (hs : p.stage = .doing .openPidFile) (h : step12Open env files p a = some result) :
    DaemonMove env l p a (result.1, l.buffer) := by
  obtain ⟨next, hnext, hresult⟩ := Option.map_eq_some_iff.mp h
  have hadv : Advance env .openPidFile (.lockPidFile files.opened.1) .done p
      { p with
        fds := (p.fds.opened .pidFile).2
        stage := .doing (.lockPidFile files.opened.1) } :=
    ⟨.openPidFile _, rfl, rfl, rfl,
      fun stdio _ hfds => congrArg (fun fds => (Fds.opened fds .pidFile).2) hfds⟩
  have hmove : DaemonMove env l p a (next, l.buffer) :=
    move_orExit hs .openPidFile hadv hnext
  split at hresult
  all_goals
    cases hresult
    exact hmove

theorem move_step12Lock {i fd : Nat} {files : PidFiles}
    {result : Process DaemonStep × PidFiles} (hs : p.stage = .doing (.lockPidFile fd))
    (h : step12Lock env i fd files p a = some result) :
    DaemonMove env l p a (result.1, l.buffer) := by
  obtain ⟨next, hnext, hresult⟩ := Option.bind_eq_some_iff.mp h
  have hmove : DaemonMove env l p a (next, l.buffer) :=
    move_orExit hs (.lockPidFile fd) (advance_goTo (.lockPidFile fd) fun _ => rfl) hnext
  split at hresult
  · obtain ⟨-, heq⟩ := Option.ite_none_right_eq_some.mp hresult
    cases heq
    exact hmove
  · cases hresult
    exact hmove

theorem move_step12Truncate {fd : Nat} {files : PidFiles}
    {result : Process DaemonStep × PidFiles} (hs : p.stage = .doing (.truncatePidFile fd))
    (h : step12Truncate env fd files p a = some result) :
    DaemonMove env l p a (result.1, l.buffer) := by
  obtain ⟨next, hnext, hresult⟩ := Option.map_eq_some_iff.mp h
  have hmove : DaemonMove env l p a (next, l.buffer) :=
    move_orExit hs (.truncatePidFile fd) (advance_goTo (.truncatePidFile fd) fun _ => rfl) hnext
  split at hresult
  all_goals
    cases hresult
    exact hmove

theorem move_step12Write {pid fd : Nat} {files : PidFiles}
    {result : Process DaemonStep × PidFiles} (hs : p.stage = .doing (.writePidFile fd))
    (h : step12Write env pid fd files p a = some result) :
    DaemonMove env l p a (result.1, l.buffer) := by
  cases a with
  | done =>
    cases h
    exact .advance hs (advance_goTo (.writePidFile fd) fun _ => rfl)
  | short n e =>
    obtain ⟨-, heq⟩ := Option.ite_none_right_eq_some.mp h
    cases heq
    exact .fail hs (.writeShort fd n e)
  | error e =>
    cases h
    exact .fail hs (.writePidFile fd e)
  | _ => cases h

theorem move_loadConfig (hs : p.stage = .doing .loadConfig) (h : loadConfig p a = some p') :
    DaemonMove env l p a (p', l.buffer) := by
  cases a with
  | parsed root =>
    cases h
    exact .advance hs (advance_goTo (.loadConfig root) fun _ => rfl)
  | throws what =>
    cases h
    exact .fail hs (.loadConfig what)
  | throwsOther =>
    cases h
    exact .fail hs .loadUnknown
  | _ => cases h

theorem move_setupLogging {c : ConfigImpl} (hs : p.stage = .doing (.setupLogging c))
    (h : setupLogging c p a = some p') : DaemonMove env l p a (p', l.buffer) := by
  cases a with
  | done =>
    cases h
    exact .advance hs (advance_goTo (.setupLogging c) fun _ => rfl)
  | throws what =>
    cases h
    exact .fail hs (.setupLogging c what)
  | throwsOther =>
    cases h
    exact .leave hs
  | _ => cases h

theorem move_initEngine {c : ConfigImpl} (hs : p.stage = .doing (.initEngine c))
    (h : initEngine env c p a = some p') : DaemonMove env l p a (p', l.buffer) := by
  cases a with
  | init answers file =>
    simp only [initEngine] at h
    split at h
    · cases h
      exact .leave hs
    · next failureStr hinit =>
      cases h
      exact .fail hs (.initEngine hinit)
    · next engine hinit =>
      cases h
      exact .advance hs (advance_goTo (.initEngine hinit) fun _ => rfl)
  | _ => cases h

end Moves

theorem daemonResult_move {env : Env} {i : Nat} {files files' : PidFiles} {l : Launch}
    {p : Process DaemonStep} {a : Answer} {result : Process DaemonStep × Bytes}
    (h : l.daemonResult env i files p a = some (result, files')) :
    DaemonMove env l p a result := by
  unfold Launch.daemonResult at h
  split at h
  case h_3 | h_4 | h_5 | h_6 =>
    next hs =>
    obtain ⟨next, hnext, heq⟩ := Option.map_eq_some_iff.mp h
    cases heq
    first
      | exact move_step12Open hs hnext
      | exact move_step12Lock hs hnext
      | exact move_step12Truncate hs hnext
      | exact move_step12Write hs hnext
  case h_10 engine hs =>
    cases h
    exact .notify hs
  case h_11 hs =>
    cases h
    exact .leave hs
  case h_12 hs =>
    cases h
    exact .exit hs
  case h_13 => cases h
  all_goals
    next hs =>
    obtain ⟨next, hnext, heq⟩ := Option.map_eq_some_iff.mp h
    cases heq
    first
      | exact move_step09 hs hnext
      | exact move_step11 hs hnext
      | exact move_loadConfig hs hnext
      | exact move_setupLogging hs hnext
      | exact move_initEngine hs hnext

inductive ChildMove (env : Env) (l : Launch) (p : Process ChildStep) (a : Answer) :
    Launch → Prop
  | forkNext : p.stage = .doing .createNewSession →
      ChildMove env l p a (l.withChild (p.goTo .forkAgain, l.buffer))
  | fail {s : ChildStep} {report : List Bytes} : p.stage = .doing s → s.Fails env a report →
      ChildMove env l p a (l.withChild (p.failing report, l.buffer))
  | fork {pid : Nat} : p.stage = .doing .forkAgain → ChildMove env l p a
      { l with
        child := some (p.goTo .leave)
        daemonPid := pid
        daemon := some ⟨p.args, p.fds, p.pipeWriteFd, [], .doing .redirectStdio⟩ }
  | leave : p.stage = .doing .leave → ChildMove env l p a (l.withChild (p.exit, l.buffer))
  | exit {texts : List Bytes} : p.stage = .exiting texts →
      ChildMove env l p a (l.withChild (l.exitStep p texts))

theorem step0708_cases {env : Env} {p : Process ChildStep} {a : Answer}
    {result : Process ChildStep × Option (Nat × Process DaemonStep)}
    (h : step0708ForkAndExitAgain env p a = some result) :
    (∃ pid, result = (p.goTo .leave,
      some (pid, ⟨p.args, p.fds, p.pipeWriteFd, [], .doing .redirectStdio⟩))) ∨
    ∃ e, a = .error e ∧
      result = (p.failing [text "Failed to fork: ".toList, env.strerror e], none) := by
  cases a with
  | forked pid =>
    cases h
    exact Or.inl ⟨pid, rfl⟩
  | error e =>
    cases h
    exact Or.inr ⟨e, rfl, rfl⟩
  | _ => cases h

theorem childStep_move {env : Env} {l l' : Launch} {p : Process ChildStep} {a : Answer}
    (h : l.childStep env p a = some l') : ChildMove env l p a l' := by
  unfold Launch.childStep at h
  split at h
  · next hs =>
    obtain ⟨next, hnext, rfl⟩ := Option.map_eq_some_iff.mp h
    rcases orExit_cases hnext with ⟨-, rfl⟩ | ⟨e, rfl, rfl⟩
    · exact .forkNext hs
    · exact .fail hs (.createNewSession e)
  · next hs =>
    obtain ⟨result, hresult, rfl⟩ := Option.map_eq_some_iff.mp h
    rcases step0708_cases hresult with ⟨pid, rfl⟩ | ⟨e, rfl, rfl⟩
    · exact .fork hs
    · exact .fail hs (.forkAgain e)
  · next hs =>
    cases h
    exact .leave hs
  · next hs =>
    cases h
    exact .exit hs
  · cases h

end Ocvsmd.Startup
