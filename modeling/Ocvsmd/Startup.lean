import Ocvsmd.EngineInit
import Ocvsmd.Runs
import Ocvsmd.SocketBase

/-!
How a daemon is launched. The process that is started waits for what the daemon writes to a
pipe; between them is a process that only forks the daemon. Any number of launches share the
PID file, and anybody may remove it.
-/

set_option autoImplicit false

namespace Ocvsmd.Startup

open Toml (Library Table)
open Ipc (Bytes Errno)
open CString (text cstr)
open Io (Inet)
open Engine (ConfigImpl InitAnswers)

inductive File where
  | stdio | pipeRead | pipeWrite | devNull | pidFile
  deriving DecidableEq

abbrev Fds := List (Option File)

namespace Fds

def opened (fds : Fds) (file : File) : Nat × Fds :=
  let fd := fds.idxOf none
  (fd, if fd < fds.length then fds.set fd (some file) else fds ++ [some file])

def close (fds : Fds) (fd : Nat) : Fds := fds.set fd none

def dup2 (fds : Fds) (fd newFd : Nat) : Fds := fds.set newFd (fds[fd]?.join)

end Fds

/-- Which of 0, 1 and 2 are open when the program is started. -/
structure Stdio where
  stdin : Bool := true
  stdout : Bool := true
  stderr : Bool := true

namespace Stdio

def fds (s : Stdio) : Fds :=
  [s.stdin, s.stdout, s.stderr].map fun isOpen => if isOpen then some .stdio else none

def pipe (s : Stdio) : Nat × Nat × Fds :=
  let readEnd := s.fds.opened .pipeRead
  let writeEnd := readEnd.2.opened .pipeWrite
  (readEnd.1, writeEnd.1, writeEnd.2)

def childFds (s : Stdio) : Fds := s.pipe.2.2.close s.pipe.1

def pipeWriteFd (s : Stdio) : Nat := s.pipe.2.1

/-- One of the three may be missing: its number is that of the end to read from. -/
def Suffices (s : Stdio) : Prop := 2 ≤ [s.stdin, s.stdout, s.stderr].count true

instance (s : Stdio) : Decidable s.Suffices := inferInstanceAs (Decidable (2 ≤ _))

end Stdio

inductive Stage (S : Type) where
  | doing : S → Stage S
  /-- `::exit(EXIT_FAILURE)` is next, after the texts that are still to be written. -/
  | exiting : List Bytes → Stage S
  | gone : Stage S

/-- `said` is what it has written to the pipe. -/
structure Process (S : Type) where
  args : List Bytes
  fds : Fds
  pipeWriteFd : Nat
  said : List Bytes := []
  stage : Stage S

inductive Answer where
  | done : Answer
  | error : Errno → Answer
  | forked : Nat → Answer
  | short : Nat → Errno → Answer
  | parsed : Table → Answer
  | throws : Bytes → Answer
  | throwsOther : Answer
  | init : InitAnswers → Option Toml.Bytes → Answer

structure Env where
  toml : Library
  inet : Inet
  strerror : Errno → Bytes

inductive ChildStep where
  | createNewSession | forkAgain | leave

/-- Those of `step_12_create_pid_file` know which file `fd` is open on. -/
inductive DaemonStep where
  | redirectStdio | changeCurrDir | openPidFile
  | lockPidFile : Nat → DaemonStep
  | truncatePidFile : Nat → DaemonStep
  | writePidFile : Nat → DaemonStep
  | loadConfig
  | setupLogging : ConfigImpl → DaemonStep
  | initEngine : ConfigImpl → DaemonStep
  | notifyInitComplete : Engine.Engine → DaemonStep
  | run : Engine.Engine → DaemonStep

def initComplete : Bytes := text "init_complete".toList

namespace Process

variable {S : Type}

def connected (p : Process S) : Bool := p.fds[p.pipeWriteFd]? = some (some .pipeWrite)

def holdsPipe (p : Process S) : Bool := p.fds.contains (some .pipeWrite)

def isGone (p : Process S) : Bool :=
  match p.stage with
  | .gone => true
  | _ => false

def exit (p : Process S) : Process S := { p with fds := [], stage := .gone }

def goTo (p : Process S) (s : S) : Process S := { p with stage := .doing s }

def failing (p : Process S) (texts : List Bytes) : Process S :=
  { p with stage := .exiting texts }

def exitWithFailure (env : Env) (msg : Bytes) (e : Errno) (p : Process S) : Process S :=
  p.failing [msg, env.strerror e]

def orExit (env : Env) (msg : Bytes) (p next : Process S) : Answer → Option (Process S)
  | .done => some next
  | .error e => some (p.exitWithFailure env msg e)
  | _ => none

end Process

def step06CreateNewSession (env : Env) (p : Process ChildStep) :
    Answer → Option (Process ChildStep) :=
  p.orExit env (text "Failed to setsid: ".toList) (p.goTo .forkAgain)

/-- The daemon has what the child has. -/
def step0708ForkAndExitAgain (env : Env) (p : Process ChildStep) :
    Answer → Option (Process ChildStep × Option (Nat × Process DaemonStep))
  | .forked pid =>
    some (p.goTo .leave, some (pid, ⟨p.args, p.fds, p.pipeWriteFd, [], .doing .redirectStdio⟩))
  | .error e => some (p.exitWithFailure env (text "Failed to fork: ".toList) e, none)
  | _ => none

def redirected (fds : Fds) : Fds :=
  let fd := (fds.opened .devNull).1
  let fds := ((((fds.opened .devNull).2.dup2 fd 0).dup2 fd 1).dup2 fd 2)
  if 2 < fd then fds.close fd else fds

def step09RedirectStdioToDevnull (env : Env) (p : Process DaemonStep) :
    Answer → Option (Process DaemonStep) :=
  p.orExit env (text "Failed to open(/dev/null): ".toList)
    { p with fds := redirected p.fds, stage := .doing .changeCurrDir }

def step11ChangeCurrDir (env : Env) (p : Process DaemonStep) :
    Answer → Option (Process DaemonStep) :=
  p.orExit env (text "Failed to chdir(/): ".toList) (p.goTo .openPidFile)

structure PidFile where
  owner : Option Nat := none
  content : Bytes := []

namespace PidFile

def release (file : PidFile) (i : Nat) : PidFile :=
  if file.owner = some i then { file with owner := none } else file

def write (file : PidFile) (bytes : Bytes) : PidFile :=
  { file with content := bytes ++ file.content.drop bytes.length }

end PidFile

/-- One that is removed stays there for those who have it open. `named` is the one that is
at `/var/run/ocvsmd.pid`. -/
structure PidFiles where
  files : List PidFile := []
  named : Option Nat := none

namespace PidFiles

/-- With `O_CREAT` a file is made if there is none. -/
def opened (s : PidFiles) : Nat × PidFiles :=
  match s.named with
  | some n => (n, s)
  | none => (s.files.length, ⟨s.files ++ [{}], some s.files.length⟩)

def modify (s : PidFiles) (n : Nat) (f : PidFile → PidFile) : PidFiles :=
  { s with files := s.files.modify n f }

def release (s : PidFiles) (i : Nat) : PidFiles :=
  { s with files := s.files.map fun file => file.release i }

/-- `rm -f $PIDFILE`, as `init.d/ocvsmd stop` has it right after the signal. -/
def remove (s : PidFiles) : PidFiles := { s with named := none }

end PidFiles

def pidText (pid : Nat) : Bytes := CString.decimal pid ++ [10]

def step12Open (env : Env) (files : PidFiles) (p : Process DaemonStep) (a : Answer) :
    Option (Process DaemonStep × PidFiles) :=
  (p.orExit env (text "Failed to create on PID file: ".toList)
    { p with fds := (p.fds.opened .pidFile).2, stage := .doing (.lockPidFile files.opened.1) }
    a).map fun next =>
      match a with
      | .done => (next, files.opened.2)
      | _ => (next, files)

/-- A lock is not given while another process has it. -/
def step12Lock (env : Env) (i fd : Nat) (files : PidFiles) (p : Process DaemonStep)
    (a : Answer) : Option (Process DaemonStep × PidFiles) :=
  (p.orExit env (text "Failed to lock PID file: ".toList) (p.goTo (.truncatePidFile fd))
    a).bind fun next =>
      match a with
      | .done =>
        if (files.files[fd]?).any fun file => file.owner = none then
          some (next, files.modify fd fun file => { file with owner := some i })
        else none
      | _ => some (next, files)

def step12Truncate (env : Env) (fd : Nat) (files : PidFiles) (p : Process DaemonStep)
    (a : Answer) : Option (Process DaemonStep × PidFiles) :=
  (p.orExit env (text "Failed to ftruncate PID file: ".toList) (p.goTo (.writePidFile fd))
    a).map fun next =>
      match a with
      | .done => (next, files.modify fd fun file => { file with content := [] })
      | _ => (next, files)

def step12Write (env : Env) (pid fd : Nat) (files : PidFiles) (p : Process DaemonStep) :
    Answer → Option (Process DaemonStep × PidFiles)
  | .done => some (p.goTo .loadConfig, files.modify fd fun file => file.write (pidText pid))
  | .short n e =>
    if n < (pidText pid).length then
      some (p.exitWithFailure env (text "Failed to write to PID file: ".toList) e,
        files.modify fd fun file => file.write ((pidText pid).take n))
    else none
  | .error e =>
    some (p.exitWithFailure env (text "Failed to write to PID file: ".toList) e, files)
  | _ => none

def configFilePrefix : Bytes := text "CONFIG_FILE=".toList

def cfgFilePath (args : List Bytes) : Bytes :=
  args.foldl (fun path arg =>
    if arg.take configFilePrefix.length = configFilePrefix then arg.drop configFilePrefix.length
    else path) (text "/etc/ocvsmd/ocvsmd.toml".toList)

def loadConfig (p : Process DaemonStep) : Answer → Option (Process DaemonStep)
  | .parsed root => some (p.goTo (.setupLogging ⟨root, false⟩))
  | .throws what =>
    some (p.failing [text "Failed to load configuration file (path='".toList ++
      cfgFilePath p.args ++ text "').\n".toList ++ what])
  | .throwsOther => some (p.failing [text "Failed to load configuration file.".toList])
  | _ => none

/-- What is no `std::exception` is not caught. -/
def setupLogging (c : ConfigImpl) (p : Process DaemonStep) :
    Answer → Option (Process DaemonStep)
  | .done => some (p.goTo (.initEngine c))
  | .throws what => some (p.failing [text "Failed to setup logging: ".toList, what])
  | .throwsOther => some p.exit
  | _ => none

/-- `main` as far as `engine.init()`. What it throws is only logged. -/
def initEngine (env : Env) (c : ConfigImpl) (p : Process DaemonStep) :
    Answer → Option (Process DaemonStep)
  | .init a file =>
    match (Engine.Engine.init env.toml env.inet a file c).1 with
    | none => some p.exit
    | some (.error failureStr) =>
      some (p.failing [text "Failed to init engine: ".toList, failureStr])
    | some (.ok engine) => some (p.goTo (.notifyInitComplete engine))
  | _ => none

inductive ParentFailure where
  | startup : Bytes → ParentFailure
  | readPipe : Errno → ParentFailure
  | childInit : Bytes → ParentFailure

inductive Parent where
  | waiting : Parent
  | succeeded : Parent
  | failed : ParentFailure → Parent
  | killed : Parent

/-- One start of the program. `engine` is the one that the daemon has brought up. -/
structure Launch where
  stdio : Stdio
  /-- `SIGPIPE` is ignored if it was ignored by who started the program. -/
  sigpipeIgnored : Bool
  parent : Parent
  child : Option (Process ChildStep) := none
  daemonPid : Nat := 0
  daemon : Option (Process DaemonStep) := none
  engine : Option Engine.Engine := none
  buffer : Bytes := []

namespace Launch

def readerOpen (l : Launch) : Bool :=
  match l.parent with
  | .waiting => true
  | _ => false

def writerOpen (l : Launch) : Bool :=
  l.child.any (·.holdsPipe) || l.daemon.any (·.holdsPipe)

/-- `writeString` to `pipe_write_fd`, and what the process does next. A process that writes
to a pipe that nobody reads any more is killed, unless it ignores that. -/
def writeString {S : Type} (l : Launch) (p next : Process S) (str : Bytes) :
    Process S × Bytes :=
  if p.connected then
    if l.readerOpen then ({ next with said := p.said ++ [cstr str] }, l.buffer ++ cstr str)
    else if l.sigpipeIgnored ∨ cstr str = [] then (next, l.buffer)
    else (p.exit, l.buffer)
  else (next, l.buffer)

def exitStep {S : Type} (l : Launch) (p : Process S) : List Bytes → Process S × Bytes
  | [] => (p.exit, l.buffer)
  | str :: rest => l.writeString p (p.failing rest) str

def step14NotifyInitComplete (l : Launch) (p : Process DaemonStep) (engine : Engine.Engine) :
    Process DaemonStep × Bytes :=
  l.writeString p { p with fds := p.fds.close p.pipeWriteFd, stage := .doing (.run engine) }
    initComplete

def withChild (l : Launch) (result : Process ChildStep × Bytes) : Launch :=
  { l with child := some result.1, buffer := result.2 }

/-- An engine that runs is up, and was up once it is gone. -/
def withDaemon (l : Launch) (result : Process DaemonStep × Bytes) : Launch :=
  { l with
    daemon := some result.1
    buffer := result.2
    engine := match result.1.stage with
      | .doing (.run engine) => some engine
      | _ => l.engine }

def childStep (env : Env) (l : Launch) (p : Process ChildStep) (a : Answer) : Option Launch :=
  match p.stage, a with
  | .doing .createNewSession, a =>
    (step06CreateNewSession env p a).map fun next => l.withChild (next, l.buffer)
  | .doing .forkAgain, a =>
    (step0708ForkAndExitAgain env p a).map fun result =>
      match result.2 with
      | none => l.withChild (result.1, l.buffer)
      | some (pid, daemon) =>
        { l with child := some result.1, daemonPid := pid, daemon := some daemon }
  | .doing .leave, .done => some (l.withChild (p.exit, l.buffer))
  | .exiting texts, .done => some (l.withChild (l.exitStep p texts))
  | _, _ => none

def daemonResult (env : Env) (i : Nat) (files : PidFiles) (l : Launch) (p : Process DaemonStep)
    (a : Answer) : Option ((Process DaemonStep × Bytes) × PidFiles) :=
  let quietly : Option (Process DaemonStep) → Option ((Process DaemonStep × Bytes) × PidFiles) :=
    fun next => next.map fun next => ((next, l.buffer), files)
  match p.stage, a with
  | .doing .redirectStdio, a => quietly (step09RedirectStdioToDevnull env p a)
  | .doing .changeCurrDir, a => quietly (step11ChangeCurrDir env p a)
  | .doing .openPidFile, a =>
    (step12Open env files p a).map fun next => ((next.1, l.buffer), next.2)
  | .doing (.lockPidFile fd), a =>
    (step12Lock env i fd files p a).map fun next => ((next.1, l.buffer), next.2)
  | .doing (.truncatePidFile fd), a =>
    (step12Truncate env fd files p a).map fun next => ((next.1, l.buffer), next.2)
  | .doing (.writePidFile fd), a =>
    (step12Write env l.daemonPid fd files p a).map fun next => ((next.1, l.buffer), next.2)
  | .doing .loadConfig, a => quietly (loadConfig p a)
  | .doing (.setupLogging c), a => quietly (setupLogging c p a)
  | .doing (.initEngine c), a => quietly (initEngine env c p a)
  | .doing (.notifyInitComplete engine), .done =>
    some (l.step14NotifyInitComplete p engine, files)
  | .doing (.run _), .done => quietly (some p.exit)
  | .exiting texts, .done => some (l.exitStep p texts, files)
  | _, _ => none

def daemonStep (env : Env) (i : Nat) (files : PidFiles) (l : Launch) (p : Process DaemonStep)
    (a : Answer) : Option (Launch × PidFiles) :=
  (l.daemonResult env i files p a).map fun result =>
    (l.withDaemon result.1,
      if result.1.1.isGone then result.2.release i else result.2)

def step15ExitOrgProcess (l : Launch) (msgFromChild : Bytes) : Launch :=
  if cstr msgFromChild = initComplete then { l with parent := .succeeded }
  else { l with parent := .failed (.childInit (cstr msgFromChild)) }

/-- A read waits until there is something to read, or nobody left to write. -/
def parentReads (l : Launch) : Option Launch :=
  if l.readerOpen ∧ (l.buffer ≠ [] ∨ l.writerOpen = false) then
    some (l.step15ExitOrgProcess (l.buffer.take 1023))
  else none

/-- A signal ends a read that waits. -/
def parentInterrupted (l : Launch) (e : Errno) : Option Launch :=
  if l.readerOpen ∧ l.buffer = [] ∧ l.writerOpen then
    some { l with parent := .failed (.readPipe e) }
  else none

end Launch

/-- `daemonize`, as far as the first fork. -/
def daemonize (stdio : Stdio) (sigpipeIgnored : Bool) (args : List Bytes)
    (failure : Option Bytes) : Launch :=
  match failure with
  | some msg => { stdio, sigpipeIgnored, parent := .failed (.startup msg) }
  | none =>
    { stdio
      sigpipeIgnored
      parent := .waiting
      child := some ⟨args, stdio.childFds, stdio.pipeWriteFd, [], .doing .createNewSession⟩ }

structure World where
  pidFiles : PidFiles := {}
  launches : List Launch := []

inductive LaunchAction where
  | parentReads : LaunchAction
  | parentInterrupted : Errno → LaunchAction
  | parentKilled : LaunchAction
  | child : Answer → LaunchAction
  | childKilled : LaunchAction
  | daemon : Answer → LaunchAction
  | daemonKilled : LaunchAction

inductive Action where
  | launch : Stdio → Bool → List Bytes → Option Bytes → Action
  | act : Nat → LaunchAction → Action
  | removePidFile : Action

def Launch.step (env : Env) (i : Nat) (files : PidFiles) (l : Launch) :
    LaunchAction → Option (Launch × PidFiles)
  | .parentReads => l.parentReads.map (·, files)
  | .parentInterrupted e => (l.parentInterrupted e).map (·, files)
  | .parentKilled => if l.readerOpen then some ({ l with parent := .killed }, files) else none
  | .child a => l.child.bind fun p => (l.childStep env p a).map (·, files)
  | .childKilled =>
    l.child.bind fun p =>
      if p.isGone then none else some ({ l with child := some p.exit }, files)
  | .daemon a => l.daemon.bind fun p => l.daemonStep env i files p a
  | .daemonKilled =>
    l.daemon.bind fun p =>
      if p.isGone then none else some ({ l with daemon := some p.exit }, files.release i)

namespace World

def step (env : Env) (w : World) : Action → Option World
  | .launch stdio sigpipeIgnored args failure =>
    some { w with launches := w.launches ++ [daemonize stdio sigpipeIgnored args failure] }
  | .act i a =>
    w.launches[i]?.bind fun l =>
      (l.step env i w.pidFiles a).map fun result =>
        ⟨result.2, w.launches.set i result.1⟩
  | .removePidFile => some { w with pidFiles := w.pidFiles.remove }

def Reachable (env : Env) (w : World) : Prop := Runs.Reachable (step env) {} w

end World

end Ocvsmd.Startup
