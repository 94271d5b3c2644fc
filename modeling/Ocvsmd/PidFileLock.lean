import Ocvsmd.StartupReport

set_option autoImplicit false

namespace Ocvsmd.Startup

open Ipc (Bytes Errno)

namespace DaemonStep

def opened : DaemonStep → Bool
  | .redirectStdio | .changeCurrDir | .openPidFile => false
  | _ => true

def locked : DaemonStep → Bool
  | .lockPidFile _ => false
  | s => s.opened

def written : DaemonStep → Bool
  | .truncatePidFile _ | .writePidFile _ => false
  | s => s.locked

theorem opened_of_locked {s : DaemonStep} (h : s.locked = true) : s.opened = true := by
  cases s <;> first | rfl | cases h

end DaemonStep

namespace PidFiles

def Owns (s : PidFiles) (i fd : Nat) (file : PidFile) : Prop :=
  s.files[fd]? = some file ∧ file.owner = some i

theorem Owns.owner_eq {s : PidFiles} {i j fd : Nat} {file file' : PidFile}
    (h : s.Owns i fd file) (h' : s.Owns j fd file') : i = j := by
  cases h.1.symm.trans h'.1
  exact Option.some.inj (h.2.symm.trans h'.2)

def Spares (i : Nat) (s s' : PidFiles) : Prop :=
  ∀ j fd file, j ≠ i → (s'.Owns j fd file ↔ s.Owns j fd file)

theorem spares_same {i : Nat} {s s' : PidFiles} (h : s'.files = s.files) : Spares i s s' := by
  intro j fd file _
  rw [Owns, Owns, h]

theorem getElem?_modify_self {s : PidFiles} {fd : Nat} {file : PidFile} (f : PidFile → PidFile)
    (h : s.files[fd]? = some file) : (s.modify fd f).files[fd]? = some (f file) := by
  simp [modify, h]

theorem getElem?_modify_ne {s : PidFiles} {fd fd' : Nat} (f : PidFile → PidFile)
    (h : fd ≠ fd') : (s.modify fd f).files[fd']? = s.files[fd']? := by
  simp [modify, h]

theorem spares_modify {i fd : Nat} {s : PidFiles} {file : PidFile} {f : PidFile → PidFile}
    (h : s.files[fd]? = some file) (hbefore : ∀ j, file.owner = some j → j = i)
    (hafter : (f file).owner = some i) : Spares i s (s.modify fd f) := by
  intro j fd' file' hj
  by_cases hfd : fd = fd'
  · subst hfd
    constructor
    · rintro ⟨hget, howner⟩
      cases (getElem?_modify_self f h).symm.trans hget
      exact absurd (Option.some.inj (howner.symm.trans hafter)) hj
    · rintro ⟨hget, howner⟩
      cases h.symm.trans hget
      exact absurd (hbefore j howner) hj
  · rw [Owns, Owns, getElem?_modify_ne f hfd]

theorem owns_modify {i fd : Nat} {s : PidFiles} {file : PidFile} {f : PidFile → PidFile}
    (h : s.files[fd]? = some file) (hafter : (f file).owner = some i) :
    (s.modify fd f).Owns i fd (f file) :=
  ⟨getElem?_modify_self f h, hafter⟩

theorem owns_release {i j fd : Nat} {s : PidFiles} {file : PidFile} :
    (s.release i).Owns j fd file ↔ j ≠ i ∧ s.Owns j fd file := by
  simp only [Owns, release, List.getElem?_map, Option.map_eq_some_iff, PidFile.release]
  constructor
  · rintro ⟨⟨file', hget, rfl⟩, howner⟩
    split at howner
    · cases howner
    · next hfree =>
      rw [if_neg hfree]
      refine ⟨?_, hget, howner⟩
      rintro rfl
      exact hfree howner
  · rintro ⟨hj, hget, howner⟩
    refine ⟨⟨file, hget, if_neg fun h => hj ?_⟩, howner⟩
    exact Option.some.inj (howner.symm.trans h)

theorem spares_release {i : Nat} {s : PidFiles} : Spares i s (s.release i) :=
  fun _ _ _ hj => owns_release.trans (and_iff_right hj)

theorem owns_opened {s : PidFiles} {j fd : Nat} {file : PidFile} :
    s.opened.2.Owns j fd file ↔ s.Owns j fd file := by
  unfold opened
  split
  · rfl
  · simp only [Owns]
    by_cases hfd : fd < s.files.length
    · rw [List.getElem?_append_left hfd]
    · rw [List.getElem?_append_right (Nat.le_of_not_lt hfd),
        List.getElem?_eq_none (Nat.le_of_not_lt hfd)]
      constructor
      · rintro ⟨hget, howner⟩
        rw [List.mem_singleton.mp (List.mem_of_getElem? hget)] at howner
        cases howner
      · rintro ⟨hget, -⟩
        cases hget

theorem named_opened (s : PidFiles) : s.opened.2.named = some s.opened.1 := by
  unfold opened
  split
  · assumption
  · rfl

theorem opened_of_named {s : PidFiles} {fd : Nat} (h : s.named = some fd) :
    s.opened.2.named = some fd := by
  unfold opened
  split
  · exact h
  · next hnone => cases hnone.symm.trans h

end PidFiles

/-- What the daemon of launch `i` may rely on at a step. -/
def DaemonStep.Holds (i pid : Nat) (files : PidFiles) : DaemonStep → Prop
  | .redirectStdio | .changeCurrDir | .openPidFile | .lockPidFile _ => True
  | .truncatePidFile fd => ∃ file, files.Owns i fd file
  | .writePidFile fd => ∃ file, files.Owns i fd file ∧ file.content = []
  | _ => ∃ fd file, files.Owns i fd file ∧ file.content = pidText pid

theorem DaemonStep.Holds.owns {i pid : Nat} {files : PidFiles} {s : DaemonStep}
    (h : s.Holds i pid files) (hlocked : s.locked = true) : ∃ fd file, files.Owns i fd file ∧
      (s.written = true → file.content = pidText pid) := by
  cases s with
  | redirectStdio | changeCurrDir | openPidFile | lockPidFile => cases hlocked
  | truncatePidFile fd =>
    obtain ⟨file, howns⟩ := h
    exact ⟨fd, file, howns, fun h => by cases h⟩
  | writePidFile fd =>
    obtain ⟨file, howns, -⟩ := h
    exact ⟨fd, file, howns, fun h => by cases h⟩
  | _ =>
    obtain ⟨fd, file, howns, hcontent⟩ := h
    exact ⟨fd, file, howns, fun _ => hcontent⟩

theorem DaemonStep.Holds.mono {i pid : Nat} {files files' : PidFiles} {s : DaemonStep}
    (h : s.Holds i pid files)
    (howns : ∀ fd file, files.Owns i fd file → files'.Owns i fd file) :
    s.Holds i pid files' := by
  cases s with
  | redirectStdio | changeCurrDir | openPidFile | lockPidFile => exact trivial
  | truncatePidFile fd =>
    obtain ⟨file, h⟩ := h
    exact ⟨file, howns fd file h⟩
  | writePidFile fd =>
    obtain ⟨file, h, hcontent⟩ := h
    exact ⟨file, howns fd file h, hcontent⟩
  | _ =>
    obtain ⟨fd, file, h, hcontent⟩ := h
    exact ⟨fd, file, howns fd file h, hcontent⟩

structure Quiet (i pid : Nat) (files : PidFiles) (s s' : DaemonStep) : Prop where
  holds : s.Holds i pid files → s'.Holds i pid files
  locked : s.locked = true → s'.locked = true
  later : ∀ fd, s' ≠ .lockPidFile fd

inductive FileMove (i pid : Nat) (files : PidFiles) (p : Process DaemonStep) :
    Stage DaemonStep → PidFiles → Prop
  | quiet {stage' : Stage DaemonStep} :
      (∀ s', stage' = .doing s' → ∃ s, p.stage = .doing s ∧ Quiet i pid files s s') →
        FileMove i pid files p stage' files
  | open : p.stage = .doing .openPidFile →
      FileMove i pid files p (.doing (.lockPidFile files.opened.1)) files.opened.2
  | lock {fd : Nat} {file : PidFile} : p.stage = .doing (.lockPidFile fd) →
      files.files[fd]? = some file → file.owner = none →
      FileMove i pid files p (.doing (.truncatePidFile fd))
        (files.modify fd fun file => { file with owner := some i })
  | truncate {fd : Nat} : p.stage = .doing (.truncatePidFile fd) →
      FileMove i pid files p (.doing (.writePidFile fd))
        (files.modify fd fun file => { file with content := [] })
  | write {fd : Nat} : p.stage = .doing (.writePidFile fd) →
      FileMove i pid files p (.doing .loadConfig)
        (files.modify fd fun file => file.write (pidText pid))
  | cut {fd n : Nat} {texts : List Bytes} : p.stage = .doing (.writePidFile fd) →
      FileMove i pid files p (.exiting texts)
        (files.modify fd fun file => file.write ((pidText pid).take n))

section FileMoves

variable {env : Env} {i pid fd : Nat} {files : PidFiles} {p p' : Process DaemonStep}
  {a : Answer} {result : Process DaemonStep × PidFiles}

theorem quiet_failing (texts : List Bytes) :
    FileMove i pid files p (p.failing texts).stage files :=
  .quiet fun t ht => by cases ht

theorem quiet_exit : FileMove i pid files p p.exit.stage files :=
  .quiet fun t ht => by cases ht

theorem quiet_doing {s s' : DaemonStep} (hs : p.stage = .doing s) (hs' : p'.stage = .doing s')
    (hquiet : Quiet i pid files s s') : FileMove i pid files p p'.stage files := by
  refine .quiet fun t ht => ?_
  cases hs'.symm.trans ht
  exact ⟨s, hs, hquiet⟩

theorem quiet_orExit {msg : Bytes} {next : Process DaemonStep} {s s' : DaemonStep}
    (h : p.orExit env msg next a = some p') (hs : p.stage = .doing s)
    (hs' : next.stage = .doing s') (hquiet : Quiet i pid files s s') :
    FileMove i pid files p p'.stage files := by
  rcases orExit_cases h with ⟨-, rfl⟩ | ⟨e, -, rfl⟩
  · exact quiet_doing hs hs' hquiet
  · exact quiet_failing _

theorem file_step09 (hs : p.stage = .doing .redirectStdio)
    (h : step09RedirectStdioToDevnull env p a = some p') :
    FileMove i pid files p p'.stage files := by
  unfold step09RedirectStdioToDevnull at h
  exact quiet_orExit h hs rfl ⟨id, id, by simp⟩

theorem file_step11 (hs : p.stage = .doing .changeCurrDir)
    (h : step11ChangeCurrDir env p a = some p') : FileMove i pid files p p'.stage files := by
  unfold step11ChangeCurrDir at h
  exact quiet_orExit h hs rfl ⟨id, id, by simp⟩

theorem file_step12Open (hs : p.stage = .doing .openPidFile)
    (h : step12Open env files p a = some result) :
    FileMove i pid files p result.1.stage result.2 := by
  obtain ⟨next, hnext, hresult⟩ := Option.map_eq_some_iff.mp h
  rcases orExit_cases hnext with ⟨rfl, rfl⟩ | ⟨e, rfl, rfl⟩
  · cases hresult
    exact .open hs
  · cases hresult
    exact quiet_failing _

theorem file_step12Lock (hs : p.stage = .doing (.lockPidFile fd))
    (h : step12Lock env i fd files p a = some result) :
    FileMove i pid files p result.1.stage result.2 := by
  obtain ⟨next, hnext, hresult⟩ := Option.bind_eq_some_iff.mp h
  rcases orExit_cases hnext with ⟨rfl, rfl⟩ | ⟨e, rfl, rfl⟩
  · obtain ⟨hfree, heq⟩ := Option.ite_none_right_eq_some.mp hresult
    cases heq
    obtain ⟨file, hget, howner⟩ := (Option.any_eq_true _ _).mp hfree
    exact .lock hs hget (of_decide_eq_true howner)
  · cases hresult
    exact quiet_failing _

theorem file_step12Truncate (hs : p.stage = .doing (.truncatePidFile fd))
    (h : step12Truncate env fd files p a = some result) :
    FileMove i pid files p result.1.stage result.2 := by
  obtain ⟨next, hnext, hresult⟩ := Option.map_eq_some_iff.mp h
  rcases orExit_cases hnext with ⟨rfl, rfl⟩ | ⟨e, rfl, rfl⟩
  · cases hresult
    exact .truncate hs
  · cases hresult
    exact quiet_failing _

theorem file_step12Write (hs : p.stage = .doing (.writePidFile fd))
    (h : step12Write env pid fd files p a = some result) :
    FileMove i pid files p result.1.stage result.2 := by
  cases a with
  | done =>
    cases h
    exact .write hs
  | short n e =>
    obtain ⟨-, heq⟩ := Option.ite_none_right_eq_some.mp h
    cases heq
    exact .cut hs
  | error e =>
    cases h
    exact quiet_failing _
  | _ => cases h

theorem file_loadConfig (hs : p.stage = .doing .loadConfig) (h : loadConfig p a = some p') :
    FileMove i pid files p p'.stage files := by
  cases a with
  | parsed root =>
    cases h
    exact quiet_doing hs rfl ⟨id, id, by simp⟩
  | throws what =>
    cases h
    exact quiet_failing _
  | throwsOther =>
    cases h
    exact quiet_failing _
  | _ => cases h

theorem file_setupLogging {c : Engine.ConfigImpl} (hs : p.stage = .doing (.setupLogging c))
    (h : setupLogging c p a = some p') : FileMove i pid files p p'.stage files := by
  cases a with
  | done =>
    cases h
    exact quiet_doing hs rfl ⟨id, id, by simp⟩
  | throws what =>
    cases h
    exact quiet_failing _
  | throwsOther =>
    cases h
    exact quiet_exit
  | _ => cases h

theorem file_initEngine {c : Engine.ConfigImpl} (hs : p.stage = .doing (.initEngine c))
    (h : initEngine env c p a = some p') : FileMove i pid files p p'.stage files := by
  cases a with
  | init answers f =>
    simp only [initEngine] at h
    split at h
    · cases h
      exact quiet_exit
    · cases h
      exact quiet_failing _
    · cases h
      exact quiet_doing hs rfl ⟨id, id, by simp⟩
  | _ => cases h

theorem file_notify {l : Launch} {engine : Engine.Engine}
    (hs : p.stage = .doing (.notifyInitComplete engine)) :
    FileMove i pid files p (l.step14NotifyInitComplete p engine).1.stage files := by
  have hrun : ∀ s', Stage.doing (DaemonStep.run engine) = .doing s' →
      ∃ s, p.stage = .doing s ∧ Quiet i pid files s s' := by
    rintro s' ⟨⟩
    exact ⟨_, hs, id, id, by simp⟩
  rcases l.writeString_cases p
    { p with fds := p.fds.close p.pipeWriteFd, stage := .doing (.run engine) }
    initComplete with ⟨-, -, heq⟩ | ⟨-, -, heq⟩ | ⟨-, heq⟩
  · rw [Launch.step14NotifyInitComplete, heq]
    exact .quiet hrun
  · rw [Launch.step14NotifyInitComplete, heq]
    exact quiet_exit
  · rw [Launch.step14NotifyInitComplete, heq]
    exact .quiet hrun

end FileMoves

theorem daemonResult_file {env : Env} {i : Nat} {files files' : PidFiles} {l : Launch}
    {p : Process DaemonStep} {a : Answer} {result : Process DaemonStep × Bytes}
    (h : l.daemonResult env i files p a = some (result, files')) :
    FileMove i l.daemonPid files p result.1.stage files' := by
  unfold Launch.daemonResult at h
  split at h
  case h_3 | h_4 | h_5 | h_6 =>
    next hs =>
    obtain ⟨next, hnext, heq⟩ := Option.map_eq_some_iff.mp h
    cases heq
    first
      | exact file_step12Open hs hnext
      | exact file_step12Lock hs hnext
      | exact file_step12Truncate hs hnext
      | exact file_step12Write hs hnext
  case h_10 engine hs =>
    cases h
    exact file_notify hs
  case h_11 =>
    cases h
    exact quiet_exit
  case h_12 texts _ =>
    cases h
    have hstage := (l.exitStep_stage DaemonStep.rank p texts).2.2.1
    exact .quiet fun s' hs' => absurd hs' (hstage s')
  case h_13 => cases h
  all_goals
    next hs =>
    obtain ⟨next, hnext, heq⟩ := Option.map_eq_some_iff.mp h
    cases heq
    first
      | exact file_step09 hs hnext
      | exact file_step11 hs hnext
      | exact file_loadConfig hs hnext
      | exact file_setupLogging hs hnext
      | exact file_initEngine hs hnext

def Claims (i : Nat) (files : PidFiles) (l : Launch) : Prop :=
  ∀ d s, l.daemon = some d → d.stage = .doing s → s.Holds i l.daemonPid files

def Alive (i : Nat) (files : PidFiles) (l : Launch) : Prop :=
  ∀ fd file, files.Owns i fd file → ∃ d, l.daemon = some d ∧ d.stage ≠ .gone ∧
    ∀ s, d.stage = .doing s → s.locked = true

/-- What a daemon has opened is what is at the path. -/
structure AtPath (i : Nat) (files : PidFiles) (l : Launch) : Prop where
  opened : ∀ d fd, l.daemon = some d → d.stage = .doing (.lockPidFile fd) →
    files.named = some fd
  owned : ∀ d s fd file, l.daemon = some d → d.stage = .doing s → files.Owns i fd file →
    files.named = some fd

/-- A step of one launch, as it is seen by all of them. -/
structure LockStep (i : Nat) (files files' : PidFiles) (l l' : Launch) : Prop where
  claims : Claims i files' l'
  alive : Alive i files' l'
  spares : PidFiles.Spares i files files'
  named : ∀ fd, files.named = some fd → files'.named = some fd
  atPath : AtPath i files l → AtPath i files' l'

theorem lockStep_same {i : Nat} {files : PidFiles} {l l' : Launch}
    (hclaims : Claims i files l) (halive : Alive i files l) (hd : l'.daemon = l.daemon)
    (hpid : l'.daemonPid = l.daemonPid) : LockStep i files files l l' where
  claims := by
    intro d s hd' hs
    rw [hd] at hd'
    rw [hpid]
    exact hclaims d s hd' hs
  alive := by
    unfold Alive
    rw [hd]
    exact halive
  spares := PidFiles.spares_same rfl
  named := fun _ => id
  atPath := by
    rintro ⟨hopened, howned⟩
    constructor
    · rw [hd]
      exact hopened
    · rw [hd]
      exact howned

theorem lockStep_gone {i : Nat} {files : PidFiles} {l l' : Launch} {d : Process DaemonStep}
    (hd : l'.daemon = some d) (hgone : d.stage = .gone) :
    LockStep i files (files.release i) l l' where
  claims := by
    intro d' s hd' hs
    cases hd.symm.trans hd'
    cases hgone.symm.trans hs
  alive := fun fd file h => absurd rfl (PidFiles.owns_release.mp h).1
  spares := PidFiles.spares_release
  named := fun _ => id
  atPath := by
    intro _
    constructor
    · intro d' fd hd' hs
      cases hd.symm.trans hd'
      cases hgone.symm.trans hs
    · intro d' s fd file hd' hs
      cases hd.symm.trans hd'
      cases hgone.symm.trans hs

theorem isGone_iff {S : Type} {p : Process S} : p.isGone = true ↔ p.stage = .gone := by
  unfold Process.isGone
  split
  · next hs => simp [hs]
  · next hs => simpa using hs

section Daemon

variable {i : Nat} {files : PidFiles} {l l' : Launch} {d d' : Process DaemonStep}

theorem lockStep_quiet (hclaims : Claims i files l) (halive : Alive i files l)
    (hd : l.daemon = some d) (hd' : l'.daemon = some d') (hpid : l'.daemonPid = l.daemonPid)
    (hnot : d'.stage ≠ .gone) (hquiet : ∀ s', d'.stage = .doing s' →
      ∃ s, d.stage = .doing s ∧ Quiet i l.daemonPid files s s') :
    LockStep i files files l l' where
  claims := by
    intro e s' he hs'
    cases hd'.symm.trans he
    obtain ⟨s, hs, hholds, -⟩ := hquiet s' hs'
    rw [hpid]
    exact hholds (hclaims d s hd hs)
  alive := by
    intro fd file howns
    obtain ⟨e, he, -, hlocked⟩ := halive fd file howns
    cases hd.symm.trans he
    refine ⟨d', hd', hnot, fun s' hs' => ?_⟩
    obtain ⟨s, hs, -, hkeeps, -⟩ := hquiet s' hs'
    exact hkeeps (hlocked s hs)
  spares := PidFiles.spares_same rfl
  named := fun _ => id
  atPath := by
    intro hpath
    constructor
    · intro e fd he hs'
      cases hd'.symm.trans he
      obtain ⟨s, -, -, -, hlater⟩ := hquiet _ hs'
      exact absurd rfl (hlater fd)
    · intro e s' fd file he hs' howns
      cases hd'.symm.trans he
      obtain ⟨s, hs, -⟩ := hquiet s' hs'
      exact hpath.owned d s fd file hd hs howns

theorem lockStep_open (halive : Alive i files l) (hd : l.daemon = some d)
    (hs : d.stage = .doing .openPidFile) (hd' : l'.daemon = some d')
    (hs' : d'.stage = .doing (.lockPidFile files.opened.1)) :
    LockStep i files files.opened.2 l l' := by
  -- It has nothing locked yet.
  have hfree : ∀ fd file, ¬ files.opened.2.Owns i fd file := by
    intro fd file howns
    obtain ⟨e, he, -, hlocked⟩ := halive fd file (PidFiles.owns_opened.mp howns)
    cases hd.symm.trans he
    cases hlocked _ hs
  exact {
    claims := by
      intro e s he hs
      cases hd'.symm.trans he
      cases hs'.symm.trans hs
      exact trivial
    alive := fun fd file howns => absurd howns (hfree fd file)
    spares := fun _ _ _ _ => PidFiles.owns_opened
    named := fun _ => PidFiles.opened_of_named
    atPath := by
      intro _
      constructor
      · intro e fd he hs
        cases hd'.symm.trans he
        cases hs'.symm.trans hs
        exact files.named_opened
      · intro e s fd file _ _ howns
        exact absurd howns (hfree fd file) }

/-- A change to the file that the daemon has locked, or locks now. -/
theorem lockStep_modify {fd : Nat} {file : PidFile} {f : PidFile → PidFile}
    {stage' : Stage DaemonStep} (hget : files.files[fd]? = some file)
    (hbefore : ∀ j, file.owner = some j → j = i) (hafter : (f file).owner = some i)
    (hd : l.daemon = some d) {s : DaemonStep} (hs : d.stage = .doing s)
    (hat : s = .lockPidFile fd ∨ file.owner = some i)
    (hd' : l'.daemon = some d') (hstage : d'.stage = stage')
    (hnot : stage' ≠ .gone) (hdoing : ∀ s', stage' = .doing s' → s'.locked = true ∧
      s'.Holds i l'.daemonPid (files.modify fd f)) :
    LockStep i files (files.modify fd f) l l' where
  claims := by
    intro e s' he hs'
    cases hd'.symm.trans he
    exact (hdoing s' (hstage.symm.trans hs')).2
  alive := by
    intro _ _ _
    refine ⟨d', hd', hstage ▸ hnot, fun s' hs' => ?_⟩
    exact (hdoing s' (hstage.symm.trans hs')).1
  spares := PidFiles.spares_modify hget hbefore hafter
  named := fun _ => id
  atPath := by
    intro hpath
    have hnamed : files.named = some fd := by
      rcases hat with rfl | howner
      · exact hpath.opened d fd hd hs
      · exact hpath.owned d s fd file hd hs ⟨hget, howner⟩
    constructor
    · intro e fd' he hs'
      cases hd'.symm.trans he
      cases (hdoing _ (hstage.symm.trans hs')).1
    · intro e s' fd' file' _ _ howns
      by_cases hfd : fd = fd'
      · subst hfd
        exact hnamed
      · rw [PidFiles.Owns, PidFiles.getElem?_modify_ne f hfd] at howns
        exact hpath.owned d s fd' file' hd hs howns

end Daemon

theorem lockStep_daemon {env : Env} {i : Nat} {files files' : PidFiles} {l l' : Launch}
    {d : Process DaemonStep} {a : Answer} (hclaims : Claims i files l)
    (halive : Alive i files l) (hd : l.daemon = some d)
    (hs : l.daemonStep env i files d a = some (l', files')) :
    LockStep i files files' l l' := by
  obtain ⟨⟨result, f⟩, hresult, heq⟩ := Option.map_eq_some_iff.mp hs
  have hmove := daemonResult_file hresult
  generalize hstage : result.1.stage = stage' at hmove
  cases hgone : result.1.isGone with
  | true =>
    rw [hgone, if_pos rfl] at heq
    cases heq
    rw [isGone_iff.mp hgone] at hstage
    subst hstage
    cases hmove with
    | quiet _ => exact lockStep_gone rfl (isGone_iff.mp hgone)
  | false =>
    rw [hgone, if_neg Bool.false_ne_true] at heq
    cases heq
    have hnot : result.1.stage ≠ .gone := fun h => by
      rw [isGone_iff.mpr h] at hgone
      cases hgone
    cases hmove with
    | quiet hquiet =>
      exact lockStep_quiet hclaims halive hd rfl rfl hnot
        fun s' hs' => hquiet s' (hstage.symm.trans hs')
    | «open» hat => exact lockStep_open halive hd hat rfl hstage
    | lock hat hget hfree =>
      refine lockStep_modify hget (fun j hj => ?_) rfl hd hat (Or.inl rfl) rfl hstage
        (by simp) ?_
      · cases hfree.symm.trans hj
      · rintro s' ⟨⟩
        exact ⟨rfl, _, PidFiles.owns_modify hget rfl⟩
    | truncate hat =>
      obtain ⟨file, hget, howner⟩ := hclaims d _ hd hat
      refine lockStep_modify hget (fun j hj => ?_) howner hd hat (Or.inr howner) rfl hstage
        (by simp) ?_
      · exact Option.some.inj (hj.symm.trans howner)
      · rintro s' ⟨⟩
        exact ⟨rfl, _, PidFiles.owns_modify hget howner, rfl⟩
    | @write fd hat =>
      obtain ⟨file, ⟨hget, howner⟩, hempty⟩ := hclaims d _ hd hat
      refine lockStep_modify hget (fun j hj => ?_) howner hd hat (Or.inr howner) rfl hstage
        (by simp) ?_
      · exact Option.some.inj (hj.symm.trans howner)
      · rintro s' ⟨⟩
        refine ⟨rfl, fd, _, PidFiles.owns_modify hget howner, ?_⟩
        simp only [PidFile.write, hempty, List.drop_nil, List.append_nil]
        rfl
    | cut hat =>
      obtain ⟨file, ⟨hget, howner⟩, -⟩ := hclaims d _ hd hat
      refine lockStep_modify hget (fun j hj => ?_) howner hd hat (Or.inr howner) rfl hstage
        (by simp) ?_
      · exact Option.some.inj (hj.symm.trans howner)
      · rintro s' ⟨⟩

theorem lockStep_child {env : Env} {past : Event → Prop} {i : Nat} {files : PidFiles}
    {l l' : Launch} (hsound : Sound env past l) (hclaims : Claims i files l)
    (halive : Alive i files l) {c : Process ChildStep} (hc : l.child = some c) {a : Answer}
    (h : ChildMove env l c a l') : LockStep i files files l l' := by
  cases h with
  | @fork pid hs =>
    -- There is no daemon yet that could have a file locked.
    have hd : l.daemon = none := by
      cases hd : l.daemon with
      | none => rfl
      | some d =>
        obtain ⟨c', hc', hstage⟩ := hsound.alone d hd
        cases hc.symm.trans hc'
        rw [hs] at hstage
        simp at hstage
    have hfree : ∀ fd file, ¬ files.Owns i fd file := by
      intro fd file howns
      obtain ⟨d, hd', -⟩ := halive fd file howns
      cases hd.symm.trans hd'
    refine ⟨?_, fun fd file h => absurd h (hfree fd file), PidFiles.spares_same rfl,
      fun _ => id, fun _ => ⟨?_, fun _ _ fd file _ _ h => absurd h (hfree fd file)⟩⟩
    · rintro d s ⟨⟩ ⟨⟩
      exact trivial
    · rintro d fd ⟨⟩ hs
      cases hs
  | _ => exact lockStep_same hclaims halive rfl rfl

theorem lockStep {env : Env} {past : Event → Prop} {i : Nat} {files files' : PidFiles}
    {l l' : Launch} {a : LaunchAction} (hsound : Sound env past l)
    (hclaims : Claims i files l) (halive : Alive i files l)
    (hs : l.step env i files a = some (l', files')) : LockStep i files files' l l' := by
  cases a with
  | parentReads =>
    obtain ⟨l'', hl, heq⟩ := Option.map_eq_some_iff.mp hs
    cases heq
    obtain ⟨-, heq⟩ := Option.ite_none_right_eq_some.mp hl
    cases heq
    unfold Launch.step15ExitOrgProcess
    split
    all_goals exact lockStep_same hclaims halive rfl rfl
  | parentInterrupted e =>
    obtain ⟨l'', hl, heq⟩ := Option.map_eq_some_iff.mp hs
    cases heq
    obtain ⟨-, heq⟩ := Option.ite_none_right_eq_some.mp hl
    cases heq
    exact lockStep_same hclaims halive rfl rfl
  | parentKilled =>
    obtain ⟨-, heq⟩ := Option.ite_none_right_eq_some.mp hs
    cases heq
    exact lockStep_same hclaims halive rfl rfl
  | child a =>
    obtain ⟨c, hc, hmap⟩ := Option.bind_eq_some_iff.mp hs
    obtain ⟨l'', hl, heq⟩ := Option.map_eq_some_iff.mp hmap
    cases heq
    exact lockStep_child hsound hclaims halive hc (childStep_move hl)
  | childKilled =>
    obtain ⟨c, hc, hgone⟩ := Option.bind_eq_some_iff.mp hs
    obtain ⟨-, heq⟩ := Option.ite_none_left_eq_some.mp hgone
    cases heq
    exact lockStep_same hclaims halive rfl rfl
  | daemon a =>
    obtain ⟨d, hd, hstep⟩ := Option.bind_eq_some_iff.mp hs
    exact lockStep_daemon hclaims halive hd hstep
  | daemonKilled =>
    obtain ⟨d, hd, hgone⟩ := Option.bind_eq_some_iff.mp hs
    obtain ⟨-, heq⟩ := Option.ite_none_left_eq_some.mp hgone
    cases heq
    exact lockStep_gone rfl rfl

namespace World

structure Locked (env : Env) (w : World) : Prop where
  sound : ∀ l ∈ w.launches, Sound env (Event.Possible env) l
  claims : ∀ i l, w.launches[i]? = some l → Claims i w.pidFiles l
  alive : ∀ i l, w.launches[i]? = some l → Alive i w.pidFiles l
  launched : ∀ i fd file, w.pidFiles.Owns i fd file → ∃ l, w.launches[i]? = some l

def AtPaths (w : World) : Prop := ∀ i l, w.launches[i]? = some l → AtPath i w.pidFiles l

theorem added_cases {w : World} {stdio : Stdio} {sigpipeIgnored : Bool} {args : List Bytes}
    {failure : Option Bytes} {i : Nat} {l : Launch}
    (h : (w.launches ++ [daemonize stdio sigpipeIgnored args failure])[i]? = some l) :
    w.launches[i]? = some l ∨ w.launches[i]? = none ∧ l.daemon = none := by
  by_cases hlt : i < w.launches.length
  · rw [List.getElem?_append_left hlt] at h
    exact Or.inl h
  · rw [List.getElem?_append_right (Nat.le_of_not_lt hlt)] at h
    refine Or.inr ⟨List.getElem?_eq_none (Nat.le_of_not_lt hlt), ?_⟩
    rw [List.mem_singleton.mp (List.mem_of_getElem? h)]
    cases failure <;> rfl

theorem Locked.launch {env : Env} {w w' : World} (h : Locked env w)
    (hsound : ∀ l ∈ w'.launches, Sound env (Event.Possible env) l) {stdio : Stdio}
    {sigpipeIgnored : Bool} {args : List Bytes} {failure : Option Bytes}
    (hfiles : w'.pidFiles = w.pidFiles)
    (hw : w'.launches = w.launches ++ [daemonize stdio sigpipeIgnored args failure]) :
    Locked env w' ∧ (AtPaths w → AtPaths w') := by
  refine ⟨⟨hsound, fun i l hl => ?_, fun i l hl => ?_, fun i fd file howns => ?_⟩,
    fun hpaths i l hl => ?_⟩
  · rw [hfiles]
    rw [hw] at hl
    rcases added_cases hl with hold | ⟨-, hnone⟩
    · exact h.claims i l hold
    · intro d s hd
      cases hnone.symm.trans hd
  · rw [hfiles]
    rw [hw] at hl
    rcases added_cases hl with hold | ⟨hnew, -⟩
    · exact h.alive i l hold
    · intro fd file howns
      obtain ⟨m, hm⟩ := h.launched i fd file howns
      cases hnew.symm.trans hm
  · rw [hfiles] at howns
    obtain ⟨l, hl⟩ := h.launched i fd file howns
    refine ⟨l, ?_⟩
    rw [hw, List.getElem?_append_left (List.getElem?_eq_some_iff.mp hl).1, hl]
  · rw [hfiles]
    rw [hw] at hl
    rcases added_cases hl with hold | ⟨-, hnone⟩
    · exact hpaths i l hold
    · constructor
      · intro d fd hd
        cases hnone.symm.trans hd
      · intro d s fd file hd
        cases hnone.symm.trans hd

theorem Locked.act {env : Env} {w w' : World} (h : Locked env w)
    (hsound : ∀ l ∈ w'.launches, Sound env (Event.Possible env) l) {i : Nat}
    {a : LaunchAction} {l l' : Launch} (hl : w.launches[i]? = some l)
    (hstep : l.step env i w.pidFiles a = some (l', w'.pidFiles))
    (hw : w'.launches = w.launches.set i l') :
    Locked env w' ∧ (AtPaths w → AtPaths w') := by
  have hlt : i < w.launches.length := (List.getElem?_eq_some_iff.mp hl).1
  have hlock :=
    lockStep (h.sound l (List.mem_of_getElem? hl)) (h.claims i l hl) (h.alive i l hl) hstep
  have hcases : ∀ j m, w'.launches[j]? = some m →
      j = i ∧ m = l' ∨ j ≠ i ∧ w.launches[j]? = some m := by
    intro j m hm
    rw [hw] at hm
    by_cases hij : i = j
    · subst hij
      rw [List.getElem?_set_self hlt] at hm
      exact Or.inl ⟨rfl, (Option.some.inj hm).symm⟩
    · rw [List.getElem?_set_ne hij] at hm
      exact Or.inr ⟨Ne.symm hij, hm⟩
  refine ⟨⟨hsound, fun j m hm => ?_, fun j m hm => ?_, fun j fd file howns => ?_⟩,
    fun hpaths j m hm => ?_⟩
  · rcases hcases j m hm with ⟨rfl, rfl⟩ | ⟨hj, hm⟩
    · exact hlock.claims
    · exact fun d s hd hs => (h.claims j m hm d s hd hs).mono
        fun fd file => (hlock.spares j fd file hj).mpr
  · rcases hcases j m hm with ⟨rfl, rfl⟩ | ⟨hj, hm⟩
    · exact hlock.alive
    · exact fun fd file howns => h.alive j m hm fd file ((hlock.spares j fd file hj).mp howns)
  · by_cases hj : j = i
    · subst hj
      exact ⟨l', by rw [hw, List.getElem?_set_self hlt]⟩
    · obtain ⟨m, hm⟩ := h.launched j fd file ((hlock.spares j fd file hj).mp howns)
      exact ⟨m, by rw [hw, List.getElem?_set_ne (Ne.symm hj), hm]⟩
  · rcases hcases j m hm with ⟨rfl, rfl⟩ | ⟨hj, hm⟩
    · exact hlock.atPath (hpaths j l hl)
    · obtain ⟨hopened, howned⟩ := hpaths j m hm
      constructor
      · exact fun d fd hd hs => hlock.named fd (hopened d fd hd hs)
      · exact fun d s fd file hd hs howns => hlock.named fd
          (howned d s fd file hd hs ((hlock.spares j fd file hj).mp howns))

end World

def Launch.usesPidFile (l : Launch) : Bool :=
  l.daemon.any fun d =>
    match d.stage with
    | .doing s => s.opened
    | _ => false

theorem Launch.opened_of_not_uses {l : Launch} {d : Process DaemonStep} {s : DaemonStep}
    (h : l.usesPidFile = false) (hd : l.daemon = some d) (hs : d.stage = .doing s) :
    s.opened = false := by
  simpa [usesPidFile, hd, hs] using h

namespace World

/-- The PID file is removed only when no daemon has it open. -/
def RemovesUnused (w : World) : Action → Prop
  | .removePidFile => ∀ l ∈ w.launches, l.usesPidFile = false
  | _ => True

instance (w : World) (a : Action) : Decidable (RemovesUnused w a) :=
  match a with
  | .removePidFile => inferInstanceAs (Decidable (∀ l ∈ w.launches, l.usesPidFile = false))
  | .launch .. | .act .. => inferInstanceAs (Decidable True)

theorem Locked.step {env : Env} {w w' : World} {a : Action} (h : Locked env w)
    (hs : w.step env a = some w') :
    Locked env w' ∧ (RemovesUnused w a → AtPaths w → AtPaths w') := by
  have hsound := sound_step h.sound hs
  rcases step_cases hs with
    ⟨_, _, _, _, -, hfiles, hw⟩ | ⟨_, _, _, _, -, hl, hstep, hw⟩ | ⟨rfl, rfl⟩
  · obtain ⟨hlocked, hpaths⟩ := h.launch hsound hfiles hw
    exact ⟨hlocked, fun _ => hpaths⟩
  · obtain ⟨hlocked, hpaths⟩ := h.act hsound hl hstep hw
    exact ⟨hlocked, fun _ => hpaths⟩
  · refine ⟨⟨hsound, ?_, h.alive, h.launched⟩, fun hunused _ i l hl => ?_⟩
    · intro i l hl d s hd hs
      exact (h.claims i l hl d s hd hs).mono fun _ _ => id
    · have hfree := hunused l (List.mem_of_getElem? hl)
      constructor
      · intro d fd hd hs
        cases Launch.opened_of_not_uses hfree hd hs
      · intro d s fd file hd hs howns
        obtain ⟨d', hd', -, hlocked⟩ := h.alive i l hl fd file howns
        cases hd.symm.trans hd'
        have hopened := DaemonStep.opened_of_locked (hlocked s hs)
        cases (Launch.opened_of_not_uses hfree hd hs).symm.trans hopened

/-- However often the program is started, and however the steps of all the processes
interleave: a daemon that is past the lock has a PID file to itself, in which, once it is
written, is its own number and nothing else, and a lock is held by a daemon that has taken it
and is not gone. As long as the file is removed only when no daemon has it open, this is the
file at the path, and there is one such daemon at most. -/
theorem one_daemon_at_a_time {env : Env} {w : World} {as : List Action}
    (h : Runs.run (step env) {} as = some w) :
    (∀ (i : Nat) (l : Launch) (d : Process DaemonStep) (s : DaemonStep),
      w.launches[i]? = some l → l.daemon = some d → d.stage = .doing s → s.locked = true →
      ∃ fd file, w.pidFiles.Owns i fd file ∧
        (s.written = true → file.content = pidText l.daemonPid) ∧
        (Runs.Always (step env) RemovesUnused {} as → w.pidFiles.named = some fd)) ∧
    (∀ (i fd : Nat) (file : PidFile), w.pidFiles.Owns i fd file →
      ∃ (l : Launch) (d : Process DaemonStep), w.launches[i]? = some l ∧
        l.daemon = some d ∧ d.stage ≠ .gone ∧ ∀ s, d.stage = .doing s → s.locked = true) ∧
    (Runs.Always (step env) RemovesUnused {} as →
      ∀ (i j : Nat) (l m : Launch) (d d' : Process DaemonStep) (s s' : DaemonStep),
        w.launches[i]? = some l → w.launches[j]? = some m →
        l.daemon = some d → m.daemon = some d' → d.stage = .doing s → d'.stage = .doing s' →
        s.locked = true → s'.locked = true → i = j) := by
  have hempty : Locked env {} ∧ AtPaths {} := by
    refine ⟨⟨fun l hl => ?_, fun i l hl => ?_, fun i l hl => ?_, fun i fd file howns => ?_⟩,
      fun i l hl => ?_⟩
    · cases hl
    · cases hl
    · cases hl
    · cases howns.1
    · cases hl
  have hlocked : Locked env w :=
    Runs.run_preserves (fun hP hs => (hP.step hs).1) hempty.1 h
  have hpaths : Runs.Always (step env) RemovesUnused {} as → AtPaths w := by
    intro hremoves
    have hboth := Runs.run_guarded (P := fun w => Locked env w ∧ AtPaths w)
      (fun hP hok hs => ⟨(hP.1.step hs).1, (hP.1.step hs).2 hok hP.2⟩) hempty h hremoves
    exact hboth.2
  have hfirst : ∀ (i : Nat) (l : Launch) (d : Process DaemonStep) (s : DaemonStep),
      w.launches[i]? = some l → l.daemon = some d → d.stage = .doing s → s.locked = true →
      ∃ fd file, w.pidFiles.Owns i fd file ∧
        (s.written = true → file.content = pidText l.daemonPid) ∧
        (Runs.Always (step env) RemovesUnused {} as → w.pidFiles.named = some fd) := by
    intro i l d s hl hd hs hlock
    obtain ⟨fd, file, howns, hcontent⟩ := (hlocked.claims i l hl d s hd hs).owns hlock
    exact ⟨fd, file, howns, hcontent,
      fun hremoves => (hpaths hremoves i l hl).owned d s fd file hd hs howns⟩
  refine ⟨hfirst, ?_, ?_⟩
  · intro i fd file howns
    obtain ⟨l, hl⟩ := hlocked.launched i fd file howns
    obtain ⟨d, hd, hstage⟩ := hlocked.alive i l hl fd file howns
    exact ⟨l, d, hl, hd, hstage⟩
  · intro hremoves i j l m d d' s s' hl hm hd hd' hs hs' hlock hlock'
    obtain ⟨fd, file, howns, -, hnamed⟩ := hfirst i l d s hl hd hs hlock
    obtain ⟨fd', file', howns', -, hnamed'⟩ := hfirst j m d' s' hm hd' hs' hlock'
    cases (hnamed hremoves).symm.trans (hnamed' hremoves)
    exact howns.owner_eq howns'

def sampleSuccessor : List Action :=
  [.launch {} false [] none, .act 1 (.child .done), .act 1 (.child (.forked 9)),
   .act 1 (.daemon .done), .act 1 (.daemon .done), .act 1 (.daemon .done),
   .act 1 (.daemon .done), .act 1 (.daemon .done), .act 1 (.daemon .done)]

/-- The first daemon ends, the file is removed, and the next one makes its own. -/
def sampleRestart : List Action :=
  sampleFirst ++ [.act 0 .daemonKilled, .removePidFile] ++ sampleSuccessor

theorem one_daemon_at_a_time_sample : ∃ (toml : Toml.Codec) (w : World) (l : Launch)
    (d : Process DaemonStep) (s : DaemonStep) (file : PidFile),
    Runs.run (step (sampleEnv toml)) {} sampleRestart = some w ∧
    w.launches[1]? = some l ∧ l.daemon = some d ∧ d.stage = .doing s ∧ s.written = true ∧
    w.pidFiles.named = some 1 ∧ w.pidFiles.Owns 1 1 file ∧ file.content = pidText 9 ∧
    ∀ i m d' s', w.launches[i]? = some m → m.daemon = some d' → d'.stage = .doing s' →
      s'.locked = true → i = 1 := by
  obtain ⟨toml, -⟩ := Engine.exists_sample_codec
  have hrun : ∃ w l d s, Runs.run (step (sampleEnv toml)) {} sampleRestart = some w ∧
      w.launches[1]? = some l ∧ l.daemon = some d ∧ d.stage = .doing s ∧
      s.locked = true ∧ s.written = true ∧ w.pidFiles.named = some 1 ∧ l.daemonPid = 9 :=
    ⟨_, _, _, _, rfl, rfl, rfl, rfl, rfl, rfl, rfl, rfl⟩
  have hremoves : Runs.Always (step (sampleEnv toml)) RemovesUnused {} sampleRestart :=
    Runs.checks_iff.mp rfl
  obtain ⟨w, l, d, s, hrun, hl, hd, hs, hlocked, hwritten, hname, hpid⟩ := hrun
  obtain ⟨hhas, -, hone⟩ := one_daemon_at_a_time hrun
  obtain ⟨fd, file, howns, hcontent, hnamed⟩ := hhas 1 l d s hl hd hs hlocked
  cases hname.symm.trans (hnamed hremoves)
  refine ⟨toml, w, l, d, s, file, hrun, hl, hd, hs, hwritten, hname, howns, ?_, ?_⟩
  · rw [hcontent hwritten, hpid]
  · intro i m d' s' hm hd' hs' hlocked'
    exact hone hremoves i 1 m l d' d s' s hm hl hd' hd hs' hs hlocked' hlocked

/-- Where the file is removed under a daemon, the next one locks another file. -/
example (toml : Toml.Codec) : ∃ w l l' d d' s s',
    Runs.run (step (sampleEnv toml)) {} (sampleFirst ++ .removePidFile :: sampleSuccessor) =
      some w ∧ w.launches = [l, l'] ∧ l.daemon = some d ∧ l'.daemon = some d' ∧
    d.stage = .doing s ∧ d'.stage = .doing s' ∧ s.locked = true ∧ s'.locked = true :=
  ⟨_, _, _, _, _, _, _, rfl, rfl, rfl, rfl, rfl, rfl, rfl, rfl⟩

end World

end Ocvsmd.Startup
