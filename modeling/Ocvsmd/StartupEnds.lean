import Ocvsmd.StartupReport

set_option autoImplicit false

namespace Ocvsmd.Startup

open Ipc (Bytes Errno)

theorem DaemonStep.rank_pos (s : DaemonStep) : 0 < s.rank := by
  cases s <;> simp [DaemonStep.rank]

theorem DaemonMove.rank_lt {env : Env} {l : Launch} {d : Process DaemonStep}
    {a : Answer} {result : Process DaemonStep × Bytes} (h : DaemonMove env l d a result) :
    result.1.stage.rank DaemonStep.rank < d.stage.rank DaemonStep.rank := by
  cases h with
  | advance hs hadv =>
    rw [hs, hadv.stage]
    exact hadv.passes.rank_lt
  | @fail s report hs hfails =>
    have hlength := hfails.report.length_le
    have hrank := hfails.rank
    rw [hs]
    change report.length + 1 < s.rank
    omega
  | @leave s hs =>
    rw [hs]
    exact s.rank_pos
  | @notify engine hs =>
    rw [hs, Launch.step14NotifyInitComplete]
    rcases l.writeString_cases d
      { d with fds := d.fds.close d.pipeWriteFd, stage := .doing (.run engine) }
      initComplete with ⟨-, -, heq⟩ | ⟨-, -, heq⟩ | ⟨-, heq⟩
    all_goals
      rw [heq]
      simp [Stage.rank, DaemonStep.rank, Process.exit]
  | @exit texts hs =>
    obtain ⟨-, hrank, -⟩ := l.exitStep_stage DaemonStep.rank d texts
    rw [hs]
    exact Nat.lt_succ_of_le hrank

namespace Launch

def left (l : Launch) : Nat :=
  (if l.readerOpen then 1 else 0) +
    ((l.child.map fun c => c.stage.rank ChildStep.rank).getD 0 +
      (l.daemon.map fun d => d.stage.rank DaemonStep.rank).getD 0)

theorem left_withDaemon {env : Env} {l : Launch} {d : Process DaemonStep}
    (hd : l.daemon = some d) {a : Answer} {result : Process DaemonStep × Bytes}
    (h : DaemonMove env l d a result) : (l.withDaemon result).left < l.left := by
  have hrank := h.rank_lt
  have hafter : (l.withDaemon result).left = (if l.readerOpen then 1 else 0) +
      ((l.child.map fun c => c.stage.rank ChildStep.rank).getD 0 +
        result.1.stage.rank DaemonStep.rank) := rfl
  rw [hafter, left, hd, Option.map_some, Option.getD_some]
  omega

theorem left_withChild {l : Launch} {c : Process ChildStep} (hc : l.child = some c)
    {result : Process ChildStep × Bytes}
    (h : result.1.stage.rank ChildStep.rank < c.stage.rank ChildStep.rank) :
    (l.withChild result).left < l.left := by
  have hafter : (l.withChild result).left = (if l.readerOpen then 1 else 0) +
      (result.1.stage.rank ChildStep.rank +
        (l.daemon.map fun d => d.stage.rank DaemonStep.rank).getD 0) := rfl
  rw [hafter, left, hc, Option.map_some, Option.getD_some]
  omega

theorem left_childMove {env : Env} {past : Event → Prop} {l l' : Launch}
    (hsound : Sound env past l) {c : Process ChildStep} (hc : l.child = some c) {a : Answer}
    (h : ChildMove env l c a l') : l'.left < l.left := by
  cases h with
  | forkNext hs =>
    refine left_withChild hc ?_
    rw [hs]
    exact Nat.lt_succ_self 14
  | @fail s report hs hfails =>
    have hlength := hfails.report.length_le
    have hrank := hfails.rank
    refine left_withChild hc ?_
    rw [hs]
    change report.length + 1 < s.rank
    omega
  | @fork pid hs =>
    have hd : l.daemon = none := by
      cases hd : l.daemon with
      | none => rfl
      | some d =>
        obtain ⟨c', hc', hstage⟩ := hsound.alone d hd
        cases hc.symm.trans hc'
        rw [hs] at hstage
        simp at hstage
    have hafter : ({ l with
        child := some (c.goTo .leave)
        daemonPid := pid
        daemon := some ⟨c.args, c.fds, c.pipeWriteFd, [], .doing .redirectStdio⟩ } :
          Launch).left = (if l.readerOpen then 1 else 0) + (1 + 12) := rfl
    have hrank : c.stage.rank ChildStep.rank = 14 := by rw [hs]; rfl
    rw [hafter, left, hc, hd, Option.map_some, Option.getD_some, hrank]
    omega
  | leave hs =>
    refine left_withChild hc ?_
    rw [hs]
    exact Nat.one_pos
  | @exit texts hs =>
    obtain ⟨-, hrank, -⟩ := l.exitStep_stage ChildStep.rank c texts
    refine left_withChild hc ?_
    rw [hs]
    exact Nat.lt_succ_of_le hrank

theorem rank_of_not_gone {S : Type} {p : Process S} (rank : S → Nat) (hpos : ∀ s, 0 < rank s)
    (h : p.isGone = false) : 0 < p.stage.rank rank := by
  unfold Process.isGone at h
  split at h
  · cases h
  · next hgone =>
    cases hs : p.stage with
    | doing s => exact hpos s
    | exiting texts => exact Nat.succ_pos _
    | gone => exact absurd hs hgone

/-- Every step of a launch is one step less. -/
theorem left_step {env : Env} {past : Event → Prop} {i : Nat} {files files' : PidFiles}
    {l l' : Launch} {a : LaunchAction} (hsound : Sound env past l)
    (hs : l.step env i files a = some (l', files')) :
    l'.left < l.left := by
  have hdecided : ∀ parent, l.readerOpen = true →
      ({ l with parent } : Launch).readerOpen = false →
      ({ l with parent } : Launch).left < l.left := by
    intro parent ho hclosed
    simp only [left, ho, hclosed]
    simp
  cases a with
  | parentReads =>
    obtain ⟨l'', hl, heq⟩ := Option.map_eq_some_iff.mp hs
    cases heq
    obtain ⟨⟨ho, -⟩, heq⟩ := Option.ite_none_right_eq_some.mp hl
    cases heq
    unfold step15ExitOrgProcess
    split
    · exact hdecided _ ho rfl
    · exact hdecided _ ho rfl
  | parentInterrupted e =>
    obtain ⟨l'', hl, heq⟩ := Option.map_eq_some_iff.mp hs
    cases heq
    obtain ⟨⟨ho, -⟩, heq⟩ := Option.ite_none_right_eq_some.mp hl
    cases heq
    exact hdecided _ ho rfl
  | parentKilled =>
    obtain ⟨ho, heq⟩ := Option.ite_none_right_eq_some.mp hs
    cases heq
    exact hdecided _ ho rfl
  | child a =>
    obtain ⟨c, hc, hmap⟩ := Option.bind_eq_some_iff.mp hs
    obtain ⟨l'', hl, heq⟩ := Option.map_eq_some_iff.mp hmap
    cases heq
    exact left_childMove hsound hc (childStep_move hl)
  | childKilled =>
    obtain ⟨c, hc, hgone⟩ := Option.bind_eq_some_iff.mp hs
    obtain ⟨hgone, heq⟩ := Option.ite_none_left_eq_some.mp hgone
    cases heq
    refine @left_withChild l c hc (c.exit, l.buffer) ?_
    exact rank_of_not_gone _ (fun s => by cases s <;> simp [ChildStep.rank])
      (by simpa using hgone)
  | daemon a =>
    obtain ⟨d, hd, hstep⟩ := Option.bind_eq_some_iff.mp hs
    obtain ⟨⟨result, files''⟩, hresult, heq⟩ := Option.map_eq_some_iff.mp hstep
    cases heq
    exact left_withDaemon hd (daemonResult_move hresult)
  | daemonKilled =>
    obtain ⟨d, hd, hgone⟩ := Option.bind_eq_some_iff.mp hs
    obtain ⟨hgone, heq⟩ := Option.ite_none_left_eq_some.mp hgone
    cases heq
    have hrank := rank_of_not_gone (p := d) _ DaemonStep.rank_pos (by simpa using hgone)
    have hafter : ({ l with daemon := some d.exit } : Launch).left =
        (if l.readerOpen then 1 else 0) +
          ((l.child.map fun c => c.stage.rank ChildStep.rank).getD 0 + 0) := rfl
    rw [hafter, left, hd, Option.map_some, Option.getD_some]
    omega

theorem child_goes_on (env : Env) (l : Launch) {c : Process ChildStep}
    (h : c.stage ≠ .gone) : ∃ a l', l.childStep env c a = some l' := by
  cases hs : c.stage with
  | doing s =>
    cases s with
    | createNewSession => exact ⟨.done, _, by simp only [childStep, hs]; rfl⟩
    | forkAgain => exact ⟨.forked 0, _, by simp only [childStep, hs]; rfl⟩
    | leave => exact ⟨.done, _, by simp only [childStep, hs]; rfl⟩
  | exiting texts => exact ⟨.done, _, by simp only [childStep, hs]; rfl⟩
  | gone => exact absurd hs h

theorem daemon_goes_on (env : Env) (i : Nat) (files : PidFiles) (l : Launch)
    {d : Process DaemonStep} (h : d.stage ≠ .gone) :
    ∃ a result, l.daemonStep env i files d a = some result := by
  suffices hresult : ∃ a result, l.daemonResult env i files d a = some result by
    obtain ⟨a, result, heq⟩ := hresult
    exact ⟨a, _, by rw [daemonStep, heq, Option.map_some]⟩
  cases hs : d.stage with
  | doing s =>
    cases s with
    | initEngine c =>
      refine ⟨.init { udpTransport := false, drawn := fun _ => 0, now := [] } none, ?_⟩
      simp only [daemonResult, hs, initEngine]
      split
      all_goals exact ⟨_, rfl⟩
    | loadConfig => exact ⟨.throwsOther, _, by simp only [daemonResult, hs]; rfl⟩
    | setupLogging c => exact ⟨.done, _, by simp only [daemonResult, hs]; rfl⟩
    | notifyInitComplete engine => exact ⟨.done, _, by simp only [daemonResult, hs]; rfl⟩
    | run engine => exact ⟨.done, _, by simp only [daemonResult, hs]; rfl⟩
    | _ => exact ⟨.error .EINTR, _, by simp only [daemonResult, hs]; rfl⟩
  | exiting texts => exact ⟨.done, _, by simp only [daemonResult, hs]; rfl⟩
  | gone => exact absurd hs h

theorem not_gone_of_holdsPipe {S : Type} {stdio : Stdio} {fdsAt : S → Fds} {p : Process S}
    (hwired : Wired stdio fdsAt p) (h : p.holdsPipe = true) : p.stage ≠ .gone := by
  intro hgone
  rw [Process.holdsPipe, hwired.gone hgone] at h
  cases h

end Launch

/-- Neither a signal nor a kill. -/
def LaunchAction.isOrdinary : LaunchAction → Bool
  | .parentReads | .child _ | .daemon _ => true
  | _ => false

def Action.isOf (i : Nat) : Action → Bool
  | .act j _ => j = i
  | .launch .. | .removePidFile => false

/-- Who waits for a writer waits for one that has not ended. -/
theorem Sound.goes_on {env : Env} {past : Event → Prop} {l : Launch} (h : Sound env past l)
    (hwaiting : l.parent = .waiting) (i : Nat) (files : PidFiles) :
    ∃ a result, a.isOrdinary = true ∧ l.step env i files a = some result := by
  have ho : l.readerOpen = true := by rw [Launch.readerOpen, hwaiting]
  by_cases hready : l.buffer ≠ [] ∨ l.writerOpen = false
  · refine ⟨.parentReads, (l.step15ExitOrgProcess (l.buffer.take 1023), files), rfl, ?_⟩
    rw [Launch.step, Launch.parentReads, if_pos ⟨ho, hready⟩, Option.map_some]
  · obtain ⟨-, hwriter⟩ := not_or.mp hready
    rw [Bool.not_eq_false, Launch.writerOpen, Bool.or_eq_true] at hwriter
    rcases hwriter with hchild | hdaemon
    · obtain ⟨c, hc, hholds⟩ := Option.any_eq_true _ _ |>.mp hchild
      obtain ⟨a, l', hstep⟩ :=
        l.child_goes_on env (Launch.not_gone_of_holdsPipe (h.childWired c hc) hholds)
      exact ⟨.child a, (l', files), rfl, by
        rw [Launch.step, hc, Option.bind_some, hstep, Option.map_some]⟩
    · obtain ⟨d, hd, hholds⟩ := Option.any_eq_true _ _ |>.mp hdaemon
      obtain ⟨a, result, hstep⟩ := Launch.daemon_goes_on env i files l
        (Launch.not_gone_of_holdsPipe (h.wired d hd) hholds)
      exact ⟨.daemon a, result, rfl, by rw [Launch.step, hd, Option.bind_some, hstep]⟩

namespace World

theorem step_launch {env : Env} {w w' : World} {a : Action} {i : Nat} {l : Launch}
    (hsound : ∀ l ∈ w.launches, Sound env (Event.Possible env) l) (hl : w.launches[i]? = some l)
    (hs : w.step env a = some w') :
    ∃ l', w'.launches[i]? = some l' ∧ (a.isOf i = true → l'.left < l.left) ∧
      (a.isOf i = false → l' = l) := by
  have hlt : i < w.launches.length := (List.getElem?_eq_some_iff.mp hl).1
  rcases step_cases hs with
    ⟨stdio, sigpipeIgnored, args, failure, rfl, -, hw⟩ | ⟨j, b, m, m', rfl, hm, hstep, hw⟩ |
    ⟨rfl, rfl⟩
  · refine ⟨l, ?_, fun h => (by cases h), fun _ => rfl⟩
    rw [hw, List.getElem?_append_left hlt, hl]
  · by_cases hij : j = i
    · subst hij
      cases hl.symm.trans hm
      refine ⟨m', by rw [hw, List.getElem?_set_self hlt], fun _ => ?_, fun h => ?_⟩
      · exact Launch.left_step (hsound l (List.mem_of_getElem? hl)) hstep
      · simp [Action.isOf] at h
    · refine ⟨l, by rw [hw, List.getElem?_set_ne hij, hl], fun h => ?_, fun _ => rfl⟩
      simp [Action.isOf, hij] at h
  · exact ⟨l, hl, fun h => (by cases h), fun _ => rfl⟩

theorem left_le {env : Env} {w : World} (h : Reachable env w) :
    ∀ l ∈ w.launches, l.left ≤ 16 := by
  have hP := Runs.Reachable.invariant (P := fun w : World =>
      (∀ l ∈ w.launches, Sound env (Event.Possible env) l) ∧
        ∀ l ∈ w.launches, l.left ≤ 16) h
    ⟨fun l hl => (by cases hl), fun l hl => by cases hl⟩ ?_
  · exact hP.2
  · rintro w a w' ⟨hsound, hleft⟩ hs
    refine ⟨sound_step hsound hs, fun l hl => ?_⟩
    rcases step_cases hs with
      ⟨stdio, sigpipeIgnored, args, failure, -, -, hw⟩ | ⟨j, b, m, m', -, hm, hstep, hw⟩ |
      ⟨-, rfl⟩
    · rw [hw, List.mem_append, List.mem_singleton] at hl
      rcases hl with hold | rfl
      · exact hleft l hold
      · cases failure with
        | none => exact le_rfl
        | some msg => exact Nat.zero_le _
    · rw [hw] at hl
      have hmem := List.mem_of_getElem? hm
      rcases List.mem_or_eq_of_mem_set hl with hold | rfl
      · exact hleft l hold
      · exact (Launch.left_step (hsound m hmem) hstep).le.trans (hleft m hmem)
    · exact hleft l hl

/-- A launch ends, whatever the others do: at most sixteen of the steps of a run are its own,
and as long as it waits one more of these can be taken, without any signal. -/
theorem launch_ends {env : Env} {w w' : World} (h : Reachable env w) {i : Nat} {l : Launch}
    (hl : w.launches[i]? = some l) {as : List Action}
    (hrun : Runs.run (step env) w as = some w') :
    ∃ l', w'.launches[i]? = some l' ∧
      as.countP (Action.isOf i) + l'.left ≤ l.left ∧ l.left ≤ 16 ∧
      (l'.parent = .waiting → ∃ a w'', a.isOrdinary = true ∧
        w'.step env (.act i a) = some w'') := by
  have hbound := Runs.run_bounded
    (fun w : World => (∀ l ∈ w.launches, Sound env (Event.Possible env) l) ∧
      ∃ l, w.launches[i]? = some l)
    (Action.isOf i) (fun w => ((w.launches[i]?).map Launch.left).getD 0) ?_ ?_ ?_
    ⟨h.sound, l, hl⟩ hrun
  · obtain ⟨⟨hsound, l', hl'⟩, hcount⟩ := hbound
    simp only [hl, hl', Option.map_some, Option.getD_some] at hcount
    refine ⟨l', hl', hcount, left_le h l (List.mem_of_getElem? hl), fun hwaiting => ?_⟩
    obtain ⟨a, result, ha, hstep⟩ :=
      (hsound l' (List.mem_of_getElem? hl')).goes_on hwaiting i w'.pidFiles
    exact ⟨a, ⟨result.2, w'.launches.set i result.1⟩, ha, by
      rw [step, hl', Option.bind_some, hstep, Option.map_some]⟩
  · rintro w a w' ⟨hsound, l, hl⟩ hs
    obtain ⟨l', hl', -⟩ := step_launch hsound hl hs
    exact ⟨sound_step hsound hs, l', hl'⟩
  · rintro w a w' ⟨hsound, l, hl⟩ hs ha
    obtain ⟨l', hl', hlt, -⟩ := step_launch hsound hl hs
    simpa only [hl, hl', Option.map_some, Option.getD_some] using hlt ha
  · rintro w a w' ⟨hsound, l, hl⟩ hs ha
    obtain ⟨l', hl', -, hsame⟩ := step_launch hsound hl hs
    simp only [hl, hl', Option.map_some, Option.getD_some, hsame ha, le_refl]

theorem launch_ends_sample : ∃ (toml : Toml.Codec) (launched w' : World) (l' : Launch),
    Runs.run (step (sampleEnv toml)) launched (sampleFirst.tail ++ sampleSecond) =
      some (sampleWorld toml) ∧
    (sampleWorld toml).launches[0]? = some l' ∧
    (sampleFirst.tail ++ sampleSecond).countP (Action.isOf 0) + l'.left ≤ 16 ∧
    ∃ a, a.isOrdinary = true ∧ launched.step (sampleEnv toml) (.act 0 a) = some w' := by
  obtain ⟨toml, -⟩ := Engine.exists_sample_codec
  have hreach : Reachable (sampleEnv toml) ⟨{}, [daemonize {} false [] none]⟩ :=
    (Runs.Reachable.refl _ _).step (a := .launch {} false [] none) rfl
  have hl : (⟨{}, [daemonize {} false [] none]⟩ : World).launches[0]? =
    some (daemonize {} false [] none) := rfl
  have hrun : Runs.run (step (sampleEnv toml)) ⟨{}, [daemonize {} false [] none]⟩
    (sampleFirst.tail ++ sampleSecond) = some (sampleWorld toml) := rfl
  obtain ⟨l', hl', hcount, hleft, -⟩ := launch_ends hreach hl hrun
  have hnil : Runs.run (step (sampleEnv toml)) ⟨{}, [daemonize {} false [] none]⟩ [] =
    some ⟨{}, [daemonize {} false [] none]⟩ := rfl
  obtain ⟨l, hsame, -, -, hwaits⟩ := launch_ends hreach hl hnil
  cases hl.symm.trans hsame
  obtain ⟨a, w', ha, hstep⟩ := hwaits rfl
  exact ⟨toml, _, w', l', hrun, hl', hcount.trans hleft, a, ha, hstep⟩

end World

end Ocvsmd.Startup
