import Ocvsmd.StartupMoves

set_option autoImplicit false

namespace Ocvsmd.Startup

open Ipc (Bytes Errno)
open CString (text cstr)

inductive Launch.Does (env : Env) (l : Launch) : LaunchAction → Event → Prop
  | childFails {c : Process ChildStep} {s : ChildStep} {a : Answer} {report : List Bytes} :
      l.child = some c → c.stage = .doing s → s.Fails env a report →
        Does env l (.child a) (.failed report)
  | daemonFails {d : Process DaemonStep} {s : DaemonStep} {a : Answer}
      {report : List Bytes} :
      l.daemon = some d → d.stage = .doing s → s.Fails env d.args a report →
        Does env l (.daemon a) (.failed report)
  | loads {d : Process DaemonStep} {root : Toml.Table} :
      l.daemon = some d → d.stage = .doing .loadConfig →
        Does env l (.daemon (.parsed root)) (.loaded root)
  | makes {d : Process DaemonStep} {c : Engine.ConfigImpl} {a : Engine.InitAnswers}
      {file : Option Toml.Bytes} {engine : Engine.Engine} :
      l.daemon = some d → d.stage = .doing (.initEngine c) →
      (Engine.Engine.init env.toml env.inet a file c).1 = some (.ok engine) →
        Does env l (.daemon (.init a file)) (.made c a engine)

theorem Launch.Does.possible {env : Env} {l : Launch} {a : LaunchAction} {event : Event}
    (h : l.Does env a event) : event.Possible env := by
  cases h with
  | childFails _ _ hfails => exact hfails.report
  | daemonFails _ _ hfails => exact hfails.report
  | loads => exact trivial
  | makes => exact trivial

/-- An engine that was made from what was loaded. -/
def Brought (env : Env) (past : Event → Prop) (engine : Engine.Engine) : Prop :=
  ∃ root a, past (.loaded root) ∧ past (.made ⟨root, false⟩ a engine) ∧
    engine.Configured env.toml env.inet a ⟨root, false⟩

def DaemonStep.Follows (env : Env) (past : Event → Prop) : DaemonStep → Prop
  | .setupLogging c | .initEngine c => ∃ root, past (.loaded root) ∧ c = ⟨root, false⟩
  | .notifyInitComplete engine | .run engine => Brought env past engine
  | _ => True

theorem DaemonStep.Passes.follows {env : Env} {past : Event → Prop} {l : Launch}
    {d : Process DaemonStep} {s s' : DaemonStep} {a : Answer} (h : s.Passes env a s')
    (hd : l.daemon = some d) (hs : d.stage = .doing s) (hfollows : s.Follows env past)
    (hpast : ∀ event, l.Does env (.daemon a) event → past event) : s'.Follows env past := by
  cases h with
  | loadConfig root => exact ⟨root, hpast _ (.loads hd hs), rfl⟩
  | setupLogging c => exact hfollows
  | initEngine hinit =>
    obtain ⟨root, hroot, rfl⟩ := hfollows
    have hconf := Engine.Engine.configured_of_init (s := _) (Prod.ext hinit rfl)
    exact ⟨root, _, hroot, hpast _ (.makes hd hs hinit), hconf⟩
  | _ => exact trivial

/-- What was said by whoever may speak: the daemon, once there is one. -/
def Launch.said (l : Launch) : List Bytes :=
  match l.daemon, l.child with
  | some d, _ => d.said
  | none, some c => c.said
  | none, none => []

structure Wired {S : Type} (stdio : Stdio) (fdsAt : S → Fds) (p : Process S) : Prop where
  pipeWriteFd : p.pipeWriteFd = stdio.pipeWriteFd
  fds : ∀ s, p.stage = .doing s → p.fds = fdsAt s
  gone : p.stage = .gone → p.fds = []

theorem Wired.exit {S : Type} {stdio : Stdio} {fdsAt : S → Fds} {p : Process S}
    (h : Wired stdio fdsAt p) : Wired stdio fdsAt p.exit :=
  ⟨h.pipeWriteFd, fun s hs => (by cases hs), fun _ => rfl⟩

theorem Wired.failing {S : Type} {stdio : Stdio} {fdsAt : S → Fds} {p : Process S}
    (h : Wired stdio fdsAt p) (texts : List Bytes) : Wired stdio fdsAt (p.failing texts) :=
  ⟨h.pipeWriteFd, fun s hs => (by cases hs), fun hs => by cases hs⟩

theorem Wired.exitStep {S : Type} {stdio : Stdio} {fdsAt : S → Fds} {p : Process S}
    (h : Wired stdio fdsAt p) (l : Launch) (texts : List Bytes) :
    Wired stdio fdsAt (l.exitStep p texts).1 := by
  obtain ⟨hfd, -, hstage, hgone⟩ := l.exitStep_stage (fun _ => 0) p texts
  exact ⟨hfd.trans h.pipeWriteFd, fun s hs => absurd hs (hstage s), hgone⟩

/-- A launch at any point: who says what, what has come of it, and that the engine is up. -/
structure Sound (env : Env) (past : Event → Prop) (l : Launch) : Prop where
  known : ∀ event, past event → event.Possible env
  child : ∀ c, l.child = some c → c.Honest past l.readerOpen
  childWired : ∀ c, l.child = some c → Wired l.stdio (fun _ => l.stdio.childFds) c
  alone : ∀ d, l.daemon = some d →
    ∃ c, l.child = some c ∧ (c.stage = .doing .leave ∨ c.stage = .gone)
  wired : ∀ d, l.daemon = some d → Wired l.stdio (DaemonStep.fds l.stdio) d
  starting : l.engine = none → ∀ d, l.daemon = some d →
    d.Honest past l.readerOpen ∧ ∀ engine, d.stage ≠ .doing (.run engine)
  up : ∀ engine, l.engine = some engine → ∃ d, l.daemon = some d ∧
    (d.stage = .doing (.run engine) ∨ d.stage = .gone) ∧
    (d.said = [] ∨ d.said = [initComplete])
  follows : ∀ d s, l.daemon = some d → d.stage = .doing s → s.Follows env past
  brought : ∀ engine, l.engine = some engine → Brought env past engine
  heard : l.readerOpen = true → l.buffer = l.said.flatten
  succeeded : l.parent = .succeeded → l.engine.isSome = true ∧ l.stdio.Suffices
  reported : l.stdio.Suffices → l.sigpipeIgnored = false → l.engine.isSome = true →
    (∀ f, l.parent ≠ .failed f) ∧ (l.readerOpen = true → l.said = [initComplete])
  lost : ¬ l.stdio.Suffices → l.said ≠ [initComplete]
  message : ∀ m, l.parent = .failed (.childInit m) →
    ∃ s, Cut past s ∧ s <+: l.said ∧ m = cstr (s.flatten.take 1023)

section Sound

variable {env : Env} {past : Event → Prop}

/-- As long as no engine is up, what was said is of one report. -/
theorem Sound.cut {l : Launch} (h : Sound env past l) (hnone : l.engine = none) :
    Cut past l.said := by
  unfold Launch.said
  cases hd : l.daemon with
  | some d => exact (h.starting hnone d hd).1.cut
  | none =>
    cases hc : l.child with
    | some c => exact (h.child c hc).cut
    | none => exact cut_nil past

theorem sound_daemonize (hpast : ∀ event, past event → event.Possible env) (stdio : Stdio)
    (sigpipeIgnored : Bool) (args : List Bytes) (failure : Option Bytes) :
    Sound env past (daemonize stdio sigpipeIgnored args failure) := by
  cases failure with
  | some msg =>
    exact {
      known := hpast
      child := fun c hc => by cases hc
      childWired := fun c hc => by cases hc
      alone := fun d hd => by cases hd
      wired := fun d hd => by cases hd
      starting := fun _ d hd => by cases hd
      up := fun engine he => by cases he
      follows := fun d s hd => by cases hd
      brought := fun engine he => by cases he
      heard := fun ho => by cases ho
      succeeded := fun hp => by cases hp
      reported := fun _ _ he => by cases he
      lost := fun _ => by simp [Launch.said, daemonize]
      message := fun m hm => by cases hm }
  | none =>
    exact {
      known := hpast
      child := by
        rintro c ⟨⟩
        exact Process.honest_doing rfl rfl
      childWired := by
        rintro c ⟨⟩
        exact ⟨rfl, fun _ _ => rfl, fun hs => by cases hs⟩
      alone := fun d hd => by cases hd
      wired := fun d hd => by cases hd
      starting := fun _ d hd => by cases hd
      up := fun engine he => by cases he
      follows := fun d s hd => by cases hd
      brought := fun engine he => by cases he
      heard := fun _ => rfl
      succeeded := fun hp => by cases hp
      reported := fun _ _ he => by cases he
      lost := fun _ => by simp [Launch.said, daemonize]
      message := fun m hm => by cases hm }

theorem Sound.decided {l : Launch} (h : Sound env past l) {parent : Parent}
    (hopen : ({ l with parent } : Launch).readerOpen = false)
    (hsucceeded : parent = .succeeded → l.engine.isSome = true ∧ l.stdio.Suffices)
    (hfailed : ∀ f, parent = .failed f → l.stdio.Suffices → l.sigpipeIgnored = false →
      l.engine.isSome = false)
    (hmessage : ∀ m, parent = .failed (.childInit m) →
      ∃ s, Cut past s ∧ s <+: l.said ∧ m = cstr (s.flatten.take 1023)) :
    Sound env past { l with parent } where
  known := h.known
  child := fun c hc => by
    rw [hopen]
    exact (h.child c hc).closed
  childWired := h.childWired
  alone := h.alone
  wired := h.wired
  starting := fun hnone d hd => by
    rw [hopen]
    exact ⟨(h.starting hnone d hd).1.closed, (h.starting hnone d hd).2⟩
  up := h.up
  follows := h.follows
  brought := h.brought
  heard := fun ho => by
    rw [hopen] at ho
    cases ho
  succeeded := hsucceeded
  reported := by
    intro hstdio hsigpipe hup
    refine ⟨?_, fun ho => ?_⟩
    · rintro f rfl
      rw [hfailed f rfl hstdio hsigpipe] at hup
      cases hup
    · rw [hopen] at ho
      cases ho
  lost := h.lost
  message := hmessage

theorem complete_alone : cstr ([initComplete].flatten.take 1023) = initComplete := by decide

theorem cut_ne_complete (hpast : ∀ event, past event → event.Possible env) :
    ¬ Cut past [initComplete] :=
  fun h => h.not_complete hpast complete_alone

theorem Sound.parentReads {l l' : Launch} (h : Sound env past l)
    (hs : l.parentReads = some l') : Sound env past l' := by
  obtain ⟨⟨ho, -⟩, heq⟩ := Option.ite_none_right_eq_some.mp hs
  cases heq
  rw [h.heard ho, Launch.step15ExitOrgProcess]
  split
  · next hcomplete =>
    refine h.decided rfl (fun _ => ?_) (fun f hf => by cases hf) (fun m hm => by cases hm)
    cases he : l.engine with
    | none => exact absurd hcomplete ((h.cut he).not_complete h.known)
    | some engine =>
      obtain ⟨d, hd, -, hsaid⟩ := h.up engine he
      have hl : l.said = d.said := by simp only [Launch.said, hd]
      refine ⟨rfl, ?_⟩
      by_contra hstdio
      rcases hsaid with hnil | hdone
      · rw [hl, hnil] at hcomplete
        exact absurd hcomplete (by decide)
      · exact h.lost hstdio (hl.trans hdone)
  · next hcomplete =>
    refine h.decided rfl (fun hp => by cases hp) ?_ ?_
    · intro f _ hstdio hsigpipe
      by_contra hup
      rw [Bool.not_eq_false] at hup
      rw [(h.reported hstdio hsigpipe hup).2 ho] at hcomplete
      exact hcomplete complete_alone
    · rintro m ⟨⟩
      refine ⟨l.said, ?_, List.prefix_rfl, rfl⟩
      cases he : l.engine with
      | none => exact h.cut he
      | some engine =>
        obtain ⟨d, hd, -, hsaid⟩ := h.up engine he
        have hl : l.said = d.said := by simp only [Launch.said, hd]
        rw [hl] at hcomplete ⊢
        rcases hsaid with hnil | hdone
        · rw [hnil]
          exact cut_nil past
        · rw [hdone] at hcomplete
          exact absurd complete_alone hcomplete

theorem Sound.parentInterrupted {l l' : Launch} {e : Errno} (h : Sound env past l)
    (hs : l.parentInterrupted e = some l') : Sound env past l' := by
  obtain ⟨⟨ho, hempty, -⟩, heq⟩ := Option.ite_none_right_eq_some.mp hs
  cases heq
  refine h.decided rfl (fun hp => by cases hp) ?_ (fun m hm => by cases hm)
  intro f _ hstdio hsigpipe
  by_contra hup
  rw [Bool.not_eq_false] at hup
  have hbuffer := h.heard ho
  rw [(h.reported hstdio hsigpipe hup).2 ho, hempty] at hbuffer
  exact absurd hbuffer (by decide)

theorem withDaemon_engine {l : Launch} {result : Process DaemonStep × Bytes}
    (h : ∀ engine, result.1.stage ≠ .doing (.run engine)) :
    (l.withDaemon result).engine = l.engine := by
  unfold Launch.withDaemon
  split
  · next engine hs => exact absurd hs (h engine)
  · rfl

theorem Sound.withDaemon {l : Launch} (h : Sound env past l) {d : Process DaemonStep}
    (hd : l.daemon = some d) (hnone : l.engine = none)
    {result : Process DaemonStep × Bytes} (hwrote : Wrote l d result)
    (hwired : Wired l.stdio (DaemonStep.fds l.stdio) result.1)
    (hhonest : result.1.Honest past l.readerOpen)
    (hrun : ∀ engine, result.1.stage ≠ .doing (.run engine))
    (hfollows : ∀ s, result.1.stage = .doing s → s.Follows env past) :
    Sound env past (l.withDaemon result) := by
  have hengine : (l.withDaemon result).engine = none := (withDaemon_engine hrun).trans hnone
  obtain ⟨new, hsaid, hbuffer⟩ := hwrote
  have hl : l.said = d.said := by simp only [Launch.said, hd]
  have hl' : (l.withDaemon result).said = l.said ++ new := by rw [hl, ← hsaid]; rfl
  exact {
    known := h.known
    child := h.child
    childWired := h.childWired
    alone := fun _ _ => h.alone d hd
    wired := by
      rintro d' ⟨⟩
      exact hwired
    starting := by
      rintro - d' ⟨⟩
      exact ⟨hhonest, hrun⟩
    up := fun engine he => by
      rw [hengine] at he
      cases he
    follows := by
      rintro d' s ⟨⟩ hs
      exact hfollows s hs
    brought := fun engine he => by
      rw [hengine] at he
      cases he
    heard := fun ho => by
      rw [hl', List.flatten_append, ← h.heard ho]
      exact hbuffer
    succeeded := fun hp => by
      have hup := (h.succeeded hp).1
      rw [hnone] at hup
      cases hup
    reported := fun _ _ hup => by
      rw [hengine] at hup
      cases hup
    lost := fun _ heq => by
      have hcut := hhonest.cut
      rw [hsaid, ← hl, ← hl', heq] at hcut
      exact cut_ne_complete h.known hcut
    message := fun m hm => by
      obtain ⟨s, hcut, hs, heq⟩ := h.message m hm
      exact ⟨s, hcut, hs.trans (hl' ▸ List.prefix_append _ _), heq⟩ }

theorem Sound.daemonExits {l : Launch} (h : Sound env past l) {d : Process DaemonStep}
    (hd : l.daemon = some d) : Sound env past (l.withDaemon (d.exit, l.buffer)) := by
  have hwired := (h.wired d hd).exit
  cases hengine : l.engine with
  | none =>
    exact h.withDaemon hd hengine (wrote_nothing rfl) hwired (h.starting hengine d hd).1.exit
      (fun engine hs => by cases hs) (fun s hs => by cases hs)
  | some engine =>
    obtain ⟨d', hd', hstage, hsaid⟩ := h.up engine hengine
    cases hd.symm.trans hd'
    have hl : (l.withDaemon (d.exit, l.buffer)).said = l.said := by
      simp only [Launch.said, hd]
      rfl
    have he : (l.withDaemon (d.exit, l.buffer)).engine = l.engine := rfl
    exact {
      known := h.known
      child := h.child
      childWired := h.childWired
      alone := fun _ _ => h.alone d hd
      wired := by
        rintro d' ⟨⟩
        exact hwired
      starting := fun hnone => by
        rw [he, hengine] at hnone
        cases hnone
      up := fun engine' he' => ⟨d.exit, rfl, Or.inr rfl, hsaid⟩
      follows := by
        rintro d' s ⟨⟩ hs
        cases hs
      brought := h.brought
      heard := fun ho => by
        rw [hl]
        exact h.heard ho
      succeeded := h.succeeded
      reported := by
        rw [hl]
        exact h.reported
      lost := by
        rw [hl]
        exact h.lost
      message := by
        rw [hl]
        exact h.message }

/-- An engine is up, and that is in the pipe if it is still there. -/
theorem Sound.comesUp {l : Launch} (h : Sound env past l) {d d' : Process DaemonStep}
    (hd : l.daemon = some d) (hnone : l.engine = none) {engine : Engine.Engine}
    (hwired : Wired l.stdio (DaemonStep.fds l.stdio) d') (hstage : d'.stage = .doing (.run engine))
    (hbrought : Brought env past engine) (hempty : d.said = []) {buffer : Bytes}
    (hsaid : (d'.said = [] ∧ buffer = l.buffer ∧
        (l.stdio.Suffices → l.sigpipeIgnored = false → False)) ∨
      (d'.said = [initComplete] ∧ buffer = l.buffer ++ initComplete ∧
        l.readerOpen = true ∧ l.stdio.Suffices)) :
    Sound env past (l.withDaemon (d', buffer)) := by
  have hl : l.said = [] := by simp only [Launch.said, hd, hempty]
  have hl' : (l.withDaemon (d', buffer)).said = d'.said := rfl
  have hengine : (l.withDaemon (d', buffer)).engine = some engine := by
    simp only [Launch.withDaemon, hstage]
  have hwaiting : l.readerOpen = true → ∀ f, l.parent ≠ .failed f := by
    intro ho f hf
    simp only [Launch.readerOpen, hf] at ho
    cases ho
  exact {
    known := h.known
    child := h.child
    childWired := h.childWired
    alone := fun _ _ => h.alone d hd
    wired := by
      rintro d'' ⟨⟩
      exact hwired
    starting := fun hnone' => by
      rw [hengine] at hnone'
      cases hnone'
    up := by
      intro engine' he'
      rw [hengine] at he'
      cases he'
      exact ⟨d', rfl, Or.inl hstage, hsaid.imp (·.1) (·.1)⟩
    follows := by
      rintro d'' s ⟨⟩ hs
      cases hstage.symm.trans hs
      exact hbrought
    brought := by
      intro engine' he'
      rw [hengine] at he'
      cases he'
      exact hbrought
    heard := fun ho => by
      have hbuffer := h.heard ho
      rw [hl, List.flatten_nil] at hbuffer
      rw [hl']
      rcases hsaid with ⟨hd', hb, -⟩ | ⟨hd', hb, -⟩
      · rw [hd']
        exact hb.trans hbuffer
      · rw [hd', List.flatten_singleton]
        exact hb.trans (by rw [hbuffer, List.nil_append])
    succeeded := fun hp => by
      have hup := (h.succeeded hp).1
      rw [hnone] at hup
      cases hup
    reported := by
      intro hstdio hsigpipe _
      rcases hsaid with ⟨-, -, hfalse⟩ | ⟨hd', -, ho, -⟩
      · exact (hfalse hstdio hsigpipe).elim
      · exact ⟨hwaiting ho, fun _ => hl'.trans hd'⟩
    lost := fun hstdio => by
      rw [hl']
      rcases hsaid with ⟨hd', -, -⟩ | ⟨-, -, -, hsuffices⟩
      · rw [hd']
        simp
      · exact absurd hsuffices hstdio
    message := fun m hm => by
      obtain ⟨s, -, hs, heq⟩ := h.message m hm
      rw [hl] at hs
      rw [List.prefix_nil.mp hs] at heq
      exact ⟨[], cut_nil past, List.nil_prefix, heq⟩ }

theorem Sound.notifies {l : Launch} (h : Sound env past l) {d : Process DaemonStep}
    (hd : l.daemon = some d) {engine : Engine.Engine}
    (hs : d.stage = .doing (.notifyInitComplete engine)) :
    Sound env past (l.withDaemon (l.step14NotifyInitComplete d engine)) := by
  have hnone : l.engine = none := by
    cases he : l.engine with
    | none => rfl
    | some engine' =>
      obtain ⟨d', hd', hstage, -⟩ := h.up engine' he
      cases hd.symm.trans hd'
      rw [hs] at hstage
      rcases hstage with hrun | hgone
      · cases hrun
      · cases hgone
  have hempty := (h.starting hnone d hd).1.doing _ hs
  have hfds := (h.wired d hd).fds _ hs
  have hfd := (h.wired d hd).pipeWriteFd
  have hconnected : d.connected = true ↔ l.stdio.Suffices := by
    rw [Process.connected, hfd, hfds, decide_eq_true_iff]
    exact notify_connected l.stdio engine
  have hbrought : Brought env past engine := h.follows d _ hd hs
  have hwired : ∀ said, Wired l.stdio (DaemonStep.fds l.stdio)
      ⟨d.args, d.fds.close d.pipeWriteFd, d.pipeWriteFd, said, .doing (.run engine)⟩ := by
    refine fun said => ⟨hfd, ?_, fun hs => by cases hs⟩
    rintro s ⟨⟩
    change d.fds.close d.pipeWriteFd = _
    rw [hfds, hfd]
    rfl
  rcases l.writeString_cases d
    { d with fds := d.fds.close d.pipeWriteFd, stage := .doing (.run engine) } initComplete with
    ⟨hc, ho, heq⟩ | ⟨-, -, heq⟩ | ⟨hquiet, heq⟩
  · rw [Launch.step14NotifyInitComplete, heq]
    refine h.comesUp hd hnone (hwired _) rfl hbrought hempty (Or.inr ⟨?_, rfl, ho, ?_⟩)
    · rw [hempty]
      rfl
    · exact hconnected.mp hc
  · rw [Launch.step14NotifyInitComplete, heq]
    exact h.daemonExits hd
  · rw [Launch.step14NotifyInitComplete, heq]
    refine h.comesUp hd hnone (hwired _) rfl hbrought hempty (Or.inl ⟨hempty, rfl, ?_⟩)
    intro hstdio hsigpipe
    rcases (hquiet (hconnected.mpr hstdio)).2 with hignored | hnil
    · rw [hsigpipe] at hignored
      cases hignored
    · exact absurd hnil (by decide)

theorem Sound.daemonMoves {l : Launch} (h : Sound env past l) {d : Process DaemonStep}
    (hd : l.daemon = some d) {a : Answer} {result : Process DaemonStep × Bytes}
    (hmove : DaemonMove env l d a result)
    (hpast : ∀ event, l.Does env (.daemon a) event → past event) :
    Sound env past (l.withDaemon result) := by
  have hwired := h.wired d hd
  have hnone : d.stage ≠ .gone → (∀ engine, d.stage ≠ .doing (.run engine)) →
      l.engine = none := by
    intro hgone hrun
    cases he : l.engine with
    | none => rfl
    | some engine =>
      obtain ⟨d', hd', hstage, -⟩ := h.up engine he
      cases hd.symm.trans hd'
      exact (hstage.elim (hrun engine) hgone).elim
  cases hmove with
  | @advance s s' p' hs hadv =>
    have hengine := hnone (by rw [hs]; simp) fun engine => by
      rw [hs]
      simpa using (hadv.passes.starting engine).1
    have hsaid := (h.starting hengine d hd).1.doing s hs
    refine h.withDaemon hd hengine (wrote_nothing hadv.said) ?_ ?_ ?_ ?_
    · refine ⟨hadv.pipeWriteFd.trans hwired.pipeWriteFd, fun t ht => ?_, fun hgone => ?_⟩
      · cases hadv.stage.symm.trans ht
        exact hadv.wired l.stdio hwired.pipeWriteFd (hwired.fds s hs)
      · cases hadv.stage.symm.trans hgone
    · exact Process.honest_doing hadv.stage (hadv.said.trans hsaid)
    · intro engine hrun
      cases hadv.stage.symm.trans hrun
      exact (hadv.passes.starting engine).2 rfl
    · intro t ht
      cases hadv.stage.symm.trans ht
      exact hadv.passes.follows hd hs (h.follows d s hd hs) hpast
  | @fail s report hs hfails =>
    have hengine := hnone (by rw [hs]; simp) fun engine hrun => by
      cases hs.symm.trans hrun
      exact absurd hfails.rank (by simp [DaemonStep.rank])
    have hreport := hpast _ (.daemonFails hd hs hfails)
    exact h.withDaemon hd hengine (wrote_nothing rfl) (hwired.failing report)
      ((h.starting hengine d hd).1.failing hs hreport) (fun engine hs => by cases hs)
      (fun s hs => by cases hs)
  | leave => exact h.daemonExits hd
  | notify hs => exact h.notifies hd hs
  | @exit texts hs =>
    have hengine := hnone (by rw [hs]; simp) fun engine => by
      rw [hs]
      simp
    obtain ⟨-, -, hstage, -⟩ := l.exitStep_stage DaemonStep.rank d texts
    exact h.withDaemon hd hengine (l.wrote_exitStep d texts) (hwired.exitStep l texts)
      (Launch.honest_exitStep (h.starting hengine d hd).1 hs)
      (fun engine => hstage _) (fun s hs => absurd hs (hstage s))

theorem Sound.engine_none {l : Launch} (h : Sound env past l) (hd : l.daemon = none) :
    l.engine = none := by
  cases he : l.engine with
  | none => rfl
  | some engine =>
    obtain ⟨d, hd', -⟩ := h.up engine he
    cases hd.symm.trans hd'

theorem Sound.withChild {l : Launch} (h : Sound env past l) {c : Process ChildStep}
    (hc : l.child = some c) (hd : l.daemon = none) {result : Process ChildStep × Bytes}
    (hwrote : Wrote l c result) (hhonest : result.1.Honest past l.readerOpen)
    (hwired : Wired l.stdio (fun _ => l.stdio.childFds) result.1) :
    Sound env past (l.withChild result) := by
  have hnone := h.engine_none hd
  obtain ⟨new, hsaid, hbuffer⟩ := hwrote
  have hl : l.said = c.said := by simp only [Launch.said, hd, hc]
  have hl' : (l.withChild result).said = l.said ++ new := by
    rw [hl, ← hsaid]
    simp only [Launch.said, Launch.withChild, hd]
  have hnodaemon : ∀ {d : Process DaemonStep}, (l.withChild result).daemon ≠ some d := by
    intro d hd'
    cases hd.symm.trans hd'
  exact {
    known := h.known
    child := by
      rintro c' ⟨⟩
      exact hhonest
    childWired := by
      rintro c' ⟨⟩
      exact hwired
    alone := fun d hd' => absurd hd' hnodaemon
    wired := fun d hd' => absurd hd' hnodaemon
    starting := fun _ d hd' => absurd hd' hnodaemon
    up := fun engine he => by cases hnone.symm.trans he
    follows := fun d s hd' => absurd hd' hnodaemon
    brought := fun engine he => by cases hnone.symm.trans he
    heard := fun ho => by
      rw [hl', List.flatten_append, ← h.heard ho]
      exact hbuffer
    succeeded := h.succeeded
    reported := fun _ _ hup => by
      change l.engine.isSome = true at hup
      rw [hnone] at hup
      cases hup
    lost := fun _ heq => by
      have hcut := hhonest.cut
      rw [hsaid, ← hl, ← hl', heq] at hcut
      exact cut_ne_complete h.known hcut
    message := fun m hm => by
      obtain ⟨s, hcut, hs, heq⟩ := h.message m hm
      exact ⟨s, hcut, hs.trans (hl' ▸ List.prefix_append _ _), heq⟩ }

theorem Sound.childExits {l : Launch} (h : Sound env past l) {c : Process ChildStep}
    (hc : l.child = some c) : Sound env past (l.withChild (c.exit, l.buffer)) := by
  cases hd : l.daemon with
  | none =>
    exact h.withChild hc hd (wrote_nothing rfl) (h.child c hc).exit (h.childWired c hc).exit
  | some d =>
    have hl : (l.withChild (c.exit, l.buffer)).said = l.said := by
      simp only [Launch.said, Launch.withChild, hd]
    exact {
      known := h.known
      child := by
        rintro c' ⟨⟩
        exact (h.child c hc).exit
      childWired := by
        rintro c' ⟨⟩
        exact (h.childWired c hc).exit
      alone := fun _ _ => ⟨c.exit, rfl, Or.inr rfl⟩
      wired := h.wired
      starting := h.starting
      up := h.up
      follows := h.follows
      brought := h.brought
      heard := fun ho => by
        rw [hl]
        exact h.heard ho
      succeeded := h.succeeded
      reported := by
        rw [hl]
        exact h.reported
      lost := by
        rw [hl]
        exact h.lost
      message := by
        rw [hl]
        exact h.message }

theorem Sound.forks {l : Launch} (h : Sound env past l) {c : Process ChildStep}
    (hc : l.child = some c) (hd : l.daemon = none) (hs : c.stage = .doing .forkAgain)
    (pid : Nat) :
    Sound env past { l with
      child := some (c.goTo .leave)
      daemonPid := pid
      daemon := some ⟨c.args, c.fds, c.pipeWriteFd, [], .doing .redirectStdio⟩ } := by
  have hnone := h.engine_none hd
  have hquiet := (h.child c hc).doing _ hs
  obtain ⟨hfd, hfds, -⟩ := h.childWired c hc
  have hl : l.said = [] := by simp only [Launch.said, hd, hc, hquiet]
  exact {
    known := h.known
    child := by
      rintro c' ⟨⟩
      exact Process.honest_doing rfl hquiet
    childWired := by
      rintro c' ⟨⟩
      exact ⟨hfd, fun _ _ => hfds _ hs, fun hs => by cases hs⟩
    alone := fun _ _ => ⟨_, rfl, Or.inl rfl⟩
    wired := by
      rintro d ⟨⟩
      refine ⟨hfd, ?_, fun hs => by cases hs⟩
      rintro s ⟨⟩
      exact hfds _ hs
    starting := by
      rintro - d ⟨⟩
      exact ⟨Process.honest_doing rfl rfl, fun engine hs => by cases hs⟩
    up := fun engine he => by cases hnone.symm.trans he
    follows := by
      rintro d s ⟨⟩ ⟨⟩
      exact trivial
    brought := fun engine he => by cases hnone.symm.trans he
    heard := fun ho => (h.heard ho).trans (congrArg List.flatten hl)
    succeeded := h.succeeded
    reported := fun _ _ hup => by
      change l.engine.isSome = true at hup
      rw [hnone] at hup
      cases hup
    lost := fun _ => by simp [Launch.said]
    message := fun m hm => by
      obtain ⟨s, -, hs, heq⟩ := h.message m hm
      rw [hl] at hs
      rw [List.prefix_nil.mp hs] at heq
      exact ⟨[], cut_nil past, List.nil_prefix, heq⟩ }

theorem Sound.childMoves {l l' : Launch} (h : Sound env past l)
    {c : Process ChildStep} (hc : l.child = some c) {a : Answer}
    (hmove : ChildMove env l c a l')
    (hpast : ∀ event, l.Does env (.child a) event → past event) : Sound env past l' := by
  -- With a daemon there, nothing but the exit is left for the child.
  have hd : c.stage ≠ .doing .leave → c.stage ≠ .gone → l.daemon = none := by
    intro hleave hgone
    cases hd : l.daemon with
    | none => rfl
    | some d =>
      obtain ⟨c', hc', hstage⟩ := h.alone d hd
      cases hc.symm.trans hc'
      exact (hstage.elim hleave hgone).elim
  have hhonest := h.child c hc
  have hwired := h.childWired c hc
  cases hmove with
  | forkNext hs =>
    exact h.withChild hc (hd (by simp [hs]) (by simp [hs])) (wrote_nothing rfl)
      (Process.honest_doing rfl (hhonest.doing _ hs))
      ⟨hwired.pipeWriteFd, fun _ _ => hwired.fds _ hs, fun hs => by cases hs⟩
  | @fail s report hs hfails =>
    have hleave : c.stage ≠ .doing .leave := by
      intro hc'
      cases hs.symm.trans hc'
      cases hfails
    exact h.withChild hc (hd hleave (by simp [hs])) (wrote_nothing rfl)
      (hhonest.failing hs (hpast _ (.childFails hc hs hfails))) (hwired.failing report)
  | @fork pid hs => exact h.forks hc (hd (by simp [hs]) (by simp [hs])) hs pid
  | leave hs => exact h.childExits hc
  | @exit texts hs =>
    exact h.withChild hc (hd (by simp [hs]) (by simp [hs])) (l.wrote_exitStep c texts)
      (Launch.honest_exitStep hhonest hs) (hwired.exitStep l texts)

theorem Sound.step {i : Nat} {files files' : PidFiles} {l l' : Launch}
    {a : LaunchAction} (h : Sound env past l) (hs : l.step env i files a = some (l', files'))
    (hpast : ∀ event, l.Does env a event → past event) : Sound env past l' := by
  cases a with
  | parentReads =>
    obtain ⟨l'', hl, heq⟩ := Option.map_eq_some_iff.mp hs
    cases heq
    exact h.parentReads hl
  | parentInterrupted e =>
    obtain ⟨l'', hl, heq⟩ := Option.map_eq_some_iff.mp hs
    cases heq
    exact h.parentInterrupted hl
  | parentKilled =>
    obtain ⟨-, heq⟩ := Option.ite_none_right_eq_some.mp hs
    cases heq
    exact h.decided rfl (fun hp => by cases hp) (fun f hf => by cases hf)
      (fun m hm => by cases hm)
  | child a =>
    obtain ⟨c, hc, hmap⟩ := Option.bind_eq_some_iff.mp hs
    obtain ⟨l'', hl, heq⟩ := Option.map_eq_some_iff.mp hmap
    cases heq
    exact h.childMoves hc (childStep_move hl) hpast
  | childKilled =>
    obtain ⟨c, hc, hgone⟩ := Option.bind_eq_some_iff.mp hs
    obtain ⟨-, heq⟩ := Option.ite_none_left_eq_some.mp hgone
    cases heq
    exact h.childExits hc
  | daemon a =>
    obtain ⟨d, hd, hstep⟩ := Option.bind_eq_some_iff.mp hs
    obtain ⟨⟨result, files''⟩, hresult, heq⟩ := Option.map_eq_some_iff.mp hstep
    cases heq
    exact h.daemonMoves hd (daemonResult_move hresult) hpast
  | daemonKilled =>
    obtain ⟨d, hd, hgone⟩ := Option.bind_eq_some_iff.mp hs
    obtain ⟨-, heq⟩ := Option.ite_none_left_eq_some.mp hgone
    cases heq
    exact h.daemonExits hd

end Sound

namespace World

theorem step_cases {env : Env} {w w' : World} {a : Action} (h : w.step env a = some w') :
    (∃ stdio sigpipeIgnored args failure, a = .launch stdio sigpipeIgnored args failure ∧
      w'.pidFiles = w.pidFiles ∧
      w'.launches = w.launches ++ [daemonize stdio sigpipeIgnored args failure]) ∨
    (∃ i b l l', a = .act i b ∧ w.launches[i]? = some l ∧
      l.step env i w.pidFiles b = some (l', w'.pidFiles) ∧
      w'.launches = w.launches.set i l') ∨
    a = .removePidFile ∧ w' = { w with pidFiles := w.pidFiles.remove } := by
  cases a with
  | launch stdio sigpipeIgnored args failure =>
    cases h
    exact Or.inl ⟨stdio, sigpipeIgnored, args, failure, rfl, rfl, rfl⟩
  | act i b =>
    obtain ⟨l, hl, hmap⟩ := Option.bind_eq_some_iff.mp h
    obtain ⟨⟨l', files'⟩, hstep, rfl⟩ := Option.map_eq_some_iff.mp hmap
    exact Or.inr (Or.inl ⟨i, b, l, l', rfl, hl, hstep, rfl⟩)
  | removePidFile =>
    cases h
    exact Or.inr (Or.inr ⟨rfl, rfl⟩)

theorem sound_step {env : Env} {w w' : World} {a : Action}
    (h : ∀ l ∈ w.launches, Sound env (Event.Possible env) l) (hs : w.step env a = some w') :
    ∀ l ∈ w'.launches, Sound env (Event.Possible env) l := by
  intro l hl
  rcases step_cases hs with
    ⟨stdio, sigpipeIgnored, args, failure, -, -, hw⟩ | ⟨i, b, m, m', -, hm, hstep, hw⟩ |
    ⟨-, rfl⟩
  · rw [hw, List.mem_append, List.mem_singleton] at hl
    rcases hl with hold | rfl
    · exact h l hold
    · exact sound_daemonize (fun _ => id) stdio sigpipeIgnored args failure
  · rw [hw] at hl
    rcases List.mem_or_eq_of_mem_set hl with hold | rfl
    · exact h l hold
    · exact (h m (List.mem_of_getElem? hm)).step hstep fun event => Launch.Does.possible
  · exact h l hl

theorem Reachable.sound {env : Env} {w : World} (h : Reachable env w) :
    ∀ l ∈ w.launches, Sound env (Event.Possible env) l :=
  Runs.Reachable.invariant h (fun l hl => by cases hl) fun hP hs => sound_step hP hs

/-- At some point of the run a step of launch `i` was just this. -/
def Happened (env : Env) (as : List Action) (i : Nat) (event : Event) : Prop :=
  ∃ pre a post w l, as = pre ++ .act i a :: post ∧
    Runs.run (step env) {} pre = some w ∧ w.launches[i]? = some l ∧ l.Does env a event

theorem happened_possible {env : Env} {as : List Action} {i : Nat} {event : Event}
    (h : Happened env as i event) : event.Possible env := by
  obtain ⟨_, _, _, _, _, -, -, -, hdoes⟩ := h
  exact hdoes.possible

/-- What each launch has to show for is what has happened to it in the run. -/
theorem run_sound {env : Env} {w : World} {as : List Action}
    (h : Runs.run (step env) {} as = some w) :
    ∀ i l, w.launches[i]? = some l → Sound env (Happened env as i) l := by
  have hok : Runs.Always (step env) (fun w a => ∀ i b l, a = .act i b →
      w.launches[i]? = some l → ∀ event, l.Does env b event → Happened env as i event) {} as := by
    rintro pre a post w has hpre i b l rfl hl event hdoes
    exact ⟨pre, b, post, w, l, has, hpre, hl, hdoes⟩
  refine Runs.run_guarded
    (P := fun w : World => ∀ i l, w.launches[i]? = some l → Sound env (Happened env as i) l)
    ?_ (fun i l hl => by cases hl) h hok
  intro w a w' hsound hevents hs i l hl
  rcases step_cases hs with
    ⟨stdio, sigpipeIgnored, args, failure, -, -, hw⟩ | ⟨j, b, m, m', rfl, hm, hstep, hw⟩ |
    ⟨-, rfl⟩
  · rw [hw] at hl
    by_cases hlt : i < w.launches.length
    · rw [List.getElem?_append_left hlt] at hl
      exact hsound i l hl
    · rw [List.getElem?_append_right (Nat.le_of_not_lt hlt)] at hl
      rw [List.mem_singleton.mp (List.mem_of_getElem? hl)]
      exact sound_daemonize (fun _ => happened_possible) stdio sigpipeIgnored args failure
  · rw [hw] at hl
    by_cases hij : j = i
    · subst hij
      rw [List.getElem?_set_self (List.getElem?_eq_some_iff.mp hm).1] at hl
      cases hl
      exact (hsound j m hm).step hstep (hevents j b m rfl hm)
    · rw [List.getElem?_set_ne hij] at hl
      exact hsound i l hl
  · exact hsound i l hl

/-- However many launches there are, and however their steps interleave: a launch that
succeeds has brought up an engine from the configuration that it has loaded. One that fails
has not, and never will, unless `SIGPIPE` is ignored, or two of the descriptors 0, 1 and 2
were closed at the start; then none succeeds. What it says then is nothing, or of the report
of a step of its own that has failed. -/
theorem launch_learns_of_engine {env : Env} {w : World} {as : List Action}
    (h : Runs.run (step env) {} as = some w) {i : Nat} {l : Launch}
    (hl : w.launches[i]? = some l) :
    (l.parent = .succeeded →
      ∃ engine, l.engine = some engine ∧ Brought env (Happened env as i) engine) ∧
    (l.stdio.Suffices → l.sigpipeIgnored = false → ∀ f, l.parent = .failed f →
      l.engine = none) ∧
    (¬ l.stdio.Suffices → l.parent ≠ .succeeded) ∧
    ∀ m, l.parent = .failed (.childInit m) →
      ∃ said, Cut (Happened env as i) said ∧ said <+: l.said ∧
        m = cstr (said.flatten.take 1023) := by
  have hsound := run_sound h i l hl
  refine ⟨?_, ?_, ?_, hsound.message⟩
  · intro hp
    obtain ⟨engine, hengine⟩ := Option.isSome_iff_exists.mp (hsound.succeeded hp).1
    exact ⟨engine, hengine, hsound.brought engine hengine⟩
  · intro hstdio hsigpipe f hf
    cases he : l.engine with
    | none => rfl
    | some engine =>
      exact absurd hf ((hsound.reported hstdio hsigpipe (by rw [he]; rfl)).1 f)
  · exact fun hstdio hp => hstdio (hsound.succeeded hp).2

open Engine Engine.Lifecycle in
def sampleConfiguration : Toml.Table :=
  sampleSettings.put cyphalKey (((Toml.Table.empty.put transportKey
    (Toml.Table.empty.put interfacesKey (Toml.Value.ofStrings [sampleInterface])).value).put
      applicationKey (Toml.Table.empty.put uniqueIdKey (Toml.Value.ofArray sampleId)).value).value)

def sampleFirst : List Action :=
  [.launch {} false [] none, .act 0 (.child .done), .act 0 (.child (.forked 7)),
   .act 0 (.child .done), .act 0 (.daemon .done), .act 0 (.daemon .done),
   .act 0 (.daemon .done), .act 0 (.daemon .done), .act 0 (.daemon .done),
   .act 0 (.daemon .done), .act 0 (.daemon (.parsed sampleConfiguration)),
   .act 0 (.daemon .done),
   .act 0 (.daemon (.init (Engine.Lifecycle.sampleAnswers Engine.sampleId) none)),
   .act 0 (.daemon .done), .act 0 .parentReads]

/-- A second one, with no standard input, whose daemon does not get the lock. -/
def sampleSecond : List Action :=
  [.launch { stdin := false } false [] none, .act 1 (.child .done),
   .act 1 (.child (.forked 8)), .act 1 (.daemon .done), .act 1 (.daemon .done),
   .act 1 (.daemon .done), .act 1 (.daemon (.error .EAGAIN)), .act 1 (.daemon .done),
   .act 1 .parentReads]

def sampleEnv (toml : Toml.Codec) : Env where
  toml := toml.documented
  inet := Io.plainInet
  strerror := fun _ => text "Resource temporarily unavailable".toList

def sampleWorld (toml : Toml.Codec) : World :=
  (Runs.run (step (sampleEnv toml)) {} (sampleFirst ++ sampleSecond)).getD {}

/-- The first launch brings up an engine, and the second one says why it has not. -/
theorem launch_learns_of_engine_sample : ∃ (toml : Toml.Codec) (l l' : Launch),
    (sampleWorld toml).launches = [l, l'] ∧
    l.parent = .succeeded ∧ (∃ engine, l.engine = some engine ∧
      Brought (sampleEnv toml) (Happened (sampleEnv toml) (sampleFirst ++ sampleSecond) 0)
        engine) ∧
    l'.parent = .failed (.childInit (text "Failed to lock PID file: ".toList)) ∧
    l'.engine = none ∧ ∃ said,
      Cut (Happened (sampleEnv toml) (sampleFirst ++ sampleSecond) 1) said ∧
      text "Failed to lock PID file: ".toList = cstr (said.flatten.take 1023) := by
  obtain ⟨toml, -⟩ := Engine.exists_sample_codec
  have hrun : Runs.run (step (sampleEnv toml)) {} (sampleFirst ++ sampleSecond) =
    some (sampleWorld toml) := rfl
  have hlaunches : ∃ l l', (sampleWorld toml).launches = [l, l'] ∧ l.parent = .succeeded ∧
      l'.parent = .failed (.childInit (text "Failed to lock PID file: ".toList)) ∧
      l'.stdio = { stdin := false } ∧ l'.sigpipeIgnored = false :=
    ⟨_, _, rfl, rfl, rfl, rfl, rfl⟩
  obtain ⟨l, l', hw, hl, hl', hstdio, hsigpipe⟩ := hlaunches
  have hsuffices : l'.stdio.Suffices := by
    rw [hstdio]
    decide
  have hfirst := launch_learns_of_engine hrun (i := 0) (l := l) (by rw [hw]; rfl)
  have hsecond := launch_learns_of_engine hrun (i := 1) (l := l') (by rw [hw]; rfl)
  obtain ⟨said, hcut, -, hsaid⟩ := hsecond.2.2.2 _ hl'
  exact ⟨toml, l, l', hw, hl, hfirst.1 hl, hl', hsecond.2.1 hsuffices hsigpipe _ hl',
    said, hcut, hsaid⟩

end World

end Ocvsmd.Startup
