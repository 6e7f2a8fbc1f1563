import H618Vpu.Soundness.JobCompletion

/-! # Releasing a file while its jobs run

`cedrus_context_cleanup` clears the active pointer and frees the control handler before
`v4l2_m2m_ctx_release` waits for the running job, so both come too early for a job that is still
under way. The teardown is safe in the interleavings in which the context is at rest from these two
steps on.
-/

namespace H618Vpu.Device

open Machine

/-- No engine callback ran on freed controls, and no freed context is left as the active one. -/
structure ReleasedSafely (s : State) : Prop where
  calls : ∀ call ∈ s.calls, call.ctrlsFreed = false
  active : ∀ ctx, s.release ctx = .freed → ∀ role, s.ctxActive role ≠ some ctx

/-- No job run sets the active pointer to a context whose release has begun; when the controls are freed no
job of the context is current and no interrupt handler holds it, and no job of it starts afterwards. -/
def AtRest (s : State) : Event → Prop
  | .deviceRun ctx => (s.release ctx).ctrlsGone = false
  | .activeUpdate job => ∀ run ∈ s.runs job, s.release run.ctx = .opened
  | .ctrlsCleanup ctx => s.curr.map (·.ctx) ≠ some ctx ∧ s.irq ≠ some (some ctx)
  | _ => True

instance (s : State) (event : Event) : Decidable (AtRest s event) :=
  match event with
  | .deviceRun _ | .activeUpdate _ | .ctrlsCleanup _ => by dsimp only [AtRest]; infer_instance
  | .queueJob _ | .jobPrepare _ _ | .formatConfigure _ _ | .jobConfigure _ _ | .scheduleWatchdog _ | .jobTrigger _
  | .irqEnter | .irqHandle _ | .watchdogExpire | .watchdogRun | .activeClear _ | .m2mCtxRelease _
  | .freeContext _ => instDecidableTrue

/-- A context whose release has begun is not the active one; once its controls are freed it is neither
current nor held by the interrupt handler. -/
structure Dormant (role : ℕ → Role) (s : State) : Prop where
  active : ∀ ctx, s.release ctx ≠ .opened → ∀ which, s.ctxActive which ≠ some ctx
  current : ∀ current, s.curr = some current → (s.release current.ctx).ctrlsGone = false
  held : ∀ ctx, s.irq = some (some ctx) → (s.release ctx).ctrlsGone = false
  roles : ∀ which ctx, s.ctxActive which = some ctx → role ctx = which
  calls : ∀ call ∈ s.calls, call.ctrlsFreed = false

namespace Dormant

variable {role : ℕ → Role} {s : State} {job : ℕ} {run : JobRun}

theorem initial : Dormant role .initial := ⟨nofun, nofun, nofun, nofun, nofun⟩

theorem frame {next : State} (valid : Dormant role s) (release : next.release = s.release := by rfl)
    (active : next.ctxActive = s.ctxActive := by rfl) (curr : next.curr = s.curr := by rfl)
    (irq : next.irq = s.irq := by rfl) (calls : next.calls = s.calls := by rfl) : Dormant role next := by
  obtain ⟨unset, current, held, roles, safe⟩ := valid
  refine ⟨?_, ?_, ?_, ?_, ?_⟩ <;> simp only [release, active, curr, irq, calls] <;> assumption

theorem call (valid : Dormant role s) (callback : Callback) {ctx : ℕ}
    (alive : (s.release ctx).ctrlsGone = false) : Dormant role (s.call callback ctx) := by
  refine { valid with calls := ?_ }
  intro call member
  rcases List.mem_cons.mp member with rfl | member
  · exact alive
  · exact valid.calls call member

theorem jobFinish (valid : Dormant role s) {ctx : ℕ} (alive : (s.release ctx).ctrlsGone = false) :
    Dormant role (s.jobFinish ctx) := by
  have called := valid.call .jobFinish alive
  obtain ⟨job, -, ended⟩ | ⟨-, ended⟩ := s.jobFinish_cases ctx
  · rw [ended]
    exact { called with current := nofun }
  · rw [ended]
    exact called

theorem stage (valid : Dormant role s) (alive : (s.release run.ctx).ctrlsGone = false) (phase : RunPhase)
    (ok : Bool) : Dormant role (s.stage job run phase ok) := by
  cases ok with
  | true => exact valid.frame
  | false => exact (valid.jobFinish alive).frame

/-- A later stage of the teardown of a context that is not the active one, and at rest if its controls are
freed by then. -/
theorem releaseTo (valid : Dormant role s) (ctx : ℕ) (stage : Release)
    (inactive : ∀ which, s.ctxActive which ≠ some ctx)
    (resting : stage.ctrlsGone = true →
      (∀ current, s.curr = some current → current.ctx ≠ ctx) ∧ s.irq ≠ some (some ctx)) :
    Dormant role { s with release := Function.update s.release ctx stage } where
  active other released which := by
    by_cases same : other = ctx
    · exact same ▸ inactive which
    · exact valid.active other (by simpa [Function.update_of_ne same] using released) which
  current current same := by
    change (Function.update s.release ctx stage current.ctx).ctrlsGone = false
    by_cases gone : stage.ctrlsGone = true
    · rw [Function.update_of_ne ((resting gone).1 current same)]
      exact valid.current current same
    · by_cases mine : current.ctx = ctx
      · simpa [mine] using gone
      · rw [Function.update_of_ne mine]
        exact valid.current current same
  held other same := by
    change (Function.update s.release ctx stage other).ctrlsGone = false
    by_cases mine : other = ctx
    · subst mine
      by_cases gone : stage.ctrlsGone = true
      · exact absurd same (resting gone).2
      · simpa using gone
    · rw [Function.update_of_ne mine]
      exact valid.held other same
  roles := valid.roles
  calls := valid.calls

/-- A context whose controls are freed stays at rest in the later stages. -/
theorem releaseOn (valid : Dormant role s) (ctx : ℕ) (stage : Release)
    (gone : (s.release ctx).ctrlsGone = true) :
    Dormant role { s with release := Function.update s.release ctx stage } := by
  have begun : s.release ctx ≠ .opened := by
    intro opened
    rw [opened] at gone
    cases gone
  refine valid.releaseTo ctx stage (valid.active ctx begun) ?_
  intro _
  constructor
  · rintro current same rfl
    simp [valid.current current same] at gone
  · intro held
    simp [valid.held ctx held] at gone

theorem activeClear (valid : Dormant role s) (ctx : ℕ) : Dormant role (s.activeClear role ctx) := by
  have cleared : ∀ which other, (s.activeClear role ctx).ctxActive which = some other →
      s.ctxActive which = some other ∧ other ≠ ctx := by
    intro which other active
    simp only [State.activeClear] at active
    split at active
    case isTrue mine =>
      obtain ⟨-, impossible⟩ | ⟨different, still⟩ := update_eq_some active
      · cases impossible
      · refine ⟨still, ?_⟩
        rintro rfl
        exact different (valid.roles which other still).symm
    case isFalse notMine =>
      refine ⟨active, ?_⟩
      rintro rfl
      exact notMine (valid.roles which other active ▸ active)
  have without : Dormant role { s with ctxActive := (s.activeClear role ctx).ctxActive } :=
    ⟨fun other released which active => valid.active other released which (cleared _ _ active).1,
      valid.current, valid.held, fun which other active => valid.roles which other (cleared _ _ active).1,
      valid.calls⟩
  exact without.releaseTo ctx .activeCleared (fun which active => (cleared which ctx active).2 rfl) nofun

theorem activeUpdate (valid : Dormant role s) (opened : s.release run.ctx = .opened) :
    Dormant role (s.activeUpdate role job run) := by
  refine ⟨?_, valid.current, valid.held, ?_, valid.calls⟩
  · intro ctx released which active
    obtain ⟨rfl, new⟩ | ⟨-, active⟩ := update_eq_some active
    · obtain rfl := Option.some.inj new
      exact released opened
    · exact valid.active ctx released which active
  · intro which ctx active
    obtain ⟨rfl, new⟩ | ⟨-, active⟩ := update_eq_some active
    · exact congrArg role (Option.some.inj new).symm
    · exact valid.roles which ctx active

theorem step {event : Event} {next : State} (sequential : Sequential s) (valid : Dormant role s)
    (rest : AtRest s event) (taken : Device.step role s event = some next) : Dormant role next := by
  -- a run that can still make callbacks is the current job's, so its controls are alive
  have alive {job : ℕ} {run : JobRun} (member : s.runs job = some run) (early : run.phase ≠ .scheduled) :
      (s.release run.ctx).ctrlsGone = false :=
    valid.current _ (sequential.early job run member early).1
  cases event with
  | queueJob ctx =>
    obtain ⟨-, taken⟩ := Option.ite_none_right_eq_some.mp taken
    obtain rfl := Option.some.inj taken
    exact valid.frame
  | deviceRun ctx =>
    obtain ⟨-, taken⟩ := Option.ite_none_right_eq_some.mp taken
    obtain rfl := Option.some.inj taken
    refine ⟨valid.active, ?_, valid.held, valid.roles, valid.calls⟩
    rintro current ⟨⟩
    exact rest
  | jobPrepare job ok =>
    obtain ⟨run, member, rfl⟩ := Option.map_eq_some_iff.mp taken
    obtain ⟨member, phase⟩ := State.runAt_eq_some.mp member
    have alive := alive member (by simp [phase])
    exact (valid.call .jobPrepare alive).stage alive _ ok
  | formatConfigure job ok =>
    obtain ⟨run, member, rfl⟩ := Option.map_eq_some_iff.mp taken
    obtain ⟨member, phase⟩ := State.runAt_eq_some.mp member
    exact valid.stage (alive member (by simp [phase])) _ ok
  | jobConfigure job ok =>
    obtain ⟨run, member, rfl⟩ := Option.map_eq_some_iff.mp taken
    obtain ⟨member, phase⟩ := State.runAt_eq_some.mp member
    have alive := alive member (by simp [phase])
    exact (valid.call .jobConfigure alive).stage alive _ ok
  | activeUpdate job =>
    obtain ⟨run, member, rfl⟩ := Option.map_eq_some_iff.mp taken
    obtain ⟨member, -⟩ := State.runAt_eq_some.mp member
    exact valid.activeUpdate (rest run member)
  | scheduleWatchdog job =>
    obtain ⟨run, member, rfl⟩ := Option.map_eq_some_iff.mp taken
    exact valid.frame
  | jobTrigger job =>
    obtain ⟨run, member, rfl⟩ := Option.map_eq_some_iff.mp taken
    exact valid.frame
  | irqEnter =>
    obtain ⟨-, taken⟩ := Option.ite_none_right_eq_some.mp taken
    obtain rfl := Option.some.inj taken
    refine ⟨valid.active, valid.current, ?_, valid.roles, valid.calls⟩
    intro ctx held
    obtain ⟨current, same, rfl⟩ := Option.map_eq_some_iff.mp (Option.some.inj held)
    exact valid.current current same
  | irqHandle status =>
    obtain ⟨seen, entered, rfl⟩ := Option.map_eq_some_iff.mp taken
    have left : Dormant role { s with irq := none } :=
      ⟨valid.active, valid.current, nofun, valid.roles, valid.calls⟩
    simp only [State.irqHandle]
    split
    case isFalse => exact left
    case isTrue =>
      have cancelled : Dormant role { s with irq := none, watchdogPending := false } := left.frame
      cases seen with
      | none => exact cancelled
      | some ctx =>
        cases status with
        | none => exact cancelled
        | error => exact cancelled.jobFinish (valid.held ctx entered)
        | success => exact cancelled.jobFinish (valid.held ctx entered)
  | watchdogExpire =>
    obtain ⟨-, taken⟩ := Option.ite_none_right_eq_some.mp taken
    obtain rfl := Option.some.inj taken
    exact valid.frame
  | watchdogRun =>
    obtain ⟨-, taken⟩ := Option.ite_none_right_eq_some.mp taken
    obtain rfl := Option.some.inj taken
    have left : Dormant role { s with watchdogRunning := false } := valid.frame
    simp only [State.watchdogRun]
    split
    case h_1 current same => exact left.jobFinish (valid.current current same)
    case h_2 => exact left
  | activeClear ctx =>
    obtain ⟨-, taken⟩ := Option.ite_none_right_eq_some.mp taken
    obtain rfl := Option.some.inj taken
    exact valid.activeClear ctx
  | ctrlsCleanup ctx =>
    obtain ⟨cleared, taken⟩ := Option.ite_none_right_eq_some.mp taken
    obtain rfl := Option.some.inj taken
    refine valid.releaseTo ctx .ctrlsFreed (valid.active ctx (by simp [cleared])) fun _ => ⟨?_, rest.2⟩
    rintro current same rfl
    exact rest.1 (by simp [same])
  | m2mCtxRelease ctx =>
    obtain ⟨⟨freed, -⟩, taken⟩ := Option.ite_none_right_eq_some.mp taken
    obtain rfl := Option.some.inj taken
    exact (valid.releaseOn ctx .m2mReleased (by rw [freed]; rfl)).frame
  | freeContext ctx =>
    obtain ⟨released, taken⟩ := Option.ite_none_right_eq_some.mp taken
    obtain rfl := Option.some.inj taken
    exact valid.releaseOn ctx .freed (by rw [released]; rfl)

end Dormant

/-- In every interleaving whose contexts are at rest when they are torn down, no engine callback
runs on freed controls and no freed context stays the active one. -/
theorem released_safely_of_rest (role : ℕ → Role) (events : List Event) (final : State)
    (rest : Guarded (step role) AtRest .initial events)
    (reached : run (step role) .initial events = some final) : ReleasedSafely final := by
  have valid : Sequential final ∧ Dormant role final :=
    rest.run_preserves (fun s => Sequential s ∧ Dormant role s)
      (fun before guard taken => ⟨before.1.step taken, before.2.step before.1 guard taken⟩)
      ⟨Sequential.initial, Dormant.initial⟩ reached
  refine ⟨valid.2.calls, fun ctx freed => valid.2.active ctx ?_⟩
  simp [freed]

/-- A file closed with one job queued and one triggered, which the interrupt still completes between the
two teardown steps; the queued one is then refused by `job_prepare`. -/
def restfulRelease : List Event :=
  [.queueJob 0, .queueJob 0, .deviceRun 0, .jobPrepare 0 true, .formatConfigure 0 true, .jobConfigure 0 true,
    .activeUpdate 0, .scheduleWatchdog 0, .jobTrigger 0, .activeClear 0, .irqEnter, .irqHandle .success,
    .deviceRun 0, .jobPrepare 1 false, .ctrlsCleanup 0, .m2mCtxRelease 0, .freeContext 0]

theorem released_safely_restful :
    ∃ final, run (step fun _ => .encoder) .initial restfulRelease = some final ∧
      final.release 0 = .freed ∧ final.calls.length = 5 ∧ ReleasedSafely final :=
  ⟨_, rfl, rfl, rfl, released_safely_of_rest (fun _ => .encoder) restfulRelease _ (by decide) rfl⟩

/-- A file closed with a job queued, which starts between the teardown steps. -/
def queuedRelease : List Event :=
  [.queueJob 0, .activeClear 0, .deviceRun 0, .jobPrepare 0 true, .formatConfigure 0 true, .ctrlsCleanup 0,
    .jobConfigure 0 true, .activeUpdate 0, .scheduleWatchdog 0, .jobTrigger 0, .irqEnter, .irqHandle .success,
    .m2mCtxRelease 0, .freeContext 0]

/-- The queued job is configured and finished on freed controls, and leaves the freed context as the
active one. -/
theorem release_not_always_safe :
    ∃ final, run (step fun _ => .decoder) .initial queuedRelease = some final ∧
      ⟨.jobConfigure, 0, true⟩ ∈ final.calls ∧ ⟨.jobFinish, 0, true⟩ ∈ final.calls ∧
      final.release 0 = .freed ∧ final.ctxActive .decoder = some 0 ∧ ¬ ReleasedSafely final := by
  refine ⟨_, rfl, by decide, by decide, rfl, rfl, ?_⟩
  intro safe
  exact safe.active 0 rfl .decoder rfl

end H618Vpu.Device
