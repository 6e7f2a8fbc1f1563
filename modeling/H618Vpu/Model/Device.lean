import H618Vpu.Machine.Run

/-! # The VE device: jobs, interrupt handler, watchdog and the release of a file

`cedrus.c`, `cedrus_context.c` and `cedrus_proc.c` share one engine between all open files.
v4l2-m2m hands one job at a time to `cedrus_context_job_run`; the interrupt handler or the delayed
watchdog finishes it, and closing a file tears its context down meanwhile. Each event below is one
atomic section of one of these threads, so a tape is an interleaving of them: the job run is cut
at its engine callbacks, at the update of the active pointer, at the scheduling of the watchdog
and at the trigger; the interrupt handler between reading the current context and
`cancel_delayed_work`; the watchdog between leaving the pending state and running; the release at
its four teardown calls. Jobs and contexts are numbered; a job number is never used twice.
-/

namespace H618Vpu.Device

/-- `enum cedrus_role`: which of the two video nodes a file was opened on. -/
inductive Role where
  | decoder
  | encoder
deriving DecidableEq, Repr

/-- `enum cedrus_irq_status`: what the engine's `irq_status` callback answers. -/
inductive IrqStatus where
  | none
  | error
  | success
deriving DecidableEq, Repr

/-- The engine callbacks which read the control payloads of the context. -/
inductive Callback where
  | jobPrepare
  | jobConfigure
  | jobFinish
deriving DecidableEq, Repr

/-- A callback that was made, and whether the control handler of its context was freed by then. -/
structure Call where
  callback : Callback
  ctx : ℕ
  ctrlsFreed : Bool
deriving DecidableEq, Repr

/-- How far `cedrus_context_job_run` has come; after the trigger it returns. -/
inductive RunPhase where
  | entered
  | prepared
  | formatted
  | configured
  | activated
  | scheduled
deriving DecidableEq, Repr

structure JobRun where
  ctx : ℕ
  phase : RunPhase
deriving DecidableEq, Repr

/-- How far the release of a file has come in `cedrus_context_cleanup` and `kfree`. -/
inductive Release where
  | opened
  | activeCleared
  | ctrlsFreed
  | m2mReleased
  | freed
deriving DecidableEq, Repr

/-- The job v4l2-m2m regards as running, with its context (`v4l2_m2m_get_curr_priv`). -/
structure Current where
  job : ℕ
  ctx : ℕ
deriving DecidableEq, Repr

structure State where
  curr : Option Current := none
  started : ℕ := 0
  runs : ℕ → Option JobRun := fun _ => none
  queued : ℕ → ℕ := fun _ => 0
  watchdogPending : Bool := false
  watchdogRunning : Bool := false
  irq : Option (Option ℕ) := none
  ctxActive : Role → Option ℕ := fun _ => none
  release : ℕ → Release := fun _ => .opened
  triggered : List ℕ := []
  finished : List ℕ := []
  calls : List Call := []

/-- The device after the probe: no file has queued anything. -/
def State.initial : State := {}

/-- The control handler is freed by `cedrus_context_ctrls_cleanup` and stays so. -/
def Release.ctrlsGone : Release → Bool
  | .opened | .activeCleared => false
  | .ctrlsFreed | .m2mReleased | .freed => true

/-- v4l2-m2m starts no job of a context once `v4l2_m2m_ctx_release` returned. -/
def Release.admitsJobs : Release → Bool
  | .opened | .activeCleared | .ctrlsFreed => true
  | .m2mReleased | .freed => false

inductive Event where
  | queueJob (ctx : ℕ)
  | deviceRun (ctx : ℕ)
  | jobPrepare (job : ℕ) (ok : Bool)
  | formatConfigure (job : ℕ) (ok : Bool)
  | jobConfigure (job : ℕ) (ok : Bool)
  | activeUpdate (job : ℕ)
  | scheduleWatchdog (job : ℕ)
  | jobTrigger (job : ℕ)
  | irqEnter
  | irqHandle (status : IrqStatus)
  | watchdogExpire
  | watchdogRun
  | activeClear (ctx : ℕ)
  | ctrlsCleanup (ctx : ℕ)
  | m2mCtxRelease (ctx : ℕ)
  | freeContext (ctx : ℕ)
deriving DecidableEq, Repr

namespace State

/-- Record an engine callback made for a context. -/
def call (s : State) (callback : Callback) (ctx : ℕ) : State :=
  { s with calls := ⟨callback, ctx, (s.release ctx).ctrlsGone⟩ :: s.calls }

/-- `cedrus_context_job_finish`: the engine callback, then `v4l2_m2m_buf_done_and_job_finish`,
which ends the running job only when it belongs to this context. -/
def jobFinish (s : State) (ctx : ℕ) : State :=
  let s := s.call .jobFinish ctx
  match s.curr with
  | some current =>
      if current.ctx = ctx then { s with curr := none, finished := current.job :: s.finished } else s
  | none => s

def setPhase (s : State) (job : ℕ) (run : JobRun) (phase : RunPhase) : State :=
  { s with runs := Function.update s.runs job (some { run with phase }) }

def endRun (s : State) (job : ℕ) : State :=
  { s with runs := Function.update s.runs job none }

/-- One stage of the job run that can fail: go on, or leave through `error_ctrl`, which passes the
job to `cedrus_context_job_finish`. -/
def stage (s : State) (job : ℕ) (run : JobRun) (phase : RunPhase) (ok : Bool) : State :=
  if ok then s.setPhase job run phase else (s.jobFinish run.ctx).endRun job

/-- The run of a job, when it stands at the given phase. -/
def runAt (s : State) (job : ℕ) (phase : RunPhase) : Option JobRun :=
  (s.runs job).filter (·.phase = phase)

/-- v4l2-m2m calls `device_run` for a context with a ready job while no job is running. -/
def deviceRun (s : State) (ctx : ℕ) : Option State :=
  if s.curr = none ∧ 0 < s.queued ctx ∧ (s.release ctx).admitsJobs then
    some { s with
      curr := some ⟨s.started, ctx⟩
      started := s.started + 1
      runs := Function.update s.runs s.started (some ⟨ctx, .entered⟩)
      queued := Function.update s.queued ctx (s.queued ctx - 1) }
  else none

/-- `cedrus_proc_context_active_update`. -/
def activeUpdate (s : State) (role : ℕ → Role) (job : ℕ) (run : JobRun) : State :=
  { s with ctxActive := Function.update s.ctxActive (role run.ctx) (some run.ctx) }.setPhase job run .activated

/-- `schedule_delayed_work` on the global watchdog. -/
def scheduleWatchdog (s : State) (job : ℕ) (run : JobRun) : State :=
  { s with watchdogPending := true }.setPhase job run .scheduled

/-- `cedrus_irq` from `cancel_delayed_work` on, with the context it read on entry. The spurious
paths only write interrupt registers. -/
def irqHandle (s : State) (seen : Option ℕ) (status : IrqStatus) : State :=
  let left := { s with irq := none }
  if s.watchdogPending then
    let cancelled := { left with watchdogPending := false }
    match seen, status with
    | none, _ => cancelled
    | some _, .none => cancelled
    | some ctx, _ => cancelled.jobFinish ctx
  else left

/-- `cedrus_watchdog`. -/
def watchdogRun (s : State) : State :=
  let left := { s with watchdogRunning := false }
  match s.curr with
  | some current => left.jobFinish current.ctx
  | none => left

/-- `cedrus_proc_context_active_clear`. -/
def activeClear (s : State) (role : ℕ → Role) (ctx : ℕ) : State :=
  { s with
    release := Function.update s.release ctx .activeCleared
    ctxActive := if s.ctxActive (role ctx) = some ctx then Function.update s.ctxActive (role ctx) none
      else s.ctxActive }

end State

open State in
/-- One atomic section of one thread; `role` tells the node each context was opened on. -/
def step (role : ℕ → Role) (s : State) : Event → Option State
  | .queueJob ctx =>
      if s.release ctx = .opened then
        some { s with queued := Function.update s.queued ctx (s.queued ctx + 1) }
      else none
  | .deviceRun ctx => s.deviceRun ctx
  | .jobPrepare job ok =>
      (s.runAt job .entered).map fun run => (s.call .jobPrepare run.ctx).stage job run .prepared ok
  | .formatConfigure job ok =>
      (s.runAt job .prepared).map fun run => s.stage job run .formatted ok
  | .jobConfigure job ok =>
      (s.runAt job .formatted).map fun run => (s.call .jobConfigure run.ctx).stage job run .configured ok
  | .activeUpdate job => (s.runAt job .configured).map fun run => s.activeUpdate role job run
  | .scheduleWatchdog job => (s.runAt job .activated).map fun run => s.scheduleWatchdog job run
  | .jobTrigger job =>
      (s.runAt job .scheduled).map fun _ => { s.endRun job with triggered := job :: s.triggered }
  | .irqEnter =>
      if s.irq = none then some { s with irq := some (s.curr.map (·.ctx)) } else none
  | .irqHandle status => s.irq.map fun seen => s.irqHandle seen status
  | .watchdogExpire =>
      -- a work item is not run twice at a time, so it stays pending while an earlier run lasts
      if s.watchdogPending ∧ ¬ s.watchdogRunning then
        some { s with watchdogPending := false, watchdogRunning := true }
      else none
  | .watchdogRun => if s.watchdogRunning then some s.watchdogRun else none
  | .activeClear ctx => if s.release ctx = .opened then some (s.activeClear role ctx) else none
  | .ctrlsCleanup ctx =>
      if s.release ctx = .activeCleared then
        some { s with release := Function.update s.release ctx .ctrlsFreed }
      else none
  | .m2mCtxRelease ctx =>
      -- waits for the running job of the context and drops the queued ones
      if s.release ctx = .ctrlsFreed ∧ s.curr.map (·.ctx) ≠ some ctx then
        some { s with
          release := Function.update s.release ctx .m2mReleased
          queued := Function.update s.queued ctx 0 }
      else none
  | .freeContext ctx =>
      if s.release ctx = .m2mReleased then
        some { s with release := Function.update s.release ctx .freed }
      else none

theorem update_eq_some {κ α : Type} [DecidableEq κ] {table : κ → Option α} {key other : κ} {found : α}
    {new : Option α} (member : Function.update table key new other = some found) :
    (other = key ∧ new = some found) ∨ (other ≠ key ∧ table other = some found) := by
  by_cases same : other = key
  · subst same
    exact .inl ⟨rfl, by simpa using member⟩
  · exact .inr ⟨same, by simpa [Function.update_of_ne same] using member⟩

namespace State

theorem runAt_eq_some {s : State} {job : ℕ} {phase : RunPhase} {run : JobRun} :
    s.runAt job phase = some run ↔ s.runs job = some run ∧ run.phase = phase := by
  simp [runAt]

/-- `cedrus_context_job_finish` ends the current job when it belongs to the context, and otherwise
only makes the engine callback. -/
theorem jobFinish_cases (s : State) (ctx : ℕ) :
    (∃ job, s.curr = some ⟨job, ctx⟩ ∧
      s.jobFinish ctx = { s.call .jobFinish ctx with curr := none, finished := job :: s.finished }) ∨
    (s.curr.map (·.ctx) ≠ some ctx ∧ s.jobFinish ctx = s.call .jobFinish ctx) := by
  cases current : s.curr with
  | none => exact .inr ⟨by simp, by simp [jobFinish, call, current]⟩
  | some owner =>
    obtain ⟨job, owned⟩ := owner
    by_cases same : owned = ctx
    · subst same
      exact .inl ⟨job, rfl, by simp [jobFinish, call, current]⟩
    · exact .inr ⟨by simpa using same, by simp [jobFinish, call, current, same]⟩

theorem jobFinish_current {s : State} {job ctx : ℕ} (current : s.curr = some ⟨job, ctx⟩) :
    s.jobFinish ctx = { s.call .jobFinish ctx with curr := none, finished := job :: s.finished } := by
  simp [jobFinish, call, current]

theorem jobFinish_endRun (s : State) (ctx job : ℕ) :
    (s.jobFinish ctx).endRun job = (s.endRun job).jobFinish ctx := by
  have same : (s.endRun job).curr = s.curr := rfl
  obtain ⟨owned, current, ended⟩ | ⟨other, ended⟩ := s.jobFinish_cases ctx
  · rw [ended, jobFinish_current (same.trans current)]
    rfl
  · obtain ⟨owned, current, -⟩ | ⟨-, also⟩ := (s.endRun job).jobFinish_cases ctx
    · simp [same.symm.trans current] at other
    · rw [ended, also]
      rfl

end State

end H618Vpu.Device
