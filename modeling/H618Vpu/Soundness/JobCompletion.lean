import H618Vpu.Model.Device

/-! # Every job is finished once, and is watched until then

v4l2-m2m runs one job at a time, so the job run, the interrupt handler and the watchdog agree on
the current job through two facts alone: which job is current, and whether the watchdog work is
pending or running. `Sequential` collects what holds of them on every interleaving. What can be
lost is the watch: the interrupt handler takes the pending watchdog away before it has looked at
the engine, so the watch survives exactly the interrupts of the current job.
-/

namespace H618Vpu.Device

open Machine

/-- A triggered job is finished once or still current, every call of `cedrus_context_job_finish`
ends one job, and a triggered job that is current is under the watchdog. -/
structure JobsServed (s : State) : Prop where
  once : ∀ job ∈ s.triggered,
    s.finished.count job = if s.curr.map (·.job) = some job then 0 else 1
  calls : s.calls.countP (·.callback = .jobFinish) = s.finished.length
  watched : ∀ current, s.curr = some current → current.job ∈ s.triggered →
    s.watchdogPending = true ∨ s.watchdogRunning = true

/-- An interrupt that takes a pending watchdog away is one the engine of the current job raised:
its status is not `NONE`, and the handler read the context of that job on entry. -/
def OwnInterrupt (s : State) : Event → Prop
  | .irqHandle status =>
      s.watchdogPending = true → status ≠ .none ∧ s.irq = some (s.curr.map (·.ctx))
  | _ => True

instance (s : State) (event : Event) : Decidable (OwnInterrupt s event) :=
  match event with
  | .irqHandle _ => by dsimp only [OwnInterrupt]; infer_instance
  | .queueJob _ | .deviceRun _ | .jobPrepare _ _ | .formatConfigure _ _ | .jobConfigure _ _ | .activeUpdate _
  | .scheduleWatchdog _ | .jobTrigger _ | .irqEnter | .watchdogExpire | .watchdogRun | .activeClear _
  | .ctrlsCleanup _ | .m2mCtxRelease _ | .freeContext _ => instDecidableTrue

/-- What every interleaving keeps: a run that has not scheduled its watchdog owns the engine, the
watchdog is pending or running only for a current job, and the jobs started are the finished ones
and the current one. -/
structure Sequential (s : State) : Prop where
  early : ∀ job run, s.runs job = some run → run.phase ≠ .scheduled →
    s.curr = some ⟨job, run.ctx⟩ ∧ s.watchdogPending = false ∧ s.watchdogRunning = false
  started : ∀ job run, s.runs job = some run → job < s.started
  current : ∀ current, s.curr = some current → current.job < s.started
  pending : s.watchdogPending = true → s.curr ≠ none ∧ s.watchdogRunning = false
  running : s.watchdogRunning = true → s.curr ≠ none
  nodup : s.finished.Nodup
  finished : ∀ job, job ∈ s.finished ↔ job < s.started ∧ s.curr.map (·.job) ≠ some job
  triggered : ∀ job ∈ s.triggered, job < s.started ∧ s.runs job = none

namespace Sequential

variable {s : State} {job : ℕ} {run : JobRun}

theorem initial : Sequential .initial where
  early := nofun
  started := nofun
  current := nofun
  pending := nofun
  running := nofun
  nodup := .nil
  finished job := by simp [State.initial]
  triggered := nofun

/-- A step that touches none of the fields involved keeps the invariant. -/
theorem frame {next : State} (valid : Sequential s) (curr : next.curr = s.curr := by rfl)
    (started : next.started = s.started := by rfl) (runs : next.runs = s.runs := by rfl)
    (pending : next.watchdogPending = s.watchdogPending := by rfl)
    (running : next.watchdogRunning = s.watchdogRunning := by rfl)
    (finished : next.finished = s.finished := by rfl)
    (triggered : next.triggered = s.triggered := by rfl) : Sequential next := by
  obtain ⟨early, runStarted, current, watchPending, watchRunning, nodup, done, late⟩ := valid
  refine ⟨?_, ?_, ?_, ?_, ?_, ?_, ?_, ?_⟩ <;>
    simp only [curr, started, runs, pending, running, finished, triggered] <;> assumption

theorem idle_unwatched (valid : Sequential s) (idle : s.curr = none) :
    s.watchdogPending = false ∧ s.watchdogRunning = false := by
  refine ⟨?_, ?_⟩
  · by_contra pending
    exact (valid.pending (by simpa using pending)).1 idle
  · by_contra running
    exact valid.running (by simpa using running) idle

theorem deviceRun {next : State} {ctx : ℕ} (valid : Sequential s)
    (taken : s.deviceRun ctx = some next) : Sequential next := by
  simp only [State.deviceRun] at taken
  split at taken
  case isFalse => cases taken
  case isTrue ready =>
    obtain ⟨idle, -, -⟩ := ready
    obtain ⟨notPending, notRunning⟩ := valid.idle_unwatched idle
    obtain rfl := Option.some.inj taken
    refine ⟨?_, ?_, ?_, ?_, ?_, valid.nodup, ?_, ?_⟩
    · intro job run member early
      obtain ⟨rfl, new⟩ | ⟨-, member⟩ := update_eq_some member
      · obtain rfl := Option.some.inj new
        exact ⟨rfl, notPending, notRunning⟩
      · have := (valid.early job run member early).1
        simp [idle] at this
    · intro job run member
      obtain ⟨rfl, -⟩ | ⟨-, member⟩ := update_eq_some member
      · exact Nat.lt_succ_self _
      · exact Nat.lt_succ_of_lt (valid.started job run member)
    · rintro current ⟨⟩
      exact Nat.lt_succ_self _
    · simp [notPending]
    · simp [notRunning]
    · intro job
      have := valid.finished job
      simp only [idle, Option.map_none, ne_eq, reduceCtorEq, not_false_eq_true, and_true] at this
      simp only [this, Option.map_some, ne_eq, Option.some.injEq]
      omega
    · intro job member
      obtain ⟨below, ended⟩ := valid.triggered job member
      refine ⟨Nat.lt_succ_of_lt below, ?_⟩
      simp only [Function.update_of_ne (Nat.ne_of_lt below), ended]

/-- The current job is finished while no run of it is in an early phase and no watchdog is left. -/
theorem jobFinish {ctx : ℕ} (valid : Sequential s)
    (late : ∀ job run, s.runs job = some run → run.phase = .scheduled)
    (notPending : s.watchdogPending = false) (notRunning : s.watchdogRunning = false) :
    Sequential (s.jobFinish ctx) := by
  obtain ⟨job, current, ended⟩ | ⟨-, ended⟩ := s.jobFinish_cases ctx
  · rw [ended]
    have fresh : job ∉ s.finished := by simp [valid.finished, current]
    refine ⟨fun job run member early => absurd (late job run member) early, valid.started, nofun,
      ?_, ?_, List.nodup_cons.mpr ⟨fresh, valid.nodup⟩, ?_, valid.triggered⟩
    · intro pending
      simp [State.call, notPending] at pending
    · intro running
      simp [State.call, notRunning] at running
    · intro other
      have below := valid.current _ current
      have := valid.finished other
      simp only [current, Option.map_some, ne_eq, Option.some.injEq] at this
      simp only [List.mem_cons, this, State.call, Option.map_none, ne_eq, reduceCtorEq,
        not_false_eq_true, and_true]
      constructor
      · rintro (rfl | ⟨below, -⟩)
        · exact below
        · exact below
      · intro started
        by_cases same : other = job
        · exact .inl same
        · exact .inr ⟨started, fun equal => same equal.symm⟩
  · rw [ended]
    exact valid.frame

/-- Only one run can be in an early phase, the one of the current job. -/
theorem early_unique (valid : Sequential s) (member : s.runs job = some run)
    (early : run.phase ≠ .scheduled) {other : ℕ} {more : JobRun} (different : other ≠ job)
    (found : s.runs other = some more) : more.phase = .scheduled := by
  by_contra late
  have mine := (valid.early job run member early).1
  have theirs := (valid.early other more found late).1
  simp only [mine, Option.some.injEq, Current.mk.injEq] at theirs
  exact different theirs.1.symm

theorem endRun (valid : Sequential s) (job : ℕ) : Sequential (s.endRun job) where
  early other run member := by
    obtain ⟨-, impossible⟩ | ⟨-, member⟩ := update_eq_some member
    · cases impossible
    · exact valid.early other run member
  started other run member := by
    obtain ⟨-, impossible⟩ | ⟨-, member⟩ := update_eq_some member
    · cases impossible
    · exact valid.started other run member
  current := valid.current
  pending := valid.pending
  running := valid.running
  nodup := valid.nodup
  finished := valid.finished
  triggered other member := by
    refine ⟨(valid.triggered other member).1, ?_⟩
    by_cases same : other = job
    · simp [State.endRun, same]
    · simp [State.endRun, Function.update_of_ne same, (valid.triggered other member).2]

theorem setPhase (valid : Sequential s) (member : s.runs job = some run)
    (early : run.phase ≠ .scheduled) (phase : RunPhase) : Sequential (s.setPhase job run phase) where
  early other more found late := by
    obtain ⟨rfl, new⟩ | ⟨-, found⟩ := update_eq_some found
    · obtain rfl := Option.some.inj new
      exact valid.early _ run member early
    · exact valid.early other more found late
  started other more found := by
    obtain ⟨rfl, -⟩ | ⟨-, found⟩ := update_eq_some found
    · exact valid.started _ run member
    · exact valid.started other more found
  current := valid.current
  pending := valid.pending
  running := valid.running
  nodup := valid.nodup
  finished := valid.finished
  triggered other done := by
    obtain ⟨below, ended⟩ := valid.triggered other done
    refine ⟨below, ?_⟩
    have different : other ≠ job := by
      rintro rfl
      simp [member] at ended
    simp [State.setPhase, Function.update_of_ne different, ended]

theorem call (valid : Sequential s) (callback : Callback) (ctx : ℕ) : Sequential (s.call callback ctx) :=
  valid.frame

theorem stage (valid : Sequential s) (member : s.runs job = some run) (early : run.phase ≠ .scheduled)
    (phase : RunPhase) (ok : Bool) : Sequential (s.stage job run phase ok) := by
  cases ok with
  | true => exact valid.setPhase member early phase
  | false =>
    obtain ⟨-, notPending, notRunning⟩ := valid.early job run member early
    change Sequential ((s.jobFinish run.ctx).endRun job)
    rw [State.jobFinish_endRun]
    refine (valid.endRun job).jobFinish (fun other more found => ?_) notPending notRunning
    obtain ⟨-, impossible⟩ | ⟨different, found⟩ := update_eq_some found
    · cases impossible
    · exact valid.early_unique member early different found

theorem scheduleWatchdog (valid : Sequential s) (member : s.runs job = some run)
    (early : run.phase ≠ .scheduled) : Sequential (s.scheduleWatchdog job run) := by
  obtain ⟨current, -, notRunning⟩ := valid.early job run member early
  have staged := valid.setPhase member early .scheduled
  refine ⟨?_, staged.started, staged.current, fun _ => ⟨?_, notRunning⟩,
    staged.running, staged.nodup, staged.finished, staged.triggered⟩
  · intro other more found late
    obtain ⟨-, new⟩ | ⟨different, found⟩ := update_eq_some found
    · obtain rfl := Option.some.inj new
      exact absurd rfl late
    · exact absurd (valid.early_unique member early different found) late
  · change s.curr ≠ none
    simp [current]

/-- While the watchdog is pending or running, every run has passed `schedule_delayed_work`. -/
theorem watched_late (valid : Sequential s)
    (watched : s.watchdogPending = true ∨ s.watchdogRunning = true) (job : ℕ) (run : JobRun)
    (member : s.runs job = some run) : run.phase = .scheduled := by
  by_contra early
  obtain ⟨-, notPending, notRunning⟩ := valid.early job run member early
  simp [notPending, notRunning] at watched

theorem irqHandle (valid : Sequential s) (seen : Option ℕ) (status : IrqStatus) :
    Sequential (s.irqHandle seen status) := by
  simp only [State.irqHandle]
  split
  case isFalse => exact valid.frame
  case isTrue pending =>
    obtain ⟨-, notRunning⟩ := valid.pending pending
    have late := valid.watched_late (.inl pending)
    have cancelled : Sequential { s with irq := none, watchdogPending := false } :=
      ⟨fun job run member early => absurd (late job run member) early, valid.started, valid.current,
        nofun, valid.running, valid.nodup, valid.finished, valid.triggered⟩
    cases seen with
    | none => exact cancelled
    | some ctx =>
      cases status with
      | none => exact cancelled
      | error => exact cancelled.jobFinish late rfl notRunning
      | success => exact cancelled.jobFinish late rfl notRunning

theorem watchdogRun (valid : Sequential s) (running : s.watchdogRunning = true) :
    Sequential s.watchdogRun := by
  have late := valid.watched_late (.inr running)
  have notPending : s.watchdogPending = false := by
    by_contra pending
    have := (valid.pending (by simpa using pending)).2
    simp [running] at this
  have left : Sequential { s with watchdogRunning := false } := { valid with
    early := fun job run member early => absurd (late job run member) early
    pending := fun pending => ⟨(valid.pending pending).1, rfl⟩
    running := nofun }
  simp only [State.watchdogRun]
  split
  · exact left.jobFinish late notPending rfl
  · exact left

theorem scheduled (valid : Sequential s) (member : s.runs job = some run) :
    Sequential { s.endRun job with triggered := job :: s.triggered } := by
  have ended := valid.endRun job
  refine { ended with triggered := ?_ }
  intro other done
  rcases List.mem_cons.mp done with rfl | done
  · exact ⟨valid.started _ run member, Function.update_self ..⟩
  · exact ended.triggered other done

theorem step {role : ℕ → Role} {event : Event} {next : State} (valid : Sequential s)
    (taken : Device.step role s event = some next) : Sequential next := by
  cases event with
  | deviceRun ctx => exact valid.deviceRun taken
  | jobPrepare job ok =>
    obtain ⟨run, member, rfl⟩ := Option.map_eq_some_iff.mp taken
    obtain ⟨member, phase⟩ := State.runAt_eq_some.mp member
    exact (valid.call .jobPrepare run.ctx).stage member (by simp [phase]) _ ok
  | formatConfigure job ok =>
    obtain ⟨run, member, rfl⟩ := Option.map_eq_some_iff.mp taken
    obtain ⟨member, phase⟩ := State.runAt_eq_some.mp member
    exact valid.stage member (by simp [phase]) _ ok
  | jobConfigure job ok =>
    obtain ⟨run, member, rfl⟩ := Option.map_eq_some_iff.mp taken
    obtain ⟨member, phase⟩ := State.runAt_eq_some.mp member
    exact (valid.call .jobConfigure run.ctx).stage member (by simp [phase]) _ ok
  | activeUpdate job =>
    obtain ⟨run, member, rfl⟩ := Option.map_eq_some_iff.mp taken
    obtain ⟨member, phase⟩ := State.runAt_eq_some.mp member
    exact (valid.setPhase member (by simp [phase]) .activated).frame
  | scheduleWatchdog job =>
    obtain ⟨run, member, rfl⟩ := Option.map_eq_some_iff.mp taken
    obtain ⟨member, phase⟩ := State.runAt_eq_some.mp member
    exact valid.scheduleWatchdog member (by simp [phase])
  | jobTrigger job =>
    obtain ⟨run, member, rfl⟩ := Option.map_eq_some_iff.mp taken
    exact valid.scheduled (State.runAt_eq_some.mp member).1
  | irqHandle status =>
    obtain ⟨seen, -, rfl⟩ := Option.map_eq_some_iff.mp taken
    exact valid.irqHandle seen status
  | watchdogExpire =>
    obtain ⟨⟨pending, notRunning⟩, taken⟩ := Option.ite_none_right_eq_some.mp taken
    obtain rfl := Option.some.inj taken
    have late := valid.watched_late (.inl pending)
    exact ⟨fun job run member early => absurd (late job run member) early, valid.started, valid.current,
      nofun, fun _ => (valid.pending pending).1, valid.nodup, valid.finished, valid.triggered⟩
  | watchdogRun =>
    obtain ⟨running, taken⟩ := Option.ite_none_right_eq_some.mp taken
    obtain rfl := Option.some.inj taken
    exact valid.watchdogRun running
  | queueJob ctx | irqEnter | activeClear ctx | ctrlsCleanup ctx | m2mCtxRelease ctx | freeContext ctx =>
    obtain ⟨-, taken⟩ := Option.ite_none_right_eq_some.mp taken
    obtain rfl := Option.some.inj taken
    exact valid.frame

end Sequential

/-- What the interrupts of the current job keep: once the current job has scheduled its watchdog
it stays under it, and no call of `cedrus_context_job_finish` goes astray. -/
structure Watched (s : State) : Prop where
  late : ∀ current, s.curr = some current →
    (∀ run, s.runs current.job = some run → run.phase = .scheduled) →
      s.watchdogPending = true ∨ s.watchdogRunning = true
  calls : s.calls.countP (·.callback = .jobFinish) = s.finished.length

namespace Watched

variable {s : State} {job : ℕ} {run : JobRun}

theorem initial : Watched .initial := ⟨nofun, rfl⟩

theorem frame {next : State} (valid : Watched s) (curr : next.curr = s.curr := by rfl)
    (runs : next.runs = s.runs := by rfl)
    (pending : next.watchdogPending = s.watchdogPending := by rfl)
    (running : next.watchdogRunning = s.watchdogRunning := by rfl)
    (calls : next.calls = s.calls := by rfl) (finished : next.finished = s.finished := by rfl) :
    Watched next := by
  obtain ⟨late, counted⟩ := valid
  refine ⟨?_, ?_⟩ <;> simp only [curr, runs, pending, running, calls, finished] <;> assumption

/-- Finishing the current job leaves nothing to watch. -/
theorem jobFinish {ctx : ℕ} (calls : s.calls.countP (·.callback = .jobFinish) = s.finished.length)
    (current : s.curr = some ⟨job, ctx⟩) : Watched (s.jobFinish ctx) := by
  rw [State.jobFinish_current current]
  refine ⟨nofun, ?_⟩
  simp [State.call, calls]

theorem setPhase (valid : Watched s) (current : s.curr = some ⟨job, run.ctx⟩) (phase : RunPhase)
    (early : phase ≠ .scheduled) : Watched (s.setPhase job run phase) := by
  refine ⟨fun owner same late => absurd (late { run with phase } ?_) early, valid.calls⟩
  · obtain rfl := Option.some.inj (same.symm.trans current)
    exact Function.update_self ..

theorem call (valid : Watched s) {callback : Callback} (other : callback ≠ .jobFinish) (ctx : ℕ) :
    Watched (s.call callback ctx) :=
  ⟨valid.late, by simpa [State.call, other] using valid.calls⟩

theorem stage (valid : Watched s) (current : s.curr = some ⟨job, run.ctx⟩) (phase : RunPhase)
    (early : phase ≠ .scheduled) (ok : Bool) : Watched (s.stage job run phase ok) := by
  cases ok with
  | true => exact valid.setPhase current phase early
  | false =>
    change Watched ((s.jobFinish run.ctx).endRun job)
    rw [State.jobFinish_endRun]
    exact jobFinish valid.calls current

theorem endRun (valid : Watched s) (member : s.runs job = some run) (late : run.phase = .scheduled) :
    Watched (s.endRun job) := by
  refine ⟨fun owner current ended => valid.late owner current fun more found => ?_, valid.calls⟩
  by_cases same : owner.job = job
  · obtain rfl := Option.some.inj ((same ▸ found).symm.trans member)
    exact late
  · exact ended more ((Function.update_of_ne same ..).trans found)

theorem step {role : ℕ → Role} {event : Event} {next : State} (sequential : Sequential s)
    (valid : Watched s) (own : OwnInterrupt s event)
    (taken : Device.step role s event = some next) : Watched next := by
  cases event with
  | deviceRun ctx =>
    obtain ⟨-, taken⟩ := Option.ite_none_right_eq_some.mp taken
    obtain rfl := Option.some.inj taken
    refine ⟨fun owner current late => ?_, valid.calls⟩
    obtain rfl := Option.some.inj current
    cases late _ (Function.update_self ..)
  | jobPrepare job ok =>
    obtain ⟨run, member, rfl⟩ := Option.map_eq_some_iff.mp taken
    obtain ⟨member, phase⟩ := State.runAt_eq_some.mp member
    have current := (sequential.early job run member (by simp [phase])).1
    exact (valid.call (by decide) run.ctx).stage current _ (by decide) ok
  | formatConfigure job ok =>
    obtain ⟨run, member, rfl⟩ := Option.map_eq_some_iff.mp taken
    obtain ⟨member, phase⟩ := State.runAt_eq_some.mp member
    exact valid.stage (sequential.early job run member (by simp [phase])).1 _ (by decide) ok
  | jobConfigure job ok =>
    obtain ⟨run, member, rfl⟩ := Option.map_eq_some_iff.mp taken
    obtain ⟨member, phase⟩ := State.runAt_eq_some.mp member
    have current := (sequential.early job run member (by simp [phase])).1
    exact (valid.call (by decide) run.ctx).stage current _ (by decide) ok
  | activeUpdate job =>
    obtain ⟨run, member, rfl⟩ := Option.map_eq_some_iff.mp taken
    obtain ⟨member, phase⟩ := State.runAt_eq_some.mp member
    have current := (sequential.early job run member (by simp [phase])).1
    exact (valid.setPhase current .activated (by decide)).frame
  | scheduleWatchdog job =>
    obtain ⟨run, -, rfl⟩ := Option.map_eq_some_iff.mp taken
    exact ⟨fun _ _ _ => .inl rfl, valid.calls⟩
  | jobTrigger job =>
    obtain ⟨run, member, rfl⟩ := Option.map_eq_some_iff.mp taken
    obtain ⟨member, phase⟩ := State.runAt_eq_some.mp member
    exact (valid.endRun member phase).frame
  | irqHandle status =>
    obtain ⟨seen, entered, rfl⟩ := Option.map_eq_some_iff.mp taken
    simp only [State.irqHandle]
    split
    case isFalse => exact valid.frame
    case isTrue pending =>
      obtain ⟨real, mine⟩ := own pending
      obtain ⟨⟨job, ctx⟩, current⟩ := Option.ne_none_iff_exists'.mp (sequential.pending pending).1
      obtain rfl : seen = some ctx := by simpa [entered, current] using mine
      cases status with
      | none => exact absurd rfl real
      | error => exact jobFinish valid.calls current
      | success => exact jobFinish valid.calls current
  | watchdogExpire =>
    obtain ⟨-, taken⟩ := Option.ite_none_right_eq_some.mp taken
    obtain rfl := Option.some.inj taken
    exact ⟨fun _ _ _ => .inr rfl, valid.calls⟩
  | watchdogRun =>
    obtain ⟨running, taken⟩ := Option.ite_none_right_eq_some.mp taken
    obtain rfl := Option.some.inj taken
    simp only [State.watchdogRun]
    split
    case h_1 current same => exact jobFinish valid.calls same
    case h_2 idle => exact absurd idle (sequential.running running)
  | queueJob ctx | irqEnter | activeClear ctx | ctrlsCleanup ctx | m2mCtxRelease ctx | freeContext ctx =>
    obtain ⟨-, taken⟩ := Option.ite_none_right_eq_some.mp taken
    obtain rfl := Option.some.inj taken
    exact valid.frame

end Watched

theorem Sequential.served {s : State} (sequential : Sequential s) (watched : Watched s) : JobsServed s where
  once job member := by
    obtain ⟨below, -⟩ := sequential.triggered job member
    split
    case isTrue current =>
      apply List.count_eq_zero.mpr
      intro done
      exact ((sequential.finished job).mp done).2 current
    case isFalse gone =>
      exact List.count_eq_one_of_mem sequential.nodup ((sequential.finished job).mpr ⟨below, gone⟩)
  calls := watched.calls
  watched current same member := by
    obtain ⟨-, ended⟩ := sequential.triggered _ member
    exact watched.late current same fun run found => by simp [ended] at found

/-- The watchdog, left to itself, finishes the job it watches. -/
theorem watchdog_finishes (role : ℕ → Role) {s : State} {current : Current} (same : s.curr = some current)
    (watched : s.watchdogPending = true ∨ s.watchdogRunning = true) :
    ∃ events next, (∀ event ∈ events, event = .watchdogExpire ∨ event = .watchdogRun) ∧
      run (step role) s events = some next ∧ next.curr = none ∧
        next.finished = current.job :: s.finished := by
  have ran {t : State} (running : t.watchdogRunning = true) (owned : t.curr = some current) :
      ∃ next, step role t .watchdogRun = some next ∧ next.curr = none ∧
        next.finished = current.job :: t.finished := by
    refine ⟨_, if_pos running, ?_⟩
    simp [State.watchdogRun, owned, State.jobFinish, State.call]
  by_cases running : s.watchdogRunning = true
  · obtain ⟨next, taken, result⟩ := ran running same
    exact ⟨[.watchdogRun], next, by simp, by simp [run, taken], result⟩
  · have pending := watched.resolve_right running
    obtain ⟨next, taken, result⟩ :=
      ran (t := { s with watchdogPending := false, watchdogRunning := true }) rfl same
    refine ⟨[.watchdogExpire, .watchdogRun], next, by simp, ?_, result⟩
    rw [run_cons_iff]
    refine ⟨{ s with watchdogPending := false, watchdogRunning := true }, ?_, by simp [run, taken]⟩
    exact if_pos ⟨pending, running⟩

/-- In every interleaving whose interrupts take only their own job's watchdog away, each triggered
job is finished exactly once and is watched until then, so the watchdog can always finish it. -/
theorem jobs_served_of_own_interrupts (role : ℕ → Role) (events : List Event) (final : State)
    (own : Guarded (step role) OwnInterrupt .initial events)
    (reached : run (step role) .initial events = some final) :
    JobsServed final ∧
      ∀ current, final.curr = some current → current.job ∈ final.triggered →
        ∃ more next, (∀ event ∈ more, event = .watchdogExpire ∨ event = .watchdogRun) ∧
          run (step role) final more = some next ∧ next.finished = current.job :: final.finished := by
  have valid : Sequential final ∧ Watched final :=
    own.run_preserves (fun s => Sequential s ∧ Watched s)
      (fun before guard taken => ⟨before.1.step taken, before.2.step before.1 guard taken⟩)
      ⟨Sequential.initial, Watched.initial⟩ reached
  have served := valid.1.served valid.2
  refine ⟨served, ?_⟩
  intro current same member
  obtain ⟨more, next, only, taken, -, finished⟩ :=
    watchdog_finishes role same (served.watched current same member)
  exact ⟨more, next, only, taken, finished⟩

/-- Jobs of two files: the handler entered for the first one resumes when the watchdog of the
second one has expired. -/
def lateInterrupt : List Event :=
  [.queueJob 0, .queueJob 1, .deviceRun 0, .jobPrepare 0 true, .formatConfigure 0 true,
    .jobConfigure 0 true, .activeUpdate 0, .scheduleWatchdog 0, .jobTrigger 0, .irqEnter,
    .watchdogExpire, .watchdogRun, .deviceRun 1, .jobPrepare 1 true, .formatConfigure 1 true,
    .jobConfigure 1 true, .activeUpdate 1, .scheduleWatchdog 1, .jobTrigger 1, .watchdogExpire,
    .irqHandle .none]

theorem jobs_served_late_interrupt :
    ∃ final, run (step fun _ => .decoder) .initial lateInterrupt = some final ∧
      final.triggered = [1, 0] ∧ final.finished = [0] ∧ JobsServed final :=
  ⟨_, rfl, rfl, rfl,
    (jobs_served_of_own_interrupts (fun _ => .decoder) lateInterrupt _ (by decide) rfl).1⟩

/-- An interrupt with status `NONE` takes the watchdog of the triggered job away and returns. -/
theorem jobs_not_always_served :
    ¬ ∀ (role : ℕ → Role) (events : List Event) (final : State),
      run (step role) .initial events = some final → JobsServed final := by
  intro always
  have served := always (fun _ => .decoder)
    [.queueJob 0, .deviceRun 0, .jobPrepare 0 true, .formatConfigure 0 true, .jobConfigure 0 true,
      .activeUpdate 0, .scheduleWatchdog 0, .jobTrigger 0, .irqEnter, .irqHandle .none] _ rfl
  have watched := served.watched ⟨0, 0⟩ rfl (by decide)
  revert watched
  decide

end H618Vpu.Device
