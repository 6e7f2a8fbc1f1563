import H618Vpu.Machine.Run
import H618Vpu.Model.H264Enc

/-! # Values carried by the parameter sets

A value that slices rely on (profile and level, entropy mode, chroma offset, initial QP) is latched in
the context, sampled by a job and emitted with one parameter set. It stays in step with the emitted
one if two things hold: a write that changes it lowers `step` so that the set is due again, and the
emission raises `step` past the set only while the context still has what the job sampled, or while a
handler is about to lower it. The argument is made once for any such value; each value is then an instance.
-/

namespace H618Vpu.H264

/-- The SPS in force after a log. -/
def lastSps : List Item → Option Sps
  | [] => none
  | .sps sps :: _ => some sps
  | _ :: older => lastSps older

/-- The PPS in force after a log. -/
def lastPps : List Item → Option Pps
  | [] => none
  | .pps pps :: _ => some pps
  | _ :: older => lastPps older

/-- The job whose headers are still to be emitted. -/
def Phase.headerJob : Phase → Option Job
  | .prepared job | .headers job | .header job _ => some job
  | .idle | .sliced _ | .running _ => none

/-- A step of the context, once the handler of a write in progress has lowered it. -/
def State.settled (s : State) (step : Step) : Step :=
  match s.writing with
  | none => step
  | some (ctrl, _) => ctrl.lowers step

/-- What each event does to a state in which it is enabled. -/
inductive Taken (s : State) : Event → State → Prop where
  | writeCtrl (ctrl : Ctrl) (value : ℤ) (free : s.writing = none) :
      Taken s (.writeCtrl ctrl value) (s.writeCtrl ctrl value)
  | writeDone {ctrl : Ctrl} {new : ℤ} (written : s.writing = some (ctrl, new)) :
      Taken s .writeDone (s.writeDone ctrl new)
  | forceKeyFrame (free : s.writing = none) :
      Taken s .forceKeyFrame { s with context := s.context.map ({ · with forceKeyFrame := true }) }
  | setInput (input : Input) (free : s.writing = none) : Taken s (.setInput input) { s with input }
  | streamOn (width height : ℕ) (free : s.writing = none) (phase : s.phase = .idle) :
      Taken s (.streamOn width height) (s.setup width height)
  | streamOff (free : s.writing = none) (phase : s.phase = .idle) : Taken s .streamOff { s with context := none }
  | jobPrepare {ctx : Context} (free : s.writing = none) (phase : s.phase = .idle) (streaming : s.context = some ctx) :
      Taken s .jobPrepare { s with context := some ctx.jobPrepare.1, phase := .prepared ctx.jobPrepare.2 }
  | formatConfigured {job : Job} (phase : s.phase = .prepared job) :
      Taken s (.formatConfigure true) { s with phase := .headers job }
  | formatFailed {job : Job} (phase : s.phase = .prepared job) :
      Taken s (.formatConfigure false) { s with phase := .idle, log := .finish false :: s.log }
  | headerCase {ctx : Context} {job : Job} (phase : s.phase = .headers job) (streaming : s.context = some ctx) :
      Taken s .headerCase (s.headerCase ctx job)
  | headerStep {ctx : Context} {job : Job} {next : Step} (phase : s.phase = .header job next)
      (streaming : s.context = some ctx) :
      Taken s .headerStep { s with phase := .headers job, context := some { ctx with step := next } }
  | program {job : Job} (phase : s.phase = .sliced job) :
      Taken s .program { s with phase := .running job, log := .program (jobRegisters job) :: s.log }
  | jobFinish {job : Job} (done : Bool) (phase : s.phase = .running job) :
      Taken s (.jobFinish done) { s with phase := .idle, log := .finish done :: s.log }

theorem taken_of_step {s next : State} {event : Event} (step : step s event = some next) : Taken s event next := by
  cases event <;> simp only [H264.step] at step
  case formatConfigure ok =>
    split at step
    case h_1 job phase =>
      obtain rfl := Option.some.inj step
      cases ok with
      | true => exact .formatConfigured phase
      | false => exact .formatFailed phase
    case h_2 => cases step
  all_goals
    split at step
    case h_2 => cases step
    case h_1 =>
      obtain rfl := Option.some.inj step
      constructor <;> assumption

/-- The handler of a control latched a value: the step is not raised, and the entropy mode is changed by its
own handler or with the PPS made due. -/
structure Context.Latched (ctrl : Ctrl) (ctx next : Context) : Prop where
  qpInit : next.qpInit = ctx.qpInit
  step : next.step.rank ≤ ctx.step.rank
  latched : ∀ other, next.latched other = ctx.latched other ∨ other = ctrl ∨
    other = .entropyMode ∧ next.step.rank ≤ Step.pps.rank

namespace Step

theorem lower_le (step bound : Step) : (step.lower bound).rank ≤ step.rank := by
  simp only [lower]
  split <;> omega

theorem lower_bound (step bound : Step) : (step.lower bound).rank ≤ bound.rank := by
  simp only [lower]
  split <;> omega

theorem eq_sps {step : Step} (first : 0 < step.rank) (below : step.rank < pps.rank) : step = .sps := by
  cases step with
  | sps => rfl
  | _ => simp [rank] at first below

theorem eq_slice {step : Step} (last : pps.rank < step.rank) : step = .slice := by
  cases step with
  | slice => rfl
  | _ => simp [rank] at last

end Step

theorem Ctrl.lowers_le (ctrl : Ctrl) (step : Step) : (ctrl.lowers step).rank ≤ step.rank := by
  cases ctrl
  case profile | level => exact step.lower_le .sps
  case entropyMode => exact step.lower_le .pps
  all_goals exact le_rfl

/-- The parameter set of a lower step is due if it was due before. -/
theorem Ctrl.lowers_mono (ctrl : Ctrl) {step bound : Step} (due : step.rank ≤ bound.rank) :
    (ctrl.lowers step).rank ≤ bound.rank :=
  (ctrl.lowers_le step).trans due

theorem State.settled_le (s : State) (step : Step) : (s.settled step).rank ≤ step.rank := by
  simp only [State.settled]
  split
  · exact le_rfl
  · exact Ctrl.lowers_le ..

theorem State.settled_free {s : State} (free : s.writing = none) (step : Step) : s.settled step = step := by
  rw [State.settled, free]

@[simp] theorem Context.latch_latched (ctx : Context) (ctrl : Ctrl) (value : ℤ) :
    (ctx.latch ctrl value).latched = Function.update ctx.latched ctrl value := rfl

theorem Context.latch_spec (ctx : Context) (ctrl : Ctrl) (value : ℤ) : ctx.Latched ctrl (ctx.latch ctrl value) := by
  refine ⟨rfl, le_rfl, ?_⟩
  intro other
  by_cases same : other = ctrl
  · exact .inr (.inl same)
  · exact .inl (Function.update_of_ne same ..)

/-- The nested write of the entropy mode makes the PPS due itself. -/
theorem Context.Latched.entropy {ctrl : Ctrl} {ctx middle : Context} (latched : ctx.Latched ctrl middle) (value : ℤ) :
    ctx.Latched ctrl ((middle.latch .entropyMode value).lower .entropyMode) := by
  refine ⟨latched.qpInit, (Step.lower_le ..).trans latched.step, ?_⟩
  intro other
  have due : ((middle.latch .entropyMode value).lower .entropyMode).step.rank ≤ Step.pps.rank := Step.lower_bound ..
  by_cases entropy : other = .entropyMode
  · exact .inr (.inr ⟨entropy, due⟩)
  · have kept : ((middle.latch .entropyMode value).lower .entropyMode).latched other = middle.latched other :=
      Function.update_of_ne entropy ..
    rw [kept]
    rcases latched.latched other with same | own | ⟨nested, -⟩
    · exact .inl same
    · exact .inr (.inl own)
    · exact absurd nested entropy

/-- What a handler latches. -/
theorem State.ctrlLatch_spec (s : State) (ctrl : Ctrl) :
    (s.ctrlLatch ctrl).phase = s.phase ∧ (s.ctrlLatch ctrl).log = s.log ∧
      ∀ next, (s.ctrlLatch ctrl).context = some next → ∃ ctx, s.context = some ctx ∧ ctx.Latched ctrl next := by
  simp only [State.ctrlLatch]
  split
  case h_1 none =>
    refine ⟨rfl, rfl, ?_⟩
    intro next streaming
    rw [none] at streaming
    cases streaming
  case h_2 ctx streaming =>
    have latched := ctx.latch_spec ctrl (s.cur ctrl)
    dsimp only
    split
    · simp only [State.setEntropyModeCavlc]
      split
      · refine ⟨rfl, rfl, ?_⟩
        rintro next ⟨⟩
        exact ⟨ctx, streaming, latched⟩
      · refine ⟨rfl, rfl, ?_⟩
        rintro next ⟨⟩
        exact ⟨ctx, streaming, latched.entropy _⟩
    · refine ⟨rfl, rfl, ?_⟩
      rintro next ⟨⟩
      exact ⟨ctx, streaming, latched⟩

/-- A write calls no handler, or the control's. -/
theorem State.writeCtrl_spec (s : State) (ctrl : Ctrl) (value : ℤ) :
    s.writeCtrl ctrl value = s ∨ ∃ new, ctrl.validateNew value = some new ∧ new ≠ s.cur ctrl ∧
      s.writeCtrl ctrl value = { s.ctrlLatch ctrl with writing := some (ctrl, new) } := by
  simp only [State.writeCtrl]
  split
  · exact .inl rfl
  case h_2 new passed =>
    split
    · exact .inl rfl
    case isFalse called =>
      exact .inr ⟨new, passed, fun same => called (.inr same), rfl⟩

theorem State.writeCtrl_phase (s : State) (ctrl : Ctrl) (value : ℤ) : (s.writeCtrl ctrl value).phase = s.phase := by
  rcases s.writeCtrl_spec ctrl value with refused | ⟨new, -, -, called⟩
  · rw [refused]
  · rw [called]
    exact (s.ctrlLatch_spec ctrl).1

theorem State.writeCtrl_log (s : State) (ctrl : Ctrl) (value : ℤ) : (s.writeCtrl ctrl value).log = s.log := by
  rcases s.writeCtrl_spec ctrl value with refused | ⟨new, -, -, called⟩
  · rw [refused]
  · rw [called]
    exact (s.ctrlLatch_spec ctrl).2.1

/-- Of a file, the header loop changes the phase and the log. -/
theorem State.headerCase_frame (s : State) (ctx : Context) (job : Job) :
    (s.headerCase ctx job).cur = s.cur ∧ (s.headerCase ctx job).writing = s.writing ∧
      (s.headerCase ctx job).context = s.context := by
  simp only [State.headerCase]
  cases ctx.step <;> exact ⟨rfl, rfl, rfl⟩

/-- `job_prepare` leaves the step, or makes the SPS due. -/
theorem Context.jobPrepare_step (ctx : Context) :
    ctx.jobPrepare.1.step = .sps ∨ ctx.jobPrepare.1.step = ctx.step := by
  simp only [Context.jobPrepare]
  generalize (if ctx.forceKeyFrame = true then FrameType.idr else ctx.gopFrameType) = frameType
  split
  · exact .inl rfl
  · exact .inr rfl

/-- A handler does not raise the step. -/
theorem State.ctrlPrepare_spec (s : State) (ctrl : Ctrl) :
    (s.ctrlPrepare ctrl).phase = s.phase ∧ (s.ctrlPrepare ctrl).log = s.log ∧
      ∀ next, (s.ctrlPrepare ctrl).context = some next →
        ∃ ctx, s.context = some ctx ∧ next.step.rank ≤ ctx.step.rank := by
  obtain ⟨phase, log, latched⟩ := s.ctrlLatch_spec ctrl
  refine ⟨phase, log, ?_⟩
  intro next streaming
  obtain ⟨middle, called, rfl⟩ := Option.map_eq_some_iff.mp streaming
  obtain ⟨ctx, before, latched⟩ := latched middle called
  exact ⟨ctx, before, (ctrl.lowers_le middle.step).trans latched.step⟩

/-- Nor does a sequence of handlers. -/
theorem State.handlers_spec (ctrls : List Ctrl) (s : State) :
    (ctrls.foldl State.ctrlPrepare s).phase = s.phase ∧ (ctrls.foldl State.ctrlPrepare s).log = s.log ∧
      ∀ next, (ctrls.foldl State.ctrlPrepare s).context = some next →
        ∃ ctx, s.context = some ctx ∧ next.step.rank ≤ ctx.step.rank := by
  induction ctrls generalizing s with
  | nil => exact ⟨rfl, rfl, fun next streaming => ⟨next, streaming, le_rfl⟩⟩
  | cons ctrl ctrls ih =>
    obtain ⟨phase, log, lower⟩ := s.ctrlPrepare_spec ctrl
    obtain ⟨phases, logs, lowers⟩ := ih (s.ctrlPrepare ctrl)
    refine ⟨phases.trans phase, logs.trans log, ?_⟩
    intro next streaming
    obtain ⟨middle, called, le⟩ := lowers next streaming
    obtain ⟨ctx, before, low⟩ := lower middle called
    exact ⟨ctx, before, le.trans low⟩

/-- A stream starts with all parameter sets due. -/
theorem State.setup_spec (s : State) (width height : ℕ) :
    (s.setup width height).phase = s.phase ∧ (s.setup width height).log = s.log ∧
      ∀ ctx, (s.setup width height).context = some ctx → ctx.step.rank = 0 := by
  let ctx : Context := { widthMbs := Math.divRoundUp width 16, heightMbs := Math.divRoundUp height 16 }
  have handlers : s.setup width height = Ctrl.byId.foldl State.ctrlPrepare { s with context := some ctx } := rfl
  obtain ⟨phase, log, lower⟩ := State.handlers_spec Ctrl.byId { s with context := some ctx }
  rw [handlers]
  refine ⟨phase, log, ?_⟩
  intro next streaming
  obtain ⟨start, same, low⟩ := lower next streaming
  obtain rfl := Option.some.inj same
  exact Nat.le_zero.mp low

/-- A value that is latched in the context, sampled by a job and emitted with a parameter set. -/
structure Tracked (α : Type) where
  /-- the step at which the parameter set is emitted -/
  due : Step
  view : Context → α
  sampled : Context → Job → α
  ofSlice : SliceHeader → Job → α
  emitted : List Item → Option α
  due_pos : 0 < due.rank
  due_last : due.rank ≤ Step.pps.rank
  view_congr : ∀ {ctx next : Context}, next.latched = ctx.latched → next.qpInit = ctx.qpInit →
    view next = view ctx
  sampled_congr : ∀ {ctx next : Context} (job : Job), next.qpInit = ctx.qpInit → sampled next job = sampled ctx job
  ofSlice_header : ∀ ctx job, ofSlice (jobConfigureSliceHeader ctx job) job = sampled ctx job
  view_prepare : ∀ ctx : Context, due.rank < ctx.jobPrepare.1.step.rank → view ctx.jobPrepare.1 = view ctx
  sampled_prepare : ∀ ctx : Context, sampled ctx.jobPrepare.1 ctx.jobPrepare.2 = view ctx.jobPrepare.1
  emitted_sps : ∀ ctx input job log, emitted (.sps (jobConfigureSps ctx input job) :: log) =
    if due = .sps then some (sampled ctx job) else emitted log
  emitted_pps : ∀ ctx job log, emitted (.pps (jobConfigurePps ctx job) :: log) =
    if due = .sps then emitted log else some (sampled ctx job)
  emitted_slice : ∀ header job log, emitted (.slice header job :: log) = emitted log
  emitted_program : ∀ registers log, emitted (.program registers :: log) = emitted log
  emitted_finish : ∀ done log, emitted (.finish done :: log) = emitted log

namespace Tracked

variable {α : Type} (t : Tracked α)

/-- Every slice agrees with the parameter set in force when it was emitted. -/
def Covered : List Item → Prop
  | [] => True
  | .slice header job :: older => t.emitted older = some (t.ofSlice header job) ∧ Covered older
  | _ :: older => Covered older

/-- A write that changes the value makes the parameter set due; the emission raises `step` past the set, and
no handler is about to lower it again, only while the context has what the job sampled. -/
def Kept (s : State) : Event → Prop
  | .writeCtrl ctrl value => ∀ ctx next, s.context = some ctx → (s.writeCtrl ctrl value).context = some next →
      t.view next = t.view ctx ∨ ((s.writeCtrl ctrl value).settled next.step).rank ≤ t.due.rank
  | .headerStep => ∀ ctx job next, s.context = some ctx → s.phase = .header job next →
      t.due.rank < (s.settled next).rank → t.sampled ctx job = t.view ctx
  | _ => True

/-- While the set is not due and will not be made due by a write in progress, the emitted value is the one
of the context; while it is not due, it is the one of a job in its headers. -/
structure Held (s : State) : Prop where
  published : ∀ ctx, s.context = some ctx → t.due.rank < (s.settled ctx.step).rank →
    t.emitted s.log = some (t.view ctx)
  carried : ∀ ctx job, s.context = some ctx → s.phase.headerJob = some job → t.due.rank < ctx.step.rank →
    t.emitted s.log = some (t.sampled ctx job)
  pending : ∀ ctx job next, s.context = some ctx → s.phase = .header job next → t.due.rank < next.rank →
    t.emitted s.log = some (t.sampled ctx job)
  covered : t.Covered s.log

namespace Held

variable {t} {s next : State}

/-- Changes of the context that raise no step, and keep the value or make the set due. -/
theorem context (held : t.Held s) (phase : next.phase = s.phase) (log : next.log = s.log)
    (kept : ∀ after, next.context = some after → ∃ ctx, s.context = some ctx ∧ after.qpInit = ctx.qpInit ∧
      after.step.rank ≤ ctx.step.rank ∧ (next.settled after.step).rank ≤ (s.settled ctx.step).rank ∧
        (t.view after = t.view ctx ∨ (next.settled after.step).rank ≤ t.due.rank)) :
    t.Held next where
  published after streaming notDue := by
    obtain ⟨ctx, before, -, -, lower, same | due⟩ := kept after streaming
    · rw [log, same]
      exact held.published ctx before (by omega)
    · omega
  carried after job streaming current notDue := by
    obtain ⟨ctx, before, qpInit, lower, -⟩ := kept after streaming
    rw [phase] at current
    rw [log, t.sampled_congr job qpInit]
    exact held.carried ctx job before current (by omega)
  pending after job step streaming current := by
    obtain ⟨ctx, before, qpInit, -⟩ := kept after streaming
    rw [phase] at current
    rw [log, t.sampled_congr job qpInit]
    exact held.pending ctx job step before current
  covered := by
    rw [log]
    exact held.covered

/-- Without a job in its headers only the context and the log matter. -/
theorem settle (held : t.Held s) (context : next.context = s.context) (writing : next.writing = s.writing)
    (emitted : t.emitted next.log = t.emitted s.log) (covered : t.Covered next.log)
    (done : next.phase.headerJob = none) : t.Held next where
  published ctx streaming := by
    rw [context] at streaming
    rw [emitted, State.settled, writing]
    exact held.published ctx streaming
  carried ctx job streaming current := by
    rw [done] at current
    cases current
  pending ctx job step streaming current := by
    rw [current] at done
    cases done
  covered := covered

theorem jobPrepare (held : t.Held s) {ctx : Context} (free : s.writing = none) (streaming : s.context = some ctx) :
    t.Held { s with context := some ctx.jobPrepare.1, phase := .prepared ctx.jobPrepare.2 } := by
  have published : t.due.rank < ctx.jobPrepare.1.step.rank → t.emitted s.log = some (t.view ctx.jobPrepare.1) := by
    intro notDue
    have pos := t.due_pos
    rw [t.view_prepare ctx notDue]
    apply held.published ctx streaming
    rw [State.settled_free free]
    rcases ctx.jobPrepare_step with sps | same
    · rw [sps] at notDue
      change t.due.rank < 1 at notDue
      omega
    · rwa [same] at notDue
  constructor
  · rintro after ⟨⟩ notDue
    exact published (notDue.trans_le (State.settled_le ..))
  · rintro after job ⟨⟩ ⟨⟩ notDue
    rw [t.sampled_prepare]
    exact published notDue
  · rintro after job step - ⟨⟩
  · exact held.covered

theorem headerCase (held : t.Held s) {ctx : Context} {job : Job} (streaming : s.context = some ctx)
    (phase : s.phase = .headers job) : t.Held (s.headerCase ctx job) := by
  have pos := t.due_pos
  have carried := held.carried ctx job streaming (by rw [phase]; rfl)
  have published := held.published ctx streaming
  have settled := s.settled_le ctx.step
  simp only [State.headerCase]
  cases step : ctx.step with
  | start =>
    rw [step] at carried
    constructor
    · exact held.published
    · intro after started same current notDue
      obtain rfl := Option.some.inj (streaming.symm.trans same)
      obtain rfl := Option.some.inj current
      rw [step] at notDue
      exact carried notDue
    · rintro after started next same ⟨⟩ notDue
      change t.due.rank < 1 at notDue
      omega
    · exact held.covered
  | sps =>
    -- the SPS is due, so nothing is claimed of what was emitted before
    have due : ¬ t.due.rank < ctx.step.rank := by
      rw [step]
      change ¬ t.due.rank < 1
      omega
    constructor
    · intro after same notDue
      obtain rfl := Option.some.inj (streaming.symm.trans same)
      exact absurd (notDue.trans_le settled) due
    · intro after started same current notDue
      obtain rfl := Option.some.inj (streaming.symm.trans same)
      exact absurd notDue due
    · rintro after started next same ⟨⟩ notDue
      obtain rfl := Option.some.inj (streaming.symm.trans same)
      rw [t.emitted_sps, if_pos (Step.eq_sps pos notDue)]
    · exact held.covered
  | pps =>
    have emitted : t.emitted (.pps (jobConfigurePps ctx job) :: s.log) = some (t.sampled ctx job) := by
      rw [t.emitted_pps]
      split
      case isTrue sps =>
        apply carried
        rw [step, sps]
        decide
      case isFalse => rfl
    constructor
    · intro after same notDue
      obtain rfl := Option.some.inj (streaming.symm.trans same)
      have sps := Step.eq_sps pos (step ▸ notDue.trans_le settled)
      rw [t.emitted_pps, if_pos sps]
      exact published notDue
    · intro after started same current notDue
      obtain rfl := Option.some.inj (streaming.symm.trans same)
      obtain rfl := Option.some.inj current
      exact emitted
    · rintro after started next same ⟨⟩ notDue
      obtain rfl := Option.some.inj (streaming.symm.trans same)
      exact emitted
    · exact held.covered
  | slice =>
    have notDue : t.due.rank < ctx.step.rank := by
      rw [step]
      exact Nat.lt_of_le_of_lt t.due_last (by decide)
    constructor
    · intro after same
      rw [t.emitted_slice]
      exact held.published after same
    · rintro after started - ⟨⟩
    · rintro after started next - ⟨⟩
    · refine ⟨?_, held.covered⟩
      rw [t.ofSlice_header]
      exact carried notDue

theorem headerStep (held : t.Held s) {ctx : Context} {job : Job} {next : Step} (streaming : s.context = some ctx)
    (phase : s.phase = .header job next)
    (kept : t.due.rank < (s.settled next).rank → t.sampled ctx job = t.view ctx) :
    t.Held { s with phase := .headers job, context := some { ctx with step := next } } := by
  have pending := held.pending ctx job next streaming phase
  have view : t.view { ctx with step := next } = t.view ctx := t.view_congr rfl rfl
  constructor
  · rintro after ⟨⟩ notDue
    rw [view, ← kept notDue]
    exact pending (notDue.trans_le (State.settled_le ..))
  · rintro after started ⟨⟩ ⟨⟩ notDue
    have sampled : t.sampled { ctx with step := next } job = t.sampled ctx job := t.sampled_congr job rfl
    rw [sampled]
    exact pending notDue
  · rintro after started step - ⟨⟩
  · exact held.covered

theorem writeCtrl (held : t.Held s) {ctrl : Ctrl} {value : ℤ} (free : s.writing = none)
    (kept : t.Kept s (.writeCtrl ctrl value)) : t.Held (s.writeCtrl ctrl value) := by
  apply held.context (s.writeCtrl_phase ctrl value) (s.writeCtrl_log ctrl value)
  intro after streaming
  rcases s.writeCtrl_spec ctrl value with refused | ⟨new, -, -, called⟩
  · rw [refused] at streaming ⊢
    exact ⟨after, streaming, rfl, le_rfl, le_rfl, .inl rfl⟩
  · have reached := streaming
    rw [called] at reached
    obtain ⟨ctx, before, latched⟩ := (s.ctrlLatch_spec ctrl).2.2 after reached
    refine ⟨ctx, before, latched.qpInit, latched.step, ?_, kept ctx after before streaming⟩
    rw [s.settled_free free]
    exact (State.settled_le ..).trans latched.step

theorem writeDone (held : t.Held s) {ctrl : Ctrl} {new : ℤ} (written : s.writing = some (ctrl, new)) :
    t.Held (s.writeDone ctrl new) := by
  refine held.context rfl rfl ?_
  intro after streaming
  obtain ⟨ctx, before, rfl⟩ := Option.map_eq_some_iff.mp streaming
  have settled : s.settled ctx.step = ctrl.lowers ctx.step := by rw [State.settled, written]
  refine ⟨ctx, before, rfl, ctrl.lowers_le ctx.step, ?_, .inl (t.view_congr rfl rfl)⟩
  rw [settled]
  exact le_rfl

theorem streamOn (held : t.Held s) (width height : ℕ) (phase : s.phase = .idle) :
    t.Held (s.setup width height) := by
  obtain ⟨same, log, start⟩ := s.setup_spec width height
  have idle : (s.setup width height).phase = .idle := same.trans phase
  constructor
  · intro ctx streaming notDue
    have low := State.settled_le (s.setup width height) ctx.step
    have := start ctx streaming
    omega
  · intro ctx job streaming current
    rw [idle] at current
    cases current
  · intro ctx job next streaming current
    rw [idle] at current
    cases current
  · rw [log]
    exact held.covered

/-- Every step keeps a tracked value, if writes and the emission do. -/
theorem step {event : Event} (held : t.Held s) (kept : t.Kept s event) (taken : H264.step s event = some next) :
    t.Held next := by
  have unchanged : ∀ after, s.context = some after → ∃ ctx, s.context = some ctx ∧ after.qpInit = ctx.qpInit ∧
      after.step.rank ≤ ctx.step.rank ∧ (s.settled after.step).rank ≤ (s.settled ctx.step).rank ∧
        (t.view after = t.view ctx ∨ (s.settled after.step).rank ≤ t.due.rank) :=
    fun after streaming => ⟨after, streaming, rfl, le_rfl, le_rfl, .inl rfl⟩
  cases taken_of_step taken with
  | writeCtrl ctrl value free => exact held.writeCtrl free kept
  | writeDone written => exact held.writeDone written
  | forceKeyFrame =>
    refine held.context rfl rfl ?_
    intro after streaming
    obtain ⟨ctx, before, rfl⟩ := Option.map_eq_some_iff.mp streaming
    exact ⟨ctx, before, rfl, le_rfl, le_rfl, .inl (t.view_congr rfl rfl)⟩
  | setInput input => exact held.context rfl rfl unchanged
  | streamOn width height free phase => exact held.streamOn width height phase
  | streamOff =>
    refine held.context rfl rfl ?_
    intro after streaming
    cases streaming
  | jobPrepare free phase streaming => exact held.jobPrepare free streaming
  | @formatConfigured job phase =>
    constructor
    · exact held.published
    · rintro ctx started streaming ⟨⟩
      exact held.carried ctx job streaming (by rw [phase]; rfl)
    · rintro ctx started step - ⟨⟩
    · exact held.covered
  | formatFailed => exact held.settle rfl rfl (t.emitted_finish ..) held.covered rfl
  | headerCase phase streaming => exact held.headerCase streaming phase
  | headerStep phase streaming => exact held.headerStep streaming phase (kept _ _ _ streaming phase)
  | program => exact held.settle rfl rfl (t.emitted_program ..) held.covered rfl
  | jobFinish => exact held.settle rfl rfl (t.emitted_finish ..) held.covered rfl

/-- Nothing was emitted on a file that was just opened. -/
theorem initial : t.Held {} where
  published ctx streaming := by cases streaming
  carried ctx job streaming := by cases streaming
  pending ctx job step streaming := by cases streaming
  covered := trivial

end Held

end Tracked

/-- What a context has for the SPS: profile, constraint flags and level. -/
def Context.spsValues (ctx : Context) : ℕ × ℕ × ℕ :=
  (profileIdc (ctx.latched .profile), constraintSetFlags (ctx.latched .profile), levelIdc (ctx.latched .level))

def Job.spsValues (job : Job) : ℕ × ℕ × ℕ := (job.profileIdc, job.constraintSetFlags, job.levelIdc)

def Sps.values (sps : Sps) : ℕ × ℕ × ℕ := (sps.profileIdc, sps.constraintSetFlags, sps.levelIdc)

/-- The entropy mode as the PPS has it. -/
def Context.entropyFlag (ctx : Context) : ℕ := if ctx.latched .entropyMode = entropyModeCabac then 1 else 0

/-- The initial QP of a PPS. -/
def Pps.picInitQp (pps : Pps) : ℤ := 26 + pps.picInitQpMinus26

namespace Tracked

/-- Profile and level, in the SPS. -/
def spsValues : Tracked (ℕ × ℕ × ℕ) where
  due := .sps
  view := Context.spsValues
  sampled _ job := job.spsValues
  ofSlice _ job := job.spsValues
  emitted log := (lastSps log).map Sps.values
  due_pos := by decide
  due_last := by decide
  view_congr latched _ := by
    simp only [Context.spsValues]
    rw [latched]
  sampled_congr _ _ := rfl
  ofSlice_header _ _ := rfl
  view_prepare _ _ := rfl
  sampled_prepare _ := rfl
  emitted_sps _ _ _ _ := rfl
  emitted_pps _ _ _ := rfl
  emitted_slice _ _ _ := rfl
  emitted_program _ _ := rfl
  emitted_finish _ _ := rfl

/-- The entropy mode, in the PPS. -/
def entropyMode : Tracked ℕ where
  due := .pps
  view := Context.entropyFlag
  sampled _ job := job.entropyCodingModeFlag
  ofSlice _ job := job.entropyCodingModeFlag
  emitted log := (lastPps log).map Pps.entropyCodingModeFlag
  due_pos := by decide
  due_last := by decide
  view_congr latched _ := by
    simp only [Context.entropyFlag]
    rw [latched]
  sampled_congr _ _ := rfl
  ofSlice_header _ _ := rfl
  view_prepare _ _ := rfl
  sampled_prepare ctx := by simp [Context.jobPrepare, Context.entropyFlag]
  emitted_sps _ _ _ _ := rfl
  emitted_pps _ _ _ := rfl
  emitted_slice _ _ _ := rfl
  emitted_program _ _ := rfl
  emitted_finish _ _ := rfl

/-- The chroma offset, in the PPS. -/
def chromaQpIndexOffset : Tracked ℤ where
  due := .pps
  view ctx := ctx.latched .chromaQpIndexOffset
  sampled _ job := job.chromaQpIndexOffset
  ofSlice _ job := job.chromaQpIndexOffset
  emitted log := (lastPps log).map Pps.chromaQpIndexOffset
  due_pos := by decide
  due_last := by decide
  view_congr latched _ := by rw [latched]
  sampled_congr _ _ := rfl
  ofSlice_header _ _ := rfl
  view_prepare _ _ := rfl
  sampled_prepare _ := rfl
  emitted_sps _ _ _ _ := rfl
  emitted_pps _ _ _ := rfl
  emitted_slice _ _ _ := rfl
  emitted_program _ _ := rfl
  emitted_finish _ _ := rfl

/-- The initial QP, in the PPS. A slice is coded against the one of the context. -/
def qpInit : Tracked ℤ where
  due := .pps
  view := Context.qpInit
  sampled ctx _ := ctx.qpInit
  ofSlice header job := job.qp - header.sliceQpDelta
  emitted log := (lastPps log).map Pps.picInitQp
  due_pos := by decide
  due_last := by decide
  view_congr _ same := same
  sampled_congr _ same := same
  ofSlice_header ctx job := by
    simp only [jobConfigureSliceHeader]
    omega
  view_prepare ctx notDue := by
    refine if_neg ?_
    intro due
    exact absurd (Nat.lt_of_lt_of_le due (Nat.succ_le_of_lt notDue)) (lt_irrefl _)
  sampled_prepare _ := rfl
  emitted_sps _ _ _ _ := rfl
  emitted_pps ctx job log := by
    simp only [reduceCtorEq, ↓reduceIte, lastPps, Option.map_some, jobConfigurePps, Pps.picInitQp]
    congr 1
    omega
  emitted_slice _ _ _ := rfl
  emitted_program _ _ := rfl
  emitted_finish _ _ := rfl

/-- A write keeps a value if every handler does, or makes the set due. -/
theorem kept_of_latched {α : Type} {t : Tracked α} {ctrl : Ctrl} (s : State) (value : ℤ)
    (kept : ∀ {ctx next : Context}, ctx.Latched ctrl next →
      t.view next = t.view ctx ∨ (ctrl.lowers next.step).rank ≤ t.due.rank) : t.Kept s (.writeCtrl ctrl value) := by
  intro ctx next streaming written
  rcases s.writeCtrl_spec ctrl value with refused | ⟨new, -, -, called⟩
  · rw [refused] at written
    obtain rfl := Option.some.inj (streaming.symm.trans written)
    exact .inl rfl
  · rw [called] at written ⊢
    obtain ⟨before, same, latched⟩ := (s.ctrlLatch_spec ctrl).2.2 next written
    obtain rfl := Option.some.inj (streaming.symm.trans same)
    exact kept latched

/-- A write that changes profile or level makes the SPS due. -/
theorem spsValues_kept (s : State) (ctrl : Ctrl) (value : ℤ) : spsValues.Kept s (.writeCtrl ctrl value) := by
  apply kept_of_latched
  intro ctx next latched
  rcases latched.latched .profile with profile | rfl | ⟨other, -⟩
  · rcases latched.latched .level with level | rfl | ⟨other, -⟩
    · refine .inl ?_
      change Context.spsValues _ = Context.spsValues _
      rw [Context.spsValues, profile, level, Context.spsValues]
    · exact .inr (Step.lower_bound ..)
    · cases other
  · exact .inr (Step.lower_bound ..)
  · cases other

/-- A write that changes the entropy mode makes the PPS due. -/
theorem entropyMode_kept (s : State) (ctrl : Ctrl) (value : ℤ) : entropyMode.Kept s (.writeCtrl ctrl value) := by
  apply kept_of_latched
  intro ctx next latched
  rcases latched.latched .entropyMode with mode | rfl | ⟨-, due⟩
  · refine .inl ?_
    change Context.entropyFlag _ = Context.entropyFlag _
    rw [Context.entropyFlag, mode, Context.entropyFlag]
  · exact .inr (Step.lower_bound ..)
  · exact .inr (ctrl.lowers_mono due)

/-- No write changes the initial QP. -/
theorem qpInit_kept (s : State) (ctrl : Ctrl) (value : ℤ) : qpInit.Kept s (.writeCtrl ctrl value) := by
  apply kept_of_latched
  intro ctx next latched
  exact .inl latched.qpInit

end Tracked

/-- A write of a control that nothing comes in between. -/
def write (ctrl : Ctrl) (value : ℤ) : List Event := [.writeCtrl ctrl value, .writeDone]

/-- The headers of a first job, up to the case that emits its PPS. -/
def firstHeaders : List Event :=
  [.jobPrepare, .formatConfigure true, .headerCase, .headerStep, .headerCase, .headerStep, .headerCase]

/-- The rest of a job whose parameter sets were emitted. -/
def lastHeader : List Event := [.headerStep, .headerCase, .program, .jobFinish true]

/-- A job for which no parameter set is due. -/
def sliceOnly : List Event := [.jobPrepare, .formatConfigure true, .headerCase, .program, .jobFinish true]

end H618Vpu.H264
