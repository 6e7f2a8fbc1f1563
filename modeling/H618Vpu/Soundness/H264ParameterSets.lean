import H618Vpu.Soundness.H264Tracking

/-! # The registers of a slice and the PPS in force

With no control write during a job, a job has what the context has, so the entropy mode and the initial
QP are in step with the last PPS. The chroma offset is too, unless its handler, which does not lower
`step`, latches another offset while no PPS is due.
-/

namespace H618Vpu.H264

open Machine

/-- No control is written while a job runs. -/
def Sequential (s : State) : Event → Prop
  | .writeCtrl _ _ | .forceKeyFrame =>
      match s.phase with
      | .idle => True
      | _ => False
  | _ => True

/-- A write of the chroma offset that calls the handler with no PPS due latches the offset that is
latched already. -/
def ChromaKept (s : State) : Event → Prop
  | .writeCtrl .chromaQpIndexOffset value =>
      match s.context with
      | some ctx => ctx.step = .slice →
          Ctrl.validateNew .chromaQpIndexOffset value = some (s.cur .chromaQpIndexOffset) ∨
            s.cur .chromaQpIndexOffset = ctx.latched .chromaQpIndexOffset
      | none => True
  | _ => True

instance (s : State) (event : Event) : Decidable (Sequential s event) :=
  match event with
  | .writeCtrl _ _ | .forceKeyFrame => by
    dsimp only [Sequential]
    exact match s.phase with
      | .idle => instDecidableTrue
      | .prepared _ | .headers _ | .header _ _ | .sliced _ | .running _ => instDecidableFalse
  | .writeDone | .setInput _ | .streamOn _ _ | .streamOff | .jobPrepare | .formatConfigure _ | .headerCase
  | .headerStep | .program | .jobFinish _ => instDecidableTrue

instance (s : State) (event : Event) : Decidable (ChromaKept s event) :=
  match event with
  | .writeCtrl ctrl _ => by
    cases ctrl <;> first
      | exact instDecidableTrue
      | (dsimp only [ChromaKept]; exact match s.context with
          | some _ => inferInstance
          | none => instDecidableTrue)
  | .writeDone | .forceKeyFrame | .setInput _ | .streamOn _ _ | .streamOff | .jobPrepare | .formatConfigure _
  | .headerCase | .headerStep | .program | .jobFinish _ => instDecidableTrue

/-- The registers have the entropy mode, the chroma offset and the QP that the slice header and the PPS
before it say. -/
def Registers.Agrees (registers : Registers) : List Item → Prop
  | .slice header _ :: older =>
      match lastPps older with
      | some pps =>
          registers.entropyCoding = pps.entropyCodingModeFlag ∧
            (registers.qpChromaOffset : ℤ) = pps.chromaQpIndexOffset ∧
              (registers.fixedQp : ℤ) = pps.picInitQp + header.sliceQpDelta
      | none => False
  | _ => False

instance (registers : Registers) (older : List Item) : Decidable (registers.Agrees older) :=
  match older with
  | .slice _ _ :: older => by
    dsimp only [Registers.Agrees]
    exact match lastPps older with
      | some _ => instDecidableAnd
      | none => instDecidableFalse
  | [] | .sps _ :: _ | .pps _ :: _ | .program _ :: _ | .finish _ :: _ => instDecidableFalse

/-- The registers of every slice of a log agree with its header and PPS. -/
def Programmed : List Item → Prop
  | [] => True
  | .program registers :: older => registers.Agrees older ∧ Programmed older
  | _ :: older => Programmed older

instance Programmed.decidable : ∀ log : List Item, Decidable (Programmed log)
  | [] => inferInstanceAs (Decidable True)
  | .program registers :: older =>
      haveI := Programmed.decidable older
      inferInstanceAs (Decidable (registers.Agrees older ∧ Programmed older))
  | .sps _ :: older | .pps _ :: older | .slice _ _ :: older | .finish _ :: older => Programmed.decidable older

/-- The values a registered control takes. -/
def Ctrl.InRange (ctrl : Ctrl) (value : ℤ) : Prop := ctrl.config.min ≤ value ∧ value ≤ ctrl.config.max

instance (ctrl : Ctrl) (value : ℤ) : Decidable (ctrl.InRange value) := by
  dsimp only [Ctrl.InRange]
  infer_instance

theorem Ctrl.config_ordered (ctrl : Ctrl) : ctrl.config.min ≤ ctrl.config.max := by cases ctrl <;> decide

/-- What the framework lets through is in range. -/
theorem Ctrl.validateNew_inRange {ctrl : Ctrl} {value new : ℤ} (passed : ctrl.validateNew value = some new) :
    ctrl.InRange new := by
  have ordered := ctrl.config_ordered
  cases type : ctrl.config.type with
  | integer =>
    simp only [Ctrl.validateNew, type, Option.some.injEq] at passed
    simp only [Ctrl.InRange]
    omega
  | boolean =>
    have bits : ctrl.config.min = 0 ∧ ctrl.config.max = 1 := by
      cases ctrl <;> first | exact ⟨rfl, rfl⟩ | cases type
    simp only [Ctrl.validateNew, type, Option.some.injEq] at passed
    simp only [Ctrl.InRange]
    split at passed <;> omega
  | menu =>
    simp only [Ctrl.validateNew, type] at passed
    split at passed
    · cases passed
    · rename_i refused
      simp only [not_or, not_lt] at refused
      obtain rfl := Option.some.inj passed
      exact ⟨refused.1, refused.2.1⟩

theorem Ctrl.default_inRange (ctrl : Ctrl) : ctrl.InRange ctrl.config.default := by cases ctrl <;> decide

theorem Ctrl.inRange_update {values : Ctrl → ℤ} {ctrl other : Ctrl} {value : ℤ} (inRange : ctrl.InRange value)
    (before : other.InRange (values other)) : other.InRange (Function.update values ctrl value other) := by
  by_cases same : other = ctrl
  · subst same
    rw [Function.update_self]
    exact inRange
  · rw [Function.update_of_ne same]
    exact before

/-- The controls that end up in the registers of the QP and the chroma offset. -/
def Ctrl.quantizers : List Ctrl := [.qpMin, .qpMax, .qpI, .qpP, .chromaQpIndexOffset]

theorem Ctrl.zero_inRange : ∀ ctrl ∈ Ctrl.quantizers, ctrl.InRange 0 := by decide

/-- Every control is in range, and so are the value of a write in progress and every latched quantizer:
theirs start at zero, like the memory of the context. -/
structure State.InRange (s : State) : Prop where
  cur : ∀ ctrl : Ctrl, ctrl.InRange (s.cur ctrl)
  written : ∀ ctrl new, s.writing = some (ctrl, new) → ctrl.InRange new
  latched : ∀ ctx, s.context = some ctx → ∀ ctrl ∈ Ctrl.quantizers, ctrl.InRange (ctx.latched ctrl)

namespace State.InRange

variable {s : State}

/-- A latched value in range keeps the quantizers in range. -/
private theorem latch {ctx : Context} {ctrl : Ctrl} {value : ℤ} (inRange : ctrl.InRange value)
    (latched : ∀ other ∈ Ctrl.quantizers, other.InRange (ctx.latched other)) :
    ∀ other ∈ Ctrl.quantizers, other.InRange ((ctx.latch ctrl value).latched other) := by
  intro other member
  rw [ctx.latch_latched]
  exact Ctrl.inRange_update inRange (latched other member)

/-- The latched values of a context are all that matters of it. -/
theorem context (ranges : s.InRange) {next : State} (cur : next.cur = s.cur) (writing : next.writing = s.writing)
    (latched : ∀ after, next.context = some after → ∃ ctx, s.context = some ctx ∧ after.latched = ctx.latched) :
    next.InRange where
  cur := by
    rw [cur]
    exact ranges.cur
  written := by
    rw [writing]
    exact ranges.written
  latched after streaming := by
    obtain ⟨ctx, before, same⟩ := latched after streaming
    rw [same]
    exact ranges.latched ctx before

theorem ctrlLatch (ranges : s.InRange) (ctrl : Ctrl) : (s.ctrlLatch ctrl).InRange := by
  rw [State.ctrlLatch]
  split
  · exact ranges
  case h_2 ctx streaming =>
    have latched := latch (ranges.cur ctrl) (ranges.latched ctx streaming)
    dsimp only
    split
    · simp only [State.setEntropyModeCavlc]
      split
      · refine ⟨ranges.cur, ranges.written, ?_⟩
        rintro after ⟨⟩
        exact latched
      · have cavlc : Ctrl.InRange .entropyMode entropyModeCavlc := by decide
        refine ⟨fun other => Ctrl.inRange_update cavlc (ranges.cur other), ranges.written, ?_⟩
        rintro after ⟨⟩
        exact latch (ranges.cur .entropyMode) latched
    · refine ⟨ranges.cur, ranges.written, ?_⟩
      rintro after ⟨⟩
      exact latched

theorem ctrlLower (ranges : s.InRange) (ctrl : Ctrl) : (s.ctrlLower ctrl).InRange := by
  refine ranges.context rfl rfl ?_
  intro after streaming
  obtain ⟨ctx, before, rfl⟩ := Option.map_eq_some_iff.mp streaming
  exact ⟨ctx, before, rfl⟩

theorem writeCtrl (ranges : s.InRange) (ctrl : Ctrl) (value : ℤ) : (s.writeCtrl ctrl value).InRange := by
  rcases s.writeCtrl_spec ctrl value with refused | ⟨new, passed, -, called⟩
  · rw [refused]
    exact ranges
  · rw [called]
    have latched := ranges.ctrlLatch ctrl
    refine ⟨latched.cur, ?_, latched.latched⟩
    rintro ctrl new ⟨⟩
    exact Ctrl.validateNew_inRange passed

theorem writeDone (ranges : s.InRange) {ctrl : Ctrl} {new : ℤ} (written : s.writing = some (ctrl, new)) :
    (s.writeDone ctrl new).InRange where
  cur other := Ctrl.inRange_update (ranges.written ctrl new written) (ranges.cur other)
  written _ _ writing := by cases writing
  latched := (ranges.ctrlLower ctrl).latched

theorem handlers (ranges : s.InRange) (ctrls : List Ctrl) : (ctrls.foldl State.ctrlPrepare s).InRange := by
  induction ctrls generalizing s with
  | nil => exact ranges
  | cons ctrl ctrls ih => exact ih ((ranges.ctrlLatch ctrl).ctrlLower ctrl)

theorem setup (ranges : s.InRange) (width height : ℕ) : (s.setup width height).InRange := by
  let ctx : Context := { widthMbs := Math.divRoundUp width 16, heightMbs := Math.divRoundUp height 16 }
  have unfolded : s.setup width height = Ctrl.byId.foldl State.ctrlPrepare { s with context := some ctx } := rfl
  have zeroed : ({ s with context := some ctx } : State).InRange := by
    refine ⟨ranges.cur, ranges.written, ?_⟩
    rintro after ⟨⟩
    exact Ctrl.zero_inRange
  rw [unfolded]
  exact zeroed.handlers Ctrl.byId

theorem step {event : Event} {next : State} (ranges : s.InRange) (taken : H264.step s event = some next) :
    next.InRange := by
  cases taken_of_step taken with
  | writeCtrl ctrl value => exact ranges.writeCtrl ctrl value
  | writeDone written => exact ranges.writeDone written
  | forceKeyFrame =>
    refine ranges.context rfl rfl ?_
    intro after streaming
    obtain ⟨ctx, before, rfl⟩ := Option.map_eq_some_iff.mp streaming
    exact ⟨ctx, before, rfl⟩
  | streamOn width height => exact ranges.setup width height
  | streamOff => exact ranges.context rfl rfl fun after streaming => by cases streaming
  | jobPrepare free phase streaming =>
    refine ranges.context rfl rfl ?_
    rintro after ⟨⟩
    exact ⟨_, streaming, rfl⟩
  | @headerCase ctx job phase streaming =>
    obtain ⟨cur, writing, context⟩ := s.headerCase_frame ctx job
    refine ranges.context cur writing ?_
    intro after same
    exact ⟨after, context.symm.trans same, rfl⟩
  | headerStep phase streaming =>
    refine ranges.context rfl rfl ?_
    rintro after ⟨⟩
    exact ⟨_, streaming, rfl⟩
  | setInput | formatConfigured | formatFailed | program | jobFinish =>
    exact ranges.context rfl rfl fun after streaming => ⟨after, streaming, rfl⟩

end State.InRange

/-- The job of a phase. -/
def Phase.job : Phase → Option Job
  | .prepared job | .headers job | .header job _ | .sliced job | .running job => some job
  | .idle => none

/-- The values of a job fit the fields of the registers. -/
structure Job.InRange (job : Job) : Prop where
  entropyMode : job.entropyCodingModeFlag = 0 ∨ job.entropyCodingModeFlag = 1
  chroma : 0 ≤ job.chromaQpIndexOffset ∧ job.chromaQpIndexOffset ≤ 7
  qp : 0 ≤ job.qp ∧ job.qp ≤ 51

/-- The QP of a job is one of four latched ones, or zero. -/
theorem Context.jobQp_inRange {ctx : Context} (latched : ∀ ctrl ∈ Ctrl.quantizers, ctrl.InRange (ctx.latched ctrl))
    (frameType : FrameType) : 0 ≤ ctx.jobQp frameType ∧ ctx.jobQp frameType ≤ 51 := by
  have qpMin : 0 ≤ ctx.latched .qpMin ∧ ctx.latched .qpMin ≤ 51 := latched .qpMin (by decide)
  have qpMax : 0 ≤ ctx.latched .qpMax ∧ ctx.latched .qpMax ≤ 51 := latched .qpMax (by decide)
  have qpI : 0 ≤ ctx.latched .qpI ∧ ctx.latched .qpI ≤ 51 := latched .qpI (by decide)
  have qpP : 0 ≤ ctx.latched .qpP ∧ ctx.latched .qpP ≤ 51 := latched .qpP (by decide)
  simp only [Context.jobQp]
  cases frameType <;> dsimp only <;> split <;> try split
  all_goals omega

theorem Context.jobPrepare_inRange {ctx : Context}
    (latched : ∀ ctrl ∈ Ctrl.quantizers, ctrl.InRange (ctx.latched ctrl)) : ctx.jobPrepare.2.InRange where
  entropyMode := by
    have same : ctx.jobPrepare.2.entropyCodingModeFlag = ctx.jobPrepare.1.entropyFlag :=
      Tracked.entropyMode.sampled_prepare ctx
    rw [same]
    simp only [Context.entropyFlag]
    split
    · exact .inr rfl
    · exact .inl rfl
  chroma := latched .chromaQpIndexOffset (by decide)
  qp := ctx.jobQp_inRange latched _

/-- A value that fits a field is not changed by the mask. -/
theorem maskBits_of_lt {value : ℤ} {bits : ℕ} (nonneg : 0 ≤ value) (small : value < 2 ^ bits) :
    (maskBits value bits : ℤ) = value := by
  simp only [maskBits]
  rw [Int.emod_eq_of_lt nonneg small]
  exact Int.toNat_of_nonneg nonneg

/-- What a job samples of the latched values is what the context has, as long as nothing is written before the slice
header. -/
theorem sampled_step {s next : State} {event : Event} {sampled : Context → Job → Prop}
    (congr : ∀ (ctx after : Context) job, after.latched = ctx.latched → sampled ctx job → sampled after job)
    (prepared : ∀ ctx : Context, sampled ctx.jobPrepare.1 ctx.jobPrepare.2)
    (fresh : ∀ ctx job, s.context = some ctx → s.phase.headerJob = some job → sampled ctx job)
    (sequential : Sequential s event) (taken : Taken s event next) :
    ∀ ctx job, next.context = some ctx → next.phase.headerJob = some job → sampled ctx job := by
  intro after job streaming current
  cases taken with
  | writeCtrl ctrl value =>
    rw [s.writeCtrl_phase] at current
    cases idle : s.phase with
    | idle =>
      rw [idle] at current
      cases current
    | _ => simp [Sequential, idle] at sequential
  | writeDone =>
    obtain ⟨ctx, before, rfl⟩ := Option.map_eq_some_iff.mp streaming
    exact congr ctx _ job rfl (fresh ctx job before current)
  | forceKeyFrame =>
    obtain ⟨ctx, before, rfl⟩ := Option.map_eq_some_iff.mp streaming
    exact congr ctx _ job rfl (fresh ctx job before current)
  | setInput => exact fresh after job streaming current
  | streamOn width height free phase =>
    rw [(s.setup_spec width height).1, phase] at current
    cases current
  | streamOff => cases streaming
  | @jobPrepare ctx =>
    obtain rfl := Option.some.inj streaming
    obtain rfl := Option.some.inj current
    exact prepared ctx
  | formatConfigured phase =>
    obtain rfl := Option.some.inj current
    exact fresh after _ streaming (by rw [phase]; rfl)
  | @headerCase ctx started phase before =>
    simp only [State.headerCase] at streaming current
    cases step : ctx.step with
    | slice =>
      rw [step] at current
      cases current
    | _ =>
      rw [step] at streaming current
      obtain rfl := Option.some.inj current
      exact fresh after _ streaming (by rw [phase]; rfl)
  | @headerStep ctx started step phase before =>
    obtain rfl := Option.some.inj streaming
    obtain rfl := Option.some.inj current
    exact congr ctx _ _ rfl (fresh ctx _ before (by rw [phase]; rfl))
  | formatFailed | program | jobFinish => cases current

/-- The three values are held, a job in its headers has what the context has, and what is programmed so
far agrees. -/
structure State.Coherent (s : State) : Prop where
  entropyMode : Tracked.entropyMode.Held s
  chroma : Tracked.chromaQpIndexOffset.Held s
  qpInit : Tracked.qpInit.Held s
  fresh : ∀ ctx job, s.context = some ctx → s.phase.headerJob = some job →
    job.entropyCodingModeFlag = ctx.entropyFlag ∧ job.chromaQpIndexOffset = ctx.latched .chromaQpIndexOffset
  ranges : s.InRange
  job : ∀ job, s.phase.job = some job → job.InRange
  sliced : ∀ job, s.phase = .sliced job → ∃ header older, s.log = .slice header job :: older
  programmed : Programmed s.log

namespace State.Coherent

variable {s next : State} {event : Event}

/-- Without a write during a job, the values that the emission stores past are fresh. -/
theorem entropyMode_kept (coherent : s.Coherent) (event : Event) : Tracked.entropyMode.Kept s event := by
  cases event with
  | writeCtrl ctrl value => exact Tracked.entropyMode_kept s ctrl value
  | headerStep =>
    intro ctx job next streaming phase _
    exact (coherent.fresh ctx job streaming (by rw [phase]; rfl)).1
  | _ => trivial

theorem qpInit_kept (s : State) (event : Event) : Tracked.qpInit.Kept s event := by
  cases event with
  | writeCtrl ctrl value => exact Tracked.qpInit_kept s ctrl value
  | headerStep =>
    intro ctx job next streaming phase _
    rfl
  | _ => trivial

/-- The handler of the chroma offset lowers nothing, so it is the write that has to keep it. -/
theorem chroma_kept (coherent : s.Coherent) (kept : ChromaKept s event) :
    Tracked.chromaQpIndexOffset.Kept s event := by
  cases event with
  | writeCtrl ctrl value =>
    by_cases chroma : ctrl = .chromaQpIndexOffset
    · subst chroma
      intro ctx next streaming written
      rcases s.writeCtrl_spec .chromaQpIndexOffset value with refused | ⟨new, passed, changed, called⟩
      · rw [refused] at written
        obtain rfl := Option.some.inj (streaming.symm.trans written)
        exact .inl rfl
      rw [called, State.ctrlLatch, streaming] at written
      obtain rfl := Option.some.inj written
      rcases Nat.lt_or_ge Step.pps.rank ctx.step.rank with notDue | due
      · rw [ChromaKept, streaming] at kept
        have latched := (kept (Step.eq_slice notDue)).resolve_left (by simp [passed, changed])
        refine .inl ?_
        change Function.update ctx.latched .chromaQpIndexOffset _ .chromaQpIndexOffset = _
        rw [Function.update_self]
        exact latched
      · exact .inr ((State.settled_le ..).trans due)
    · apply Tracked.kept_of_latched
      intro ctx next latched
      rcases latched.latched .chromaQpIndexOffset with same | own | ⟨other, -⟩
      · exact .inl same
      · exact absurd own.symm chroma
      · cases other
  | headerStep =>
    intro ctx job next streaming phase _
    exact (coherent.fresh ctx job streaming (by rw [phase]; rfl)).2
  | _ => trivial

/-- A job has what the context has, as long as nothing is written before its slice header. -/
theorem fresh_step (coherent : s.Coherent) (sequential : Sequential s event) (taken : Taken s event next) :
    ∀ ctx job, next.context = some ctx → next.phase.headerJob = some job →
      job.entropyCodingModeFlag = ctx.entropyFlag ∧ job.chromaQpIndexOffset = ctx.latched .chromaQpIndexOffset := by
  refine sampled_step ?_ ?_ coherent.fresh sequential taken
  · rintro ctx next job latched ⟨entropyMode, chroma⟩
    rw [Context.entropyFlag, latched]
    exact ⟨entropyMode, chroma⟩
  · intro ctx
    exact ⟨Tracked.entropyMode.sampled_prepare ctx, rfl⟩

/-- A job keeps its values until it is finished. -/
theorem job_step (coherent : s.Coherent) (taken : Taken s event next) :
    ∀ job, next.phase.job = some job → job.InRange := by
  intro job current
  cases taken with
  | writeCtrl ctrl value =>
    rw [s.writeCtrl_phase] at current
    exact coherent.job job current
  | streamOn width height =>
    rw [(s.setup_spec width height).1] at current
    exact coherent.job job current
  | writeDone | forceKeyFrame | setInput | streamOff => exact coherent.job job current
  | jobPrepare free phase streaming =>
    obtain rfl := Option.some.inj current
    exact Context.jobPrepare_inRange (coherent.ranges.latched _ streaming)
  | headerCase phase streaming =>
    refine coherent.job job ?_
    rw [phase]
    simp only [State.headerCase] at current
    split at current <;> exact current
  | formatConfigured phase | headerStep phase | program phase =>
    refine coherent.job job ?_
    rw [phase]
    exact current
  | formatFailed | jobFinish => cases current

/-- After its header, a slice is what was emitted last. -/
theorem sliced_step (coherent : s.Coherent) (taken : Taken s event next) :
    ∀ job, next.phase = .sliced job → ∃ header older, next.log = .slice header job :: older := by
  intro job current
  cases taken with
  | writeCtrl ctrl value =>
    rw [s.writeCtrl_log]
    exact coherent.sliced job ((s.writeCtrl_phase ctrl value).symm.trans current)
  | streamOn width height =>
    obtain ⟨phase, log, -⟩ := s.setup_spec width height
    rw [log]
    exact coherent.sliced job (phase.symm.trans current)
  | writeDone | forceKeyFrame | setInput | streamOff => exact coherent.sliced job current
  | @headerCase ctx started phase streaming =>
    simp only [State.headerCase] at current ⊢
    cases step : ctx.step with
    | slice =>
      rw [step] at current
      obtain rfl := Phase.sliced.inj current
      exact ⟨_, _, rfl⟩
    | _ =>
      rw [step] at current
      cases current
  | jobPrepare | formatConfigured | formatFailed | headerStep | program | jobFinish => cases current

/-- The registers of a job agree with the slice header and the PPS before it. -/
theorem agrees (coherent : s.Coherent) {job : Job} (phase : s.phase = .sliced job) :
    (jobRegisters job).Agrees s.log := by
  obtain ⟨header, older, log⟩ := coherent.sliced job phase
  obtain ⟨flag, chroma, qp⟩ := coherent.job job (by rw [phase]; rfl)
  have entropyMode := coherent.entropyMode.covered
  have chromaOffset := coherent.chroma.covered
  have initial := coherent.qpInit.covered
  rw [log] at entropyMode chromaOffset initial ⊢
  obtain ⟨pps, last, mode⟩ := Option.map_eq_some_iff.mp entropyMode.1
  obtain ⟨pps', same, offset⟩ := Option.map_eq_some_iff.mp chromaOffset.1
  obtain rfl := Option.some.inj (last.symm.trans same)
  obtain ⟨pps', same, init⟩ := Option.map_eq_some_iff.mp initial.1
  obtain rfl := Option.some.inj (last.symm.trans same)
  have fixedQp : (maskBits job.qp 6 : ℤ) = job.qp := maskBits_of_lt qp.1 (by omega)
  have qpChroma : (maskBits job.chromaQpIndexOffset 3 : ℤ) = job.chromaQpIndexOffset :=
    maskBits_of_lt chroma.1 (by omega)
  change pps.entropyCodingModeFlag = job.entropyCodingModeFlag at mode
  change pps.chromaQpIndexOffset = job.chromaQpIndexOffset at offset
  change pps.picInitQp = job.qp - header.sliceQpDelta at init
  simp only [Registers.Agrees, last, jobRegisters, fixedQp, qpChroma]
  refine ⟨?_, offset.symm, by omega⟩
  rw [mode]
  rcases flag with cavlc | cabac
  · rw [cavlc]
    rfl
  · rw [cabac]
    rfl

theorem programmed_step (coherent : s.Coherent) (taken : Taken s event next) : Programmed next.log := by
  cases taken with
  | writeCtrl ctrl value =>
    rw [s.writeCtrl_log]
    exact coherent.programmed
  | streamOn width height =>
    rw [(s.setup_spec width height).2.1]
    exact coherent.programmed
  | headerCase =>
    simp only [State.headerCase]
    split <;> exact coherent.programmed
  | program phase => exact ⟨coherent.agrees phase, coherent.programmed⟩
  | _ => exact coherent.programmed

theorem step (coherent : s.Coherent) (guard : Sequential s event ∧ ChromaKept s event)
    (taken : H264.step s event = some next) : next.Coherent where
  entropyMode := coherent.entropyMode.step (coherent.entropyMode_kept event) taken
  chroma := coherent.chroma.step (coherent.chroma_kept guard.2) taken
  qpInit := coherent.qpInit.step (qpInit_kept s event) taken
  fresh := coherent.fresh_step guard.1 (taken_of_step taken)
  ranges := coherent.ranges.step taken
  job := coherent.job_step (taken_of_step taken)
  sliced := coherent.sliced_step (taken_of_step taken)
  programmed := coherent.programmed_step (taken_of_step taken)

theorem initial : State.Coherent {} where
  entropyMode := .initial
  chroma := .initial
  qpInit := .initial
  fresh _ _ streaming := by cases streaming
  ranges := ⟨Ctrl.default_inRange, nofun, nofun⟩
  job _ current := by cases current
  sliced _ current := by cases current
  programmed := trivial

end State.Coherent

/-- With control writes between jobs only, of which none latches another chroma offset while no PPS is
due, the registers of every slice agree with its header and the PPS in force. -/
theorem registers_agree_of_chroma_kept (events : List Event) (final : State)
    (guarded : Guarded step (fun s event => Sequential s event ∧ ChromaKept s event) {} events)
    (reached : run step {} events = some final) : Programmed final.log :=
  (guarded.run_preserves State.Coherent State.Coherent.step .initial reached).programmed

/-- One write of the chroma offset only reaches the control. -/
def chromaWritten : List Event :=
  [.streamOn 1280 720] ++ firstHeaders ++ lastHeader ++ write .chromaQpIndexOffset 5 ++ sliceOnly

/-- The next write latches the offset 5, but the PPS with the offset 4 stays in force. -/
def chromaLatched : List Event :=
  [.streamOn 1280 720] ++ firstHeaders ++ lastHeader ++ write .chromaQpIndexOffset 5 ++
    write .chromaQpIndexOffset 6 ++ sliceOnly

theorem registers_agree_chroma_written :
    ∃ final, run step {} chromaWritten = some final ∧ final.log.length = 8 ∧ Programmed final.log :=
  ⟨_, rfl, rfl, registers_agree_of_chroma_kept chromaWritten _ (by decide) rfl⟩

theorem registers_not_always_agree :
    ¬ ∀ (events : List Event) (final : State), Guarded step Sequential {} events →
      run step {} events = some final → Programmed final.log := by
  intro always
  have programmed := always chromaLatched _ (by decide) rfl
  revert programmed
  decide

end H618Vpu.H264
