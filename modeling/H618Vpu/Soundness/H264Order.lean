import H618Vpu.Soundness.H264Ranges
import H618Vpu.Spec.PicOrder

/-! # How a decoder numbers the encoded pictures

The encoder counts frame number and picture order count in two counters of its context, which start over
at each IDR picture. As long as no job fails, every picture that is sampled is emitted, so the slice
headers have consecutive values and a decoder derives from them how far it is from the last IDR picture.
-/

namespace H618Vpu.H264

open Machine Spec

/-- The numbers in a slice header, with the ranges of the SPS before it. -/
def SliceHeader.numbers (header : SliceHeader) (sps : Option Sps) : Numbers where
  idr := header.nalUnitType = 5
  frameNum := header.frameNum
  picOrderCntLsb := header.picOrderCntLsb.getD 0
  maxFrameNum := 2 ^ (sps.elim 0 Sps.log2MaxFrameNumMinus4 + 4)
  maxPicOrderCntLsb := 2 ^ (sps.elim 0 Sps.log2MaxPicOrderCntLsbMinus4 + 4)

/-- What a decoder derives for the pictures of a log, the newest first. -/
def orders : List Item → List Order
  | [] => []
  | .slice header _ :: older => Order.next (header.numbers (lastSps older)) (orders older).head? :: orders older
  | .sps _ :: older | .pps _ :: older | .program _ :: older | .finish _ :: older => orders older

/-- The pictures of a log, the newest first. -/
def slices : List Item → List SliceHeader
  | [] => []
  | .slice header _ :: older => header :: slices older
  | .sps _ :: older | .pps _ :: older | .program _ :: older | .finish _ :: older => slices older

/-- No job fails. -/
def Succeeds (_ : State) : Event → Prop
  | .formatConfigure ok => ok = true
  | .jobFinish done => done = true
  | _ => True

instance (s : State) (event : Event) : Decidable (Succeeds s event) :=
  match event with
  | .formatConfigure ok => inferInstanceAs (Decidable (ok = true))
  | .jobFinish done => inferInstanceAs (Decidable (done = true))
  | .writeCtrl _ _ | .writeDone | .forceKeyFrame | .setInput _ | .streamOn _ _ | .streamOff | .jobPrepare
  | .headerCase | .headerStep | .program => instDecidableTrue

/-- The stream goes on, no job fails, and each job finds the GOP closed and of size `G`, with no key frame
requested. -/
def ClosedGop (G : ℕ) (s : State) : Event → Prop
  | .streamOff => False
  | .jobPrepare => ∀ ctx, s.context = some ctx →
      ctx.latched .gopClosure ≠ 0 ∧ ctx.latched .gopSize = G ∧ ctx.forceKeyFrame = false
  | event => Succeeds s event

instance (G : ℕ) (s : State) (event : Event) : Decidable (ClosedGop G s event) :=
  match event with
  | .streamOff => instDecidableFalse
  | .jobPrepare =>
      match streaming : s.context with
      | none => .isTrue fun _ also => nomatch streaming.symm.trans also
      | some ctx =>
          decidable_of_iff (ctx.latched .gopClosure ≠ 0 ∧ ctx.latched .gopSize = G ∧ ctx.forceKeyFrame = false)
            (by simp only [ClosedGop, streaming, Option.some.injEq, forall_eq'])
  | .formatConfigure ok => inferInstanceAs (Decidable (ok = true))
  | .jobFinish done => inferInstanceAs (Decidable (done = true))
  | .writeCtrl _ _ | .writeDone | .forceKeyFrame | .setInput _ | .streamOn _ _ | .headerCase | .headerStep
  | .program => instDecidableTrue

/-- A context without what the handlers write to. -/
def Context.counters (ctx : Context) : Context := { ctx with step := .start, latched := fun _ => 0 }

theorem Context.of_counters {ctx after : Context} (same : after.counters = ctx.counters) :
    after.gopIndex = ctx.gopIndex ∧ after.frameNum = ctx.frameNum ∧ after.picOrderCntLsb = ctx.picOrderCntLsb ∧
      after.forceKeyFrame = ctx.forceKeyFrame := by
  simp only [counters, Context.mk.injEq] at same
  exact ⟨same.2.1, same.2.2.1, same.2.2.2.1, same.2.2.2.2.2.2.2.2.2.2.2⟩

theorem State.ctrlLatch_counters (s : State) (ctrl : Ctrl) :
    (s.ctrlLatch ctrl).context.map Context.counters = s.context.map Context.counters := by
  rw [State.ctrlLatch]
  split
  · rfl
  case h_2 ctx streaming =>
    rw [streaming]
    dsimp only
    split
    · rw [State.setEntropyModeCavlc]
      split <;> rfl
    · rfl

theorem State.ctrlLower_counters (s : State) (ctrl : Ctrl) :
    (s.ctrlLower ctrl).context.map Context.counters = s.context.map Context.counters := by
  rw [State.ctrlLower, Option.map_map]
  rfl

theorem State.writeCtrl_counters (s : State) (ctrl : Ctrl) (value : ℤ) :
    (s.writeCtrl ctrl value).context.map Context.counters = s.context.map Context.counters := by
  rcases s.writeCtrl_spec ctrl value with refused | ⟨new, -, -, called⟩
  · rw [refused]
  · rw [called]
    exact s.ctrlLatch_counters ctrl

theorem State.writeDone_counters (s : State) (ctrl : Ctrl) (new : ℤ) :
    (s.writeDone ctrl new).context.map Context.counters = s.context.map Context.counters :=
  s.ctrlLower_counters ctrl

theorem State.handlers_counters (ctrls : List Ctrl) (s : State) :
    (ctrls.foldl State.ctrlPrepare s).context.map Context.counters = s.context.map Context.counters := by
  induction ctrls generalizing s with
  | nil => rfl
  | cons ctrl ctrls ih =>
    exact (ih _).trans (((s.ctrlLatch ctrl).ctrlLower_counters ctrl).trans (s.ctrlLatch_counters ctrl))

/-- A stream starts with its counters at zero. -/
theorem State.setup_counters (s : State) (width height : ℕ) :
    ∃ ctx, (s.setup width height).context = some ctx ∧ ctx.counters =
      { widthMbs := Math.divRoundUp width 16, heightMbs := Math.divRoundUp height 16 } := by
  let start : Context := { widthMbs := Math.divRoundUp width 16, heightMbs := Math.divRoundUp height 16 }
  have handlers := State.handlers_counters Ctrl.byId { s with context := some start }
  obtain ⟨ctx, streaming, same⟩ := Option.map_eq_some_iff.mp (handlers.trans rfl)
  exact ⟨ctx, streaming, same⟩

/-- A handler of a control write, or the end of it, leaves the counters alone and does not raise the step. -/
def ContextWritten (s next : State) : Prop :=
  ∀ after, next.context = some after →
    ∃ ctx, s.context = some ctx ∧ after.counters = ctx.counters ∧ after.step.rank ≤ ctx.step.rank

theorem contextWritten_of_counters {s next : State}
    (counters : next.context.map Context.counters = s.context.map Context.counters)
    (step : ∀ after, next.context = some after → ∃ ctx, s.context = some ctx ∧ after.step.rank ≤ ctx.step.rank) :
    ContextWritten s next := by
  intro after streaming
  obtain ⟨ctx, before, low⟩ := step after streaming
  rw [streaming, before] at counters
  exact ⟨ctx, before, Option.some.inj counters, low⟩

theorem State.writeCtrl_contextWritten (s : State) (ctrl : Ctrl) (value : ℤ) :
    ContextWritten s (s.writeCtrl ctrl value) := by
  apply contextWritten_of_counters (s.writeCtrl_counters ctrl value)
  intro after streaming
  rcases s.writeCtrl_spec ctrl value with refused | ⟨new, -, -, called⟩
  · rw [refused] at streaming
    exact ⟨after, streaming, le_rfl⟩
  · rw [called] at streaming
    obtain ⟨ctx, before, latched⟩ := (s.ctrlLatch_spec ctrl).2.2 after streaming
    exact ⟨ctx, before, latched.step⟩

theorem State.writeDone_contextWritten (s : State) (ctrl : Ctrl) (new : ℤ) :
    ContextWritten s (s.writeDone ctrl new) := by
  apply contextWritten_of_counters (s.writeDone_counters ctrl new)
  intro after streaming
  obtain ⟨ctx, before, rfl⟩ := Option.map_eq_some_iff.mp streaming
  exact ⟨ctx, before, ctrl.lowers_le ctx.step⟩

/-- The values continue the numbering of a log. -/
def Continues (log : List Item) (frameNum picOrderCntLsb : ℕ) : Prop :=
  ∃ prev, (orders log).head? = some prev ∧ frameNum = (prev.sinceIdr + 1) % 2 ^ 8 ∧
    picOrderCntLsb = (2 * prev.sinceIdr + 2) % 2 ^ 8

/-- A job starts the numbering over, or continues that of a log. -/
def Job.Continues (job : Job) (log : List Item) : Prop :=
  if job.frameType = .idr then job.frameNum = 0 ∧ job.picOrderCntLsb = 0
  else H264.Continues log job.frameNum job.picOrderCntLsb

/-- The bits of the counters, as an SPS has them. -/
def Context.EightBits (ctx : Context) : Prop :=
  ctx.log2MaxFrameNum = 8 ∧ ctx.log2MaxPicOrderCntLsb = 8 ∧ ctx.picOrderCntType = 0

theorem Context.EightBits.of_counters {ctx after : Context} (eightBits : ctx.EightBits)
    (same : after.counters = ctx.counters) : after.EightBits :=
  ⟨(congrArg Context.log2MaxFrameNum same).trans eightBits.1,
    (congrArg Context.log2MaxPicOrderCntLsb same).trans eightBits.2.1,
    (congrArg Context.picOrderCntType same).trans eightBits.2.2⟩

/-- The SPS in force is there, and has the bits of the counters. -/
def SpsInForce (log : List Item) : Prop :=
  ∃ sps, lastSps log = some sps ∧ sps.log2MaxFrameNumMinus4 = 4 ∧ sps.log2MaxPicOrderCntLsbMinus4 = 4

/-- The pictures so far are numbered in sequence; the counters, or a job that is not emitted yet, continue
them. Past the step of the SPS there is one. -/
structure Ordered (s : State) : Prop where
  split : ∀ order ∈ orders s.log, order.Split 8
  eightBits : ∀ ctx, s.context = some ctx → ctx.EightBits
  announced : ∀ ctx, s.context = some ctx → Step.sps.rank < ctx.step.rank → SpsInForce s.log
  announcing : ∀ job next, s.phase = .header job next → Step.sps.rank < next.rank → SpsInForce s.log
  resting : ∀ ctx, s.context = some ctx → s.phase.headerJob = none →
    ctx.gopIndex = 0 ∨ Continues s.log ctx.frameNum ctx.picOrderCntLsb
  sampled : ∀ ctx job, s.context = some ctx → s.phase.headerJob = some job →
    job.Continues s.log ∧ ctx.frameNum = (job.frameNum + 1) % 2 ^ 8 ∧
      ctx.picOrderCntLsb = (job.picOrderCntLsb + 2) % 2 ^ 8

/-- At the start of a GOP comes an IDR picture. -/
theorem Context.gopFrameType_start {ctx : Context} (start : ctx.gopIndex = 0) : ctx.gopFrameType = .idr := by
  simp only [gopFrameType, start, if_true, ite_self]

/-- The type of the next frame. -/
def Context.nextFrameType (ctx : Context) : FrameType := if ctx.forceKeyFrame then .idr else ctx.gopFrameType

theorem Context.jobPrepare_frameType (ctx : Context) : ctx.jobPrepare.2.frameType = ctx.nextFrameType := rfl

theorem Context.jobPrepare_numbers (ctx : Context) :
    ctx.jobPrepare.2.frameNum = (if ctx.nextFrameType = .idr then 0 else ctx.frameNum) ∧
      ctx.jobPrepare.2.picOrderCntLsb = if ctx.nextFrameType = .idr then 0 else ctx.picOrderCntLsb := by
  simp only [jobPrepare, nextFrameType, decide_eq_true_eq]
  exact ⟨rfl, rfl⟩

/-- What `job_prepare` samples of the counters, and how it advances them. -/
theorem Context.jobPrepare_counts {ctx : Context} (eightBits : ctx.EightBits) :
    (if ctx.jobPrepare.2.frameType = .idr then ctx.jobPrepare.2.frameNum = 0 ∧ ctx.jobPrepare.2.picOrderCntLsb = 0
      else ctx.jobPrepare.2.frameNum = ctx.frameNum ∧ ctx.jobPrepare.2.picOrderCntLsb = ctx.picOrderCntLsb) ∧
      ctx.jobPrepare.1.frameNum = (ctx.jobPrepare.2.frameNum + 1) % 2 ^ 8 ∧
      ctx.jobPrepare.1.picOrderCntLsb = (ctx.jobPrepare.2.picOrderCntLsb + 2) % 2 ^ 8 := by
  obtain ⟨frameNumBits, lsbBits, -⟩ := eightBits
  obtain ⟨frameNum, lsb⟩ := ctx.jobPrepare_numbers
  refine ⟨?_, ?_, ?_⟩
  · rw [jobPrepare_frameType]
    by_cases idr : ctx.nextFrameType = .idr
    · rw [if_pos idr, frameNum, lsb, if_pos idr, if_pos idr]
      exact ⟨rfl, rfl⟩
    · rw [if_neg idr, frameNum, lsb, if_neg idr, if_neg idr]
      exact ⟨rfl, rfl⟩
  · simp only [Context.jobPrepare, frameNumBits]
  · simp only [Context.jobPrepare, lsbBits]

namespace Ordered

variable {s : State}

/-- Changes to the rest of a file do not matter. -/
theorem frame {next : State} (ordered : Ordered s) (phase : next.phase = s.phase) (log : next.log = s.log)
    (written : ∀ after, next.context = some after → ∃ ctx, s.context = some ctx ∧ after.EightBits ∧
      after.gopIndex = ctx.gopIndex ∧ after.frameNum = ctx.frameNum ∧ after.picOrderCntLsb = ctx.picOrderCntLsb ∧
      after.step.rank ≤ ctx.step.rank) : Ordered next where
  split := by
    rw [log]
    exact ordered.split
  eightBits after streaming := by
    obtain ⟨ctx, -, eightBits, -⟩ := written after streaming
    exact eightBits
  announced after streaming due := by
    obtain ⟨ctx, before, -, -, -, -, low⟩ := written after streaming
    rw [log]
    exact ordered.announced ctx before (due.trans_le low)
  announcing := by
    rw [phase, log]
    exact ordered.announcing
  resting after streaming idle := by
    obtain ⟨ctx, before, -, gopIndex, frameNum, lsb, -⟩ := written after streaming
    rw [gopIndex, frameNum, lsb, log]
    exact ordered.resting ctx before (phase ▸ idle)
  sampled after job streaming current := by
    obtain ⟨ctx, before, -, -, frameNum, lsb, -⟩ := written after streaming
    rw [frameNum, lsb, log]
    exact ordered.sampled ctx job before (phase ▸ current)

theorem contextWritten {next : State} (ordered : Ordered s) (phase : next.phase = s.phase) (log : next.log = s.log)
    (written : ContextWritten s next) : Ordered next := by
  apply ordered.frame phase log
  intro after streaming
  obtain ⟨ctx, before, same, low⟩ := written after streaming
  obtain ⟨gopIndex, frameNum, lsb, -⟩ := Context.of_counters same
  exact ⟨ctx, before, (ordered.eightBits ctx before).of_counters same, gopIndex, frameNum, lsb, low⟩

/-- The log grows by something other than an SPS or a slice, and the job is past its headers. -/
theorem settle {next : State} (ordered : Ordered s) (context : next.context = s.context)
    (orders : orders next.log = orders s.log) (sps : lastSps next.log = lastSps s.log)
    (done : next.phase.headerJob = none) (before : s.phase.headerJob = none) : Ordered next where
  split := by
    rw [orders]
    exact ordered.split
  eightBits := by
    rw [context]
    exact ordered.eightBits
  announced := by
    rw [context, SpsInForce, sps]
    exact ordered.announced
  announcing job step phase := by
    rw [phase] at done
    cases done
  resting ctx streaming _ := by
    rw [Continues, orders]
    exact ordered.resting ctx (context ▸ streaming) before
  sampled ctx job streaming current := by
    rw [done] at current
    cases current

theorem jobPrepare {ctx : Context} (ordered : Ordered s) (streaming : s.context = some ctx) (idle : s.phase = .idle) :
    Ordered { s with context := some ctx.jobPrepare.1, phase := .prepared ctx.jobPrepare.2 } := by
  have eightBits := ordered.eightBits ctx streaming
  obtain ⟨numbers, frameNum, lsb⟩ := Context.jobPrepare_counts eightBits
  have resting := ordered.resting ctx streaming (by rw [idle]; rfl)
  constructor
  · exact ordered.split
  · rintro after ⟨⟩
    exact eightBits
  · rintro after ⟨⟩ due
    rcases ctx.jobPrepare_step with sps | same
    · rw [sps] at due
      exact absurd due (lt_irrefl _)
    · exact ordered.announced ctx streaming (same ▸ due)
  · rintro job next ⟨⟩
  · rintro after ⟨⟩ ⟨⟩
  · rintro after job ⟨⟩ ⟨⟩
    refine ⟨?_, frameNum, lsb⟩
    unfold Job.Continues
    split at numbers
    case isTrue idr =>
      rw [if_pos idr]
      exact numbers
    case isFalse other =>
      rw [if_neg other, numbers.1, numbers.2]
      refine resting.resolve_left fun start => other ?_
      rw [Context.jobPrepare_frameType, Context.nextFrameType, Context.gopFrameType_start start, ite_self]

/-- An emitted picture continues the sequence. -/
theorem order_split {ctx : Context} {job : Job} (ordered : Ordered s) (eightBits : ctx.EightBits)
    (announced : SpsInForce s.log) (continues : job.Continues s.log) :
    (Order.next ((jobConfigureSliceHeader ctx job).numbers (lastSps s.log)) (orders s.log).head?).Split 8 := by
  obtain ⟨sps, force, frameNumBits, lsbBits⟩ := announced
  have lsb : (jobConfigureSliceHeader ctx job).picOrderCntLsb = some job.picOrderCntLsb := if_pos eightBits.2.2
  unfold Job.Continues at continues
  split at continues
  case isTrue idr =>
    apply Order.split_idr
    · simp only [SliceHeader.numbers, jobConfigureSliceHeader, idr, decide_true, if_true]
    · exact continues.1
    · simp only [SliceHeader.numbers, lsb, continues.2, Option.getD_some, Nat.cast_zero]
  case isFalse other =>
    obtain ⟨prev, last, frameNum, picOrderCntLsb⟩ := continues
    rw [last]
    apply Order.split_next _ (ordered.split prev (List.mem_of_head? last)) (by decide)
    · simp only [SliceHeader.numbers, jobConfigureSliceHeader, other, decide_false, Bool.false_eq_true, if_false,
        OfNat.one_ne_ofNat]
    · simp only [SliceHeader.numbers, force, Option.elim_some, frameNumBits]
    · simp only [SliceHeader.numbers, force, Option.elim_some, lsbBits]
    · exact frameNum
    · simp only [SliceHeader.numbers, lsb, picOrderCntLsb, Option.getD_some]
      push_cast
      rfl

/-- After a picture the counters continue it. -/
theorem continues_emitted {ctx : Context} {job : Job} {log : List Item} {order : Order}
    (last : (orders log).head? = some order) (split : order.Split 8) (frameNum : order.frameNum = job.frameNum)
    (lsb : order.picOrderCntLsb = job.picOrderCntLsb) (nextFrameNum : ctx.frameNum = (job.frameNum + 1) % 2 ^ 8)
    (nextLsb : ctx.picOrderCntLsb = (job.picOrderCntLsb + 2) % 2 ^ 8) :
    Continues log ctx.frameNum ctx.picOrderCntLsb := by
  refine ⟨order, last, ?_, ?_⟩
  · rw [nextFrameNum, ← frameNum, split.frameNum, Nat.mod_add_mod]
  · have value : (job.picOrderCntLsb : ℤ) = 2 * order.sinceIdr % 2 ^ 8 := by rw [← lsb, split.lsb, split.poc]
    have natural : job.picOrderCntLsb = 2 * order.sinceIdr % 2 ^ 8 := by exact_mod_cast value
    rw [nextLsb, natural, Nat.mod_add_mod]

theorem headerCase {ctx : Context} {job : Job} (ordered : Ordered s) (streaming : s.context = some ctx)
    (phase : s.phase = .headers job) : Ordered (s.headerCase ctx job) := by
  have eightBits := ordered.eightBits ctx streaming
  obtain ⟨continues, frameNum, lsb⟩ := ordered.sampled ctx job streaming (by rw [phase]; rfl)
  have same : ∀ after, s.context = some after → after = ctx :=
    fun after also => Option.some.inj (also.symm.trans streaming)
  cases due : ctx.step with
  | start =>
    simp only [State.headerCase, due]
    refine ⟨ordered.split, ordered.eightBits, ordered.announced, ?_, ?_, ?_⟩
    · rintro job next ⟨⟩ past
      exact absurd past (lt_irrefl _)
    · rintro after - ⟨⟩
    · rintro after job also ⟨⟩
      obtain rfl := same after also
      exact ⟨continues, frameNum, lsb⟩
  | sps =>
    have force : SpsInForce (.sps (jobConfigureSps ctx s.input job) :: s.log) := by
      refine ⟨_, rfl, ?_, ?_⟩
      · simp only [jobConfigureSps, eightBits.1]
      · simp only [jobConfigureSps, eightBits.2.1]
    simp only [State.headerCase, due]
    refine ⟨ordered.split, ordered.eightBits, fun _ _ _ => force, fun _ _ _ _ => force, ?_, ?_⟩
    · rintro after - ⟨⟩
    · rintro after job also ⟨⟩
      obtain rfl := same after also
      exact ⟨continues, frameNum, lsb⟩
  | pps =>
    have force : SpsInForce s.log := ordered.announced ctx streaming (by rw [due]; decide)
    simp only [State.headerCase, due]
    refine ⟨ordered.split, ordered.eightBits, fun _ _ _ => force, fun _ _ _ _ => force, ?_, ?_⟩
    · rintro after - ⟨⟩
    · rintro after job also ⟨⟩
      obtain rfl := same after also
      exact ⟨continues, frameNum, lsb⟩
  | slice =>
    have force : SpsInForce s.log := ordered.announced ctx streaming (by rw [due]; decide)
    have split := ordered.order_split eightBits force continues
    have numbers := Order.next_numbers ((jobConfigureSliceHeader ctx job).numbers (lastSps s.log)) (orders s.log).head?
    simp only [State.headerCase, due]
    refine ⟨?_, ordered.eightBits, fun _ _ _ => force, ?_, ?_, ?_⟩
    · intro order member
      rcases List.mem_cons.mp member with rfl | older
      · exact split
      · exact ordered.split order older
    · rintro job next ⟨⟩
    · rintro after also -
      obtain rfl := same after also
      have written : (jobConfigureSliceHeader after job).picOrderCntLsb = some job.picOrderCntLsb :=
        if_pos eightBits.2.2
      refine .inr (continues_emitted rfl split numbers.1 (numbers.2.trans ?_) frameNum lsb)
      simp only [SliceHeader.numbers, written, Option.getD_some]
    · rintro after job - ⟨⟩

theorem step {event : Event} {next : State} (ordered : Ordered s) (succeeds : Succeeds s event)
    (taken : H264.step s event = some next) : Ordered next := by
  cases taken_of_step taken with
  | writeCtrl ctrl value =>
    exact ordered.contextWritten (s.writeCtrl_phase ctrl value) (s.writeCtrl_log ctrl value)
      (s.writeCtrl_contextWritten ctrl value)
  | writeDone => exact ordered.contextWritten rfl rfl (s.writeDone_contextWritten _ _)
  | forceKeyFrame =>
    refine ordered.frame rfl rfl ?_
    intro after streaming
    obtain ⟨ctx, before, rfl⟩ := Option.map_eq_some_iff.mp streaming
    exact ⟨ctx, before, ordered.eightBits ctx before, rfl, rfl, rfl, le_rfl⟩
  | setInput =>
    exact ordered.frame rfl rfl fun after before =>
      ⟨after, before, ordered.eightBits after before, rfl, rfl, rfl, le_rfl⟩
  | streamOn width height free phase =>
    obtain ⟨same, log, start⟩ := s.setup_spec width height
    obtain ⟨ctx, streaming, counters⟩ := s.setup_counters width height
    have idle : (s.setup width height).phase = .idle := same.trans phase
    have only : ∀ after, (s.setup width height).context = some after → after = ctx :=
      fun after also => Option.some.inj (also.symm.trans streaming)
    constructor
    · rw [log]
      exact ordered.split
    · intro after also
      rw [only after also]
      have start : Context.EightBits
          { widthMbs := Math.divRoundUp width 16, heightMbs := Math.divRoundUp height 16 } := ⟨rfl, rfl, rfl⟩
      exact start.of_counters counters
    · intro after also due
      rw [start after also] at due
      exact absurd due (Nat.not_lt_zero _)
    · intro job next header
      rw [idle] at header
      cases header
    · intro after also _
      rw [only after also]
      exact .inl (congrArg Context.gopIndex counters)
    · intro after job _ current
      rw [idle] at current
      cases current
  | streamOff free phase =>
    refine ordered.frame rfl rfl ?_
    rintro after ⟨⟩
  | jobPrepare free phase streaming => exact ordered.jobPrepare streaming phase
  | @formatConfigured job phase =>
    refine ⟨ordered.split, ordered.eightBits, ordered.announced, ?_, ?_, ?_⟩
    · rintro job next ⟨⟩
    · rintro ctx - ⟨⟩
    · rintro ctx job streaming ⟨⟩
      exact ordered.sampled ctx job streaming (by rw [phase]; rfl)
  | formatFailed => cases succeeds
  | headerCase phase streaming => exact ordered.headerCase streaming phase
  | @headerStep ctx job next phase streaming =>
    refine ⟨ordered.split, ?_, ?_, ?_, ?_, ?_⟩
    · rintro after ⟨⟩
      exact ordered.eightBits ctx streaming
    · rintro after ⟨⟩ due
      exact ordered.announcing job next phase due
    · rintro job next ⟨⟩
    · rintro after - ⟨⟩
    · rintro after job ⟨⟩ ⟨⟩
      exact ordered.sampled ctx job streaming (by rw [phase]; rfl)
  | program phase => exact ordered.settle rfl rfl rfl rfl (by rw [phase]; rfl)
  | jobFinish done phase => exact ordered.settle rfl rfl rfl rfl (by rw [phase]; rfl)

theorem initial : Ordered {} where
  split _ member := by cases member
  eightBits _ streaming := by cases streaming
  announced _ streaming := by cases streaming
  announcing _ _ phase := by cases phase
  resting _ streaming := by cases streaming
  sampled _ _ streaming := by cases streaming

end Ordered

/-- Of the pictures since the start of a stream, the IDR pictures are every `G`-th; the GOP index and the next
job are in step with them. -/
structure ClosedSequence (G : ℕ) (start : List Item) (s : State) : Prop where
  registered : s.Registered
  streaming : s.context ≠ none
  sequence : ∃ new, s.log = new ++ start ∧
    (∀ n header, (slices new).reverse[n]? = some header → (header.nalUnitType = 5 ↔ G ∣ n)) ∧
    ∀ ctx, s.context = some ctx →
      match s.phase.headerJob with
      | none => ctx.gopIndex = (slices new).length % G
      | some job =>
          (job.frameType = .idr ↔ G ∣ (slices new).length) ∧ ctx.gopIndex = ((slices new).length + 1) % G

theorem slices_append (newer older : List Item) : slices (newer ++ older) = slices newer ++ slices older := by
  induction newer with
  | nil => rfl
  | cons item newer ih => cases item <;> simp only [List.cons_append, slices, ih]

/-- In a closed GOP every `G`-th job is an IDR job. -/
theorem Context.jobPrepare_closed {G pictures : ℕ} {ctx : Context} (closure : ctx.latched .gopClosure ≠ 0)
    (size : ctx.latched .gopSize = G) (unforced : ctx.forceKeyFrame = false) (positive : 0 < G) (small : G < 2 ^ 32)
    (gopIndex : ctx.gopIndex = pictures % G) :
    (ctx.jobPrepare.2.frameType = .idr ↔ G ∣ pictures) ∧ ctx.jobPrepare.1.gopIndex = (pictures + 1) % G := by
  constructor
  · rw [Context.jobPrepare_frameType, Context.nextFrameType, unforced, Context.gopFrameType, if_pos closure, gopIndex,
      Nat.dvd_iff_mod_eq_zero]
    split <;> simp_all
  · have bounded := Nat.mod_lt pictures positive
    have fits : (pictures % G + 1) % 2 ^ 32 = pictures % G + 1 := Nat.mod_eq_of_lt (by omega)
    simp only [Context.jobPrepare, if_pos closure, size, gopIndex, fits, Int.toNat_natCast, Nat.mod_add_mod]

namespace ClosedSequence

variable {G : ℕ} {start : List Item} {s : State}

/-- Nothing of the numbering changes. -/
theorem frame {next : State} (closed : ClosedSequence G start s) (registered : next.Registered)
    (log : ∃ others, next.log = others ++ s.log ∧ slices others = [])
    (job : next.phase.headerJob = s.phase.headerJob) (streaming : next.context ≠ none)
    (gopIndex : ∀ after, next.context = some after → ∃ ctx, s.context = some ctx ∧ after.gopIndex = ctx.gopIndex) :
    ClosedSequence G start next := by
  obtain ⟨others, log, none⟩ := log
  obtain ⟨new, grown, pictures, counted⟩ := closed.sequence
  have same : slices (others ++ new) = slices new := by rw [slices_append, none, List.nil_append]
  refine ⟨registered, streaming, others ++ new, ?_, ?_, fun after also => ?_⟩
  · rw [log, grown, List.append_assoc]
  · rw [same]
    exact pictures
  · obtain ⟨ctx, before, index⟩ := gopIndex after also
    rw [same, job, index]
    exact counted ctx before

/-- Nothing of the log changes. -/
theorem rest {next : State} (closed : ClosedSequence G start s) (registered : next.Registered) (log : next.log = s.log)
    (job : next.phase.headerJob = s.phase.headerJob) (streaming : next.context ≠ none)
    (gopIndex : ∀ after, next.context = some after → ∃ ctx, s.context = some ctx ∧ after.gopIndex = ctx.gopIndex) :
    ClosedSequence G start next :=
  closed.frame registered ⟨[], log, rfl⟩ job streaming gopIndex

theorem contextWritten {next : State} (closed : ClosedSequence G start s) (registered : next.Registered)
    (log : next.log = s.log) (phase : next.phase = s.phase)
    (counters : next.context.map Context.counters = s.context.map Context.counters) : ClosedSequence G start next := by
  obtain ⟨ctx, before⟩ := Option.ne_none_iff_exists'.mp closed.streaming
  rw [before] at counters
  obtain ⟨after, streaming, same⟩ := Option.map_eq_some_iff.mp counters
  refine closed.rest registered log (by rw [phase]) (by rw [streaming]; exact Option.some_ne_none _) ?_
  intro other also
  obtain rfl := Option.some.inj (streaming.symm.trans also)
  exact ⟨ctx, before, (Context.of_counters same).1⟩

theorem headerCase {ctx : Context} {job : Job} (closed : ClosedSequence G start s) (streaming : s.context = some ctx)
    (phase : s.phase = .headers job) (registered : (s.headerCase ctx job).Registered) :
    ClosedSequence G start (s.headerCase ctx job) := by
  have current : s.phase.headerJob = some job := by rw [phase]; rfl
  have still : ∀ after, s.context = some after → ∃ ctx, s.context = some ctx ∧ after.gopIndex = ctx.gopIndex :=
    fun after also => ⟨after, also, rfl⟩
  revert registered
  simp only [State.headerCase]
  cases ctx.step with
  | start => exact fun registered => closed.rest registered rfl current.symm closed.streaming still
  | sps | pps => exact fun registered => closed.frame registered ⟨[_], rfl, rfl⟩ current.symm closed.streaming still
  | slice =>
    intro registered
    obtain ⟨new, grown, pictures, counted⟩ := closed.sequence
    refine ⟨registered, closed.streaming, .slice (jobConfigureSliceHeader ctx job) job :: new, ?_, ?_, ?_⟩
    · rw [grown]
      rfl
    · intro n header found
      obtain ⟨idr, -⟩ : (job.frameType = .idr ↔ G ∣ (slices new).length) ∧ _ := by
        have counted := counted ctx streaming
        rw [current] at counted
        exact counted
      rw [slices, List.reverse_cons] at found
      rcases Nat.lt_or_ge n (slices new).length with old | late
      · rw [List.getElem?_append_left (by rwa [List.length_reverse])] at found
        exact pictures n header found
      · rw [List.getElem?_append_right (by rwa [List.length_reverse]), List.length_reverse] at found
        cases index : n - (slices new).length with
        | succ =>
          rw [index] at found
          cases found
        | zero =>
          rw [index] at found
          obtain rfl := Option.some.inj found
          have last : n = (slices new).length := by omega
          rw [last, ← idr]
          by_cases type : job.frameType = .idr <;> simp [jobConfigureSliceHeader, type]
    · intro after also
      have counted := counted after also
      rw [current] at counted
      exact counted.2

theorem step {event : Event} {next : State} (closed : ClosedSequence G start s) (gop : ClosedGop G s event)
    (taken : H264.step s event = some next) : ClosedSequence G start next := by
  have registered := closed.registered.step taken
  cases taken_of_step taken with
  | writeCtrl ctrl value =>
    exact closed.contextWritten registered (s.writeCtrl_log ctrl value) (s.writeCtrl_phase ctrl value)
      (s.writeCtrl_counters ctrl value)
  | writeDone => exact closed.contextWritten registered rfl rfl (s.writeDone_counters _ _)
  | forceKeyFrame =>
    refine closed.rest registered rfl rfl ?_ ?_
    · rw [ne_eq, Option.map_eq_none_iff]
      exact closed.streaming
    · intro after streaming
      obtain ⟨ctx, before, rfl⟩ := Option.map_eq_some_iff.mp streaming
      exact ⟨ctx, before, rfl⟩
  | setInput => exact closed.rest registered rfl rfl closed.streaming fun after also => ⟨after, also, rfl⟩
  | streamOn =>
    simp only [H264.step] at taken
    split at taken
    case h_1 stopped => exact absurd stopped closed.streaming
    case h_2 => cases taken
  | streamOff => cases gop
  | @jobPrepare ctx free phase streaming =>
    obtain ⟨closure, size, unforced⟩ := gop ctx streaming
    have range := closed.registered.all ctx streaming .gopSize
    have positive : 0 < G ∧ G < 2 ^ 32 := by
      simp only [Ctrl.InRange, Ctrl.config] at range
      omega
    obtain ⟨new, grown, pictures, counted⟩ := closed.sequence
    refine ⟨registered, Option.some_ne_none _, new, grown, pictures, ?_⟩
    rintro after ⟨⟩
    have counted := counted ctx streaming
    rw [phase] at counted
    exact Context.jobPrepare_closed closure size unforced positive.1 positive.2 counted
  | @formatConfigured job phase =>
    exact closed.rest registered rfl (by rw [phase]; rfl) closed.streaming fun after also => ⟨after, also, rfl⟩
  | formatFailed => cases gop
  | headerCase phase streaming => exact closed.headerCase streaming phase registered
  | @headerStep ctx job raised phase streaming =>
    refine closed.rest registered rfl (by rw [phase]; rfl) (Option.some_ne_none _) ?_
    rintro after ⟨⟩
    exact ⟨ctx, streaming, rfl⟩
  | program phase =>
    exact closed.frame registered ⟨[_], rfl, rfl⟩ (by rw [phase]; rfl) closed.streaming
      fun after also => ⟨after, also, rfl⟩
  | jobFinish done phase =>
    exact closed.frame registered ⟨[_], rfl, rfl⟩ (by rw [phase]; rfl) closed.streaming
      fun after also => ⟨after, also, rfl⟩

/-- A stream starts with no picture. -/
theorem streamOn {width height : ℕ} {next : State} (registered : next.Registered)
    (taken : H264.step s (.streamOn width height) = some next) : ClosedSequence G next.log next := by
  cases taken_of_step taken with
  | streamOn _ _ free phase =>
    obtain ⟨ctx, streaming, counters⟩ := s.setup_counters width height
    have idle := (s.setup_spec width height).1.trans phase
    generalize s.setup width height = next at registered streaming idle
    refine ⟨registered, by rw [streaming]; exact Option.some_ne_none _, [], rfl, ?_, ?_⟩
    · intro n header found
      cases found
    · intro after also
      obtain rfl := Option.some.inj (streaming.symm.trans also)
      rw [idle]
      exact (congrArg Context.gopIndex counters).trans (Nat.zero_mod G).symm

end ClosedSequence

/-- In every run in which no job fails, a decoder derives order count `2 * k` and frame number `k` for the
`k`-th picture after an IDR picture. While a stream finds its GOP closed, of one size, and no key frame
requested, its IDR pictures are those whose index is a multiple of that size. -/
theorem pictures_in_sequence (events : List Event) (final : State) (succeeds : Guarded step Succeeds {} events)
    (reached : run step {} events = some final) :
    (∀ order ∈ orders final.log, order.InSequence 8) ∧
      ∀ (G width height : ℕ) (before stream : List Event) (start : State),
        events = before ++ .streamOn width height :: stream →
        run step {} (before ++ [.streamOn width height]) = some start → Guarded step (ClosedGop G) start stream →
        ∃ new, final.log = new ++ start.log ∧
          ∀ n header, (slices new).reverse[n]? = some header → (header.nalUnitType = 5 ↔ G ∣ n) := by
  constructor
  · intro order member
    exact ((succeeds.run_preserves Ordered Ordered.step .initial reached).split order member).toInSequence
  · rintro G width height before stream start rfl started gop
    have whole : run step {} ((before ++ [.streamOn width height]) ++ stream) = some final := by
      rw [List.append_assoc]
      exact reached
    obtain ⟨middle, same, reached⟩ := run_append.mp whole
    obtain rfl := Option.some.inj (started.symm.trans same)
    have registered := run_preserves State.Registered State.Registered.step .initial started
    obtain ⟨idle, -, started⟩ := run_append.mp started
    obtain ⟨opened, taken, ended⟩ := run_cons_iff.mp started
    rw [Option.some.inj ended] at taken
    have opened : ClosedSequence G start.log start := .streamOn registered taken
    obtain ⟨new, grown, pictures, -⟩ :=
      (gop.run_preserves (ClosedSequence G start.log) ClosedSequence.step opened reached).sequence
    exact ⟨new, grown, pictures⟩

/-- An IDR picture and a P picture, with nothing written before. -/
def twoPictures : List Event := firstHeaders ++ lastHeader ++ sliceOnly

theorem pictures_in_sequence_two :
    ∃ start final, run step {} [.streamOn 1280 720] = some start ∧
      run step {} (.streamOn 1280 720 :: twoPictures) = some final ∧ (slices final.log).length = 2 ∧
      ∃ new, final.log = new ++ start.log ∧
        ∀ n header, (slices new).reverse[n]? = some header → (header.nalUnitType = 5 ↔ 12 ∣ n) :=
  ⟨_, _, rfl, rfl, rfl, (pictures_in_sequence (.streamOn 1280 720 :: twoPictures) _ (by decide) rfl).2 12 1280 720 []
    twoPictures _ rfl rfl (by decide)⟩

end H618Vpu.H264
