import H618Vpu.Math.Align
import H618Vpu.Model.H264Controls

/-! # The H.264 encoder: controls, jobs and parameter sets

The encoder context latches the controls, a job samples the context under the lock of the control
handler, and the headers are emitted later without it: `state->step` says which parameter set is due,
control writes lower it and the emission raises it. Each event below is one atomic section: of a control
write (under the handler's lock) separately what its handler latches and what it lowers `step` to, the
sampling in `job_prepare` (under the same lock), and of the loop in `job_configure_headers` separately the
case that emits and the store to `step` that follows it. The loop only raises `step`, so the test and the
store of a handler that lowers it count as one section. Stream starts and stops hold the lock of the node,
as control writes do.

The log holds what is written to the coded buffers and the encoder registers, the newest first; of a
parameter set and a slice header it has the elements that vary.
-/

namespace H618Vpu.H264

open Math

/-- `enum cedrus_enc_h264_step` -/
inductive Step where
  | start
  | sps
  | pps
  | slice
deriving DecidableEq, Repr

/-- The values of the enumeration, by which the code compares. -/
def Step.rank : Step → ℕ
  | start => 0
  | sps => 1
  | pps => 2
  | slice => 3

/-- `state->step` lowered to `bound` if it is above. -/
def Step.lower (step bound : Step) : Step := if bound.rank < step.rank then bound else step

/-- `enum cedrus_enc_h264_frame_type` -/
inductive FrameType where
  | idr
  | i
  | p
  | b
deriving DecidableEq, Repr

/-- `struct cedrus_enc_h264_context` with its state. -/
structure Context where
  step : Step := .start
  gopIndex : ℕ := 0
  frameNum : ℕ := 0
  picOrderCntLsb : ℕ := 0
  qpInit : ℤ := 0
  widthMbs : ℕ
  heightMbs : ℕ
  picOrderCntType : ℕ := 0
  log2MaxPicOrderCntLsb : ℕ := 8
  log2MaxFrameNum : ℕ := 8
  latched : Ctrl → ℤ := fun _ => 0
  forceKeyFrame : Bool := false

/-- `struct cedrus_enc_h264_job` -/
structure Job where
  nalRefIdc : ℕ
  frameType : FrameType
  frameNum : ℕ
  picOrderCntLsb : ℕ
  qp : ℤ
  seqParameterSetId : ℕ
  picParameterSetId : ℕ
  idrPicId : ℕ
  profileIdc : ℕ
  levelIdc : ℕ
  constraintSetFlags : ℕ
  entropyCodingModeFlag : ℕ
  chromaQpIndexOffset : ℤ
  disableDeblockingFilterIdc : ℕ
  sliceAlphaC0OffsetDiv2 : ℤ
  sliceBetaOffsetDiv2 : ℤ
  cabacInitIdc : ℕ

/-- What the SPS writer reads of the file beside the encoder: the selection and the frame interval. -/
structure Input where
  left : UInt32 := 0
  top : UInt32 := 0
  width : UInt32 := 1280
  height : UInt32 := 720
  numerator : UInt32 := 1
  denominator : UInt32 := 25

structure Sps where
  profileIdc : ℕ
  constraintSetFlags : ℕ
  levelIdc : ℕ
  seqParameterSetId : ℕ
  log2MaxFrameNumMinus4 : ℕ
  log2MaxPicOrderCntLsbMinus4 : ℕ
  picWidthInMbsMinus1 : ℕ
  picHeightInMapUnitsMinus1 : ℕ
  /-- left, right, top and bottom offset -/
  frameCrop : Option (UInt32 × UInt32 × UInt32 × UInt32)
  /-- aspect_ratio_idc, and the extended width and height -/
  aspectRatio : Option (ℕ × Option (ℤ × ℤ))
  numUnitsInTick : UInt32
  timeScale : UInt32

structure Pps where
  picParameterSetId : ℕ
  seqParameterSetId : ℕ
  entropyCodingModeFlag : ℕ
  picInitQpMinus26 : ℤ
  picInitQsMinus26 : ℤ
  chromaQpIndexOffset : ℤ

structure SliceHeader where
  nalUnitType : ℕ
  nalRefIdc : ℕ
  sliceType : ℕ
  picParameterSetId : ℕ
  frameNum : ℕ
  idrPicId : Option ℕ
  picOrderCntLsb : Option ℕ
  cabacInitIdc : Option ℕ
  sliceQpDelta : ℤ
  disableDeblockingFilterIdc : ℕ
  sliceOffsetsDiv2 : Option (ℤ × ℤ)

/-- The fields of `VE_ENC_AVC_PARA0_REG` and `VE_ENC_AVC_PARA1_REG` that come from the job. -/
structure Registers where
  entropyCoding : ℕ
  fixModeNum : ℕ
  sliceTypeP : Bool
  alphaOffsetDiv2 : ℕ
  betaOffsetDiv2 : ℕ
  qpChromaOffset : ℕ
  fixedQp : ℕ

/-- What the encoder writes for a job, and how the job ends. A slice header comes with its job. -/
inductive Item where
  | sps (sps : Sps)
  | pps (pps : Pps)
  | slice (header : SliceHeader) (job : Job)
  | program (registers : Registers)
  | finish (done : Bool)

/-- The type of the next frame by its position in the GOP. -/
def Context.gopFrameType (ctx : Context) : FrameType :=
  if ctx.latched .gopClosure ≠ 0 then
    if ctx.gopIndex = 0 then .idr else .p
  else if ctx.gopIndex = 0 then .idr
  else if 0 < ctx.latched .gopOpenIPeriod ∧ ctx.gopIndex % (ctx.latched .gopOpenIPeriod).toNat = 0 then .i
  else .p

/-- `job->qp`, clamped. -/
def Context.jobQp (ctx : Context) (frameType : FrameType) : ℤ :=
  let qp :=
    match frameType with
    | .idr | .i => ctx.latched .qpI
    | .p => ctx.latched .qpP
    | .b => 0
  if ctx.latched .qpMax < qp then ctx.latched .qpMax
  else if qp < ctx.latched .qpMin then ctx.latched .qpMin
  else qp

/-- `cedrus_enc_h264_job_prepare` -/
def Context.jobPrepare (ctx : Context) : Context × Job :=
  let frameType := if ctx.forceKeyFrame then .idr else ctx.gopFrameType
  let gopIndex := (ctx.gopIndex + 1) % 2 ^ 32
  let gopIndex := if ctx.latched .gopClosure ≠ 0 then gopIndex % (ctx.latched .gopSize).toNat else gopIndex
  let idr : Bool := frameType = .idr
  let frameNum := if idr then 0 else ctx.frameNum
  let picOrderCntLsb := if idr then 0 else ctx.picOrderCntLsb
  let step := if idr ∧ ctx.latched .prependSpsPpsIdr ≠ 0 then .sps else ctx.step
  let cabac : Bool := ctx.latched .entropyMode = entropyModeCabac
  let disableDeblockingFilterIdc := disableDeblockingFilterIdc (ctx.latched .loopFilterMode)
  let qp := ctx.jobQp frameType
  ({ ctx with
      step, gopIndex
      frameNum := (frameNum + 1) % 2 ^ ctx.log2MaxFrameNum
      picOrderCntLsb := (picOrderCntLsb + 2) % 2 ^ ctx.log2MaxPicOrderCntLsb
      forceKeyFrame := false
      -- the initial QP is set to the current one with each new PPS
      qpInit := if step.rank < Step.slice.rank then qp else ctx.qpInit },
    { nalRefIdc := 2
      frameType, frameNum, picOrderCntLsb, qp
      seqParameterSetId := 0
      picParameterSetId := 0
      idrPicId := 0
      profileIdc := profileIdc (ctx.latched .profile)
      levelIdc := levelIdc (ctx.latched .level)
      constraintSetFlags := constraintSetFlags (ctx.latched .profile)
      entropyCodingModeFlag := if cabac then 1 else 0
      chromaQpIndexOffset := ctx.latched .chromaQpIndexOffset
      disableDeblockingFilterIdc
      sliceAlphaC0OffsetDiv2 := if disableDeblockingFilterIdc ≠ 1 then ctx.latched .loopFilterAlpha else 0
      sliceBetaOffsetDiv2 := if disableDeblockingFilterIdc ≠ 1 then ctx.latched .loopFilterBeta else 0
      cabacInitIdc := if cabac ∧ frameType ≠ .idr ∧ frameType ≠ .i then 1 else 0 })

/-- The cropping of `cedrus_enc_h264_job_configure_sps`, in 32-bit arithmetic. -/
def Input.frameCrop (input : Input) (codedWidth codedHeight : UInt32) :
    Option (UInt32 × UInt32 × UInt32 × UInt32) :=
  if input.left ≠ 0 ∨ input.top ≠ 0 ∨ input.width ≠ codedWidth ∨ input.height ≠ codedHeight then
    some (input.left / 2, (codedWidth - input.width - input.left) / 2, input.top / 2,
      (codedHeight - input.height - input.top) / 2)
  else none

/-- `cedrus_enc_h264_job_configure_sps` -/
def jobConfigureSps (ctx : Context) (input : Input) (job : Job) : Sps where
  profileIdc := job.profileIdc
  constraintSetFlags := job.constraintSetFlags
  levelIdc := job.levelIdc
  seqParameterSetId := job.seqParameterSetId
  log2MaxFrameNumMinus4 := ctx.log2MaxFrameNum - 4
  log2MaxPicOrderCntLsbMinus4 := ctx.log2MaxPicOrderCntLsb - 4
  picWidthInMbsMinus1 := ctx.widthMbs - 1
  picHeightInMapUnitsMinus1 := ctx.heightMbs - 1
  frameCrop := input.frameCrop (.ofNat (ctx.widthMbs * 16)) (.ofNat (ctx.heightMbs * 16))
  aspectRatio :=
    if ctx.latched .vuiSarEnable ≠ 0 then
      some (vuiSarIdcElement (ctx.latched .vuiSarIdc),
        if ctx.latched .vuiSarIdc = 17 then
          some (ctx.latched .vuiExtSarWidth, ctx.latched .vuiExtSarHeight)
        else none)
    else none
  numUnitsInTick := input.numerator
  timeScale := input.denominator * 2

/-- `cedrus_enc_h264_job_configure_pps` -/
def jobConfigurePps (ctx : Context) (job : Job) : Pps where
  picParameterSetId := job.picParameterSetId
  seqParameterSetId := job.seqParameterSetId
  entropyCodingModeFlag := job.entropyCodingModeFlag
  picInitQpMinus26 := ctx.qpInit - 26
  picInitQsMinus26 := ctx.qpInit - 26
  chromaQpIndexOffset := job.chromaQpIndexOffset

/-- `cedrus_enc_h264_job_configure_slice_header` -/
def jobConfigureSliceHeader (ctx : Context) (job : Job) : SliceHeader :=
  let idr : Bool := job.frameType = .idr
  let sliceType := if idr ∨ job.frameType = .i then 2 else 0
  { nalUnitType := if idr then 5 else 1
    nalRefIdc := job.nalRefIdc
    sliceType
    picParameterSetId := job.picParameterSetId
    frameNum := job.frameNum
    idrPicId := if idr then some job.idrPicId else none
    picOrderCntLsb := if ctx.picOrderCntType = 0 then some job.picOrderCntLsb else none
    cabacInitIdc := if sliceType ≠ 2 ∧ job.entropyCodingModeFlag ≠ 0 then some job.cabacInitIdc else none
    sliceQpDelta := job.qp - ctx.qpInit
    disableDeblockingFilterIdc := job.disableDeblockingFilterIdc
    sliceOffsetsDiv2 :=
      if job.disableDeblockingFilterIdc ≠ 1 then some (job.sliceAlphaC0OffsetDiv2, job.sliceBetaOffsetDiv2)
      else none }

/-- The lowest bits of a value, in two's complement. -/
def maskBits (value : ℤ) (bits : ℕ) : ℕ := (value % 2 ^ bits).toNat

/-- The job's part of the registers that `cedrus_enc_h264_job_configure` programs. -/
def jobRegisters (job : Job) : Registers where
  entropyCoding := if job.entropyCodingModeFlag ≠ 0 then 1 else 0
  fixModeNum := maskBits job.cabacInitIdc 2
  sliceTypeP := job.frameType = .p
  alphaOffsetDiv2 := maskBits job.sliceAlphaC0OffsetDiv2 4
  betaOffsetDiv2 := maskBits job.sliceBetaOffsetDiv2 4
  qpChromaOffset := maskBits job.chromaQpIndexOffset 3
  fixedQp := maskBits job.qp 6

/-- How far the job is. In `header` a case of the loop was taken and `step` is about to be set. -/
inductive Phase where
  | idle
  | prepared (job : Job)
  | headers (job : Job)
  | header (job : Job) (next : Step)
  | sliced (job : Job)
  | running (job : Job)

/-- One open encoder file: the values of its controls, the write in progress with its new value, the
context while it streams, and the job. -/
structure State where
  cur : Ctrl → ℤ := fun ctrl => ctrl.config.default
  writing : Option (Ctrl × ℤ) := none
  input : Input := {}
  context : Option Context := none
  phase : Phase := .idle
  log : List Item := []

/-- The step the handler of a control lowers `step` to, so that the parameter set with the value is due
again. -/
def Ctrl.lowers (ctrl : Ctrl) (step : Step) : Step :=
  match ctrl with
  | .profile | .level => step.lower .sps
  | .entropyMode => step.lower .pps
  | _ => step

def Context.latch (ctx : Context) (ctrl : Ctrl) (value : ℤ) : Context :=
  { ctx with latched := Function.update ctx.latched ctrl value }

def Context.lower (ctx : Context) (ctrl : Ctrl) : Context := { ctx with step := ctrl.lowers ctx.step }

namespace State

/-- `cedrus_enc_h264_ctrl_validate` -/
def ctrlValidate (s : State) (ctrl : Ctrl) (value : ℤ) : Bool :=
  match ctrl with
  | .entropyMode => value ≠ entropyModeCabac || profileCabacCheck (s.cur .profile)
  | _ => true

/-- `__v4l2_ctrl_s_ctrl` of the entropy mode to CAVLC, from the handler of the profile. -/
def setEntropyModeCavlc (s : State) (ctx : Context) : State × Context :=
  if s.cur .entropyMode = entropyModeCavlc then (s, ctx)
  else
    ({ s with cur := Function.update s.cur .entropyMode entropyModeCavlc },
      (ctx.latch .entropyMode (s.cur .entropyMode)).lower .entropyMode)

/-- `cedrus_enc_h264_ctrl_prepare` before it lowers `step`. During the call `ctrl->cur` still is the value
before the write. -/
def ctrlLatch (s : State) (ctrl : Ctrl) : State :=
  match s.context with
  | none => s
  | some ctx =>
      let ctx := ctx.latch ctrl (s.cur ctrl)
      let (s, ctx) :=
        if ctrl = .profile ∧ !profileCabacCheck (ctx.latched .profile) then s.setEntropyModeCavlc ctx else (s, ctx)
      { s with context := some ctx }

/-- The rest of `cedrus_enc_h264_ctrl_prepare`. -/
def ctrlLower (s : State) (ctrl : Ctrl) : State := { s with context := s.context.map (·.lower ctrl) }

/-- `cedrus_enc_h264_ctrl_prepare` -/
def ctrlPrepare (s : State) (ctrl : Ctrl) : State := (s.ctrlLatch ctrl).ctrlLower ctrl

/-- `S_CTRL` up to the lowering of `step`: a value that is refused or does not change calls no handler. -/
def writeCtrl (s : State) (ctrl : Ctrl) (value : ℤ) : State :=
  match ctrl.validateNew value with
  | none => s
  | some new =>
      if !s.ctrlValidate ctrl new ∨ new = s.cur ctrl then s
      else { s.ctrlLatch ctrl with writing := some (ctrl, new) }

/-- The rest of `S_CTRL`: the handler returns, and the control has its new value. -/
def writeDone (s : State) (ctrl : Ctrl) (new : ℤ) : State :=
  { s.ctrlLower ctrl with cur := Function.update s.cur ctrl new, writing := none }

/-- `cedrus_enc_h264_setup`, with the call of every handler by `v4l2_ctrl_handler_setup`. -/
def setup (s : State) (width height : ℕ) : State :=
  let ctx : Context := { widthMbs := divRoundUp width 16, heightMbs := divRoundUp height 16 }
  Ctrl.byId.foldl ctrlPrepare { s with context := some ctx }

/-- What the case of `cedrus_enc_h264_job_configure_headers` for the current step emits, and the phase
after it. -/
def headerCase (s : State) (ctx : Context) (job : Job) : State :=
  match ctx.step with
  | .start => { s with phase := .header job .sps }
  | .sps => { s with phase := .header job .pps, log := .sps (jobConfigureSps ctx s.input job) :: s.log }
  | .pps => { s with phase := .header job .slice, log := .pps (jobConfigurePps ctx job) :: s.log }
  | .slice => { s with phase := .sliced job, log := .slice (jobConfigureSliceHeader ctx job) job :: s.log }

end State

inductive Event where
  | writeCtrl (ctrl : Ctrl) (value : ℤ)
  | writeDone
  | forceKeyFrame
  | setInput (input : Input)
  | streamOn (width height : ℕ)
  | streamOff
  | jobPrepare
  | formatConfigure (ok : Bool)
  | headerCase
  | headerStep
  | program
  | jobFinish (done : Bool)

/-- One atomic section; `none` when it is not the turn of its thread, or a lock it takes is held by a
write. -/
def step (s : State) : Event → Option State
  | .writeCtrl ctrl value =>
      match s.writing with
      | none => some (s.writeCtrl ctrl value)
      | some _ => none
  | .writeDone =>
      match s.writing with
      | some (ctrl, new) => some (s.writeDone ctrl new)
      | none => none
  | .forceKeyFrame =>
      match s.writing with
      | none => some { s with context := s.context.map ({ · with forceKeyFrame := true }) }
      | some _ => none
  | .setInput input =>
      match s.writing with
      | none => some { s with input }
      | some _ => none
  | .streamOn width height =>
      match s.writing, s.phase, s.context with
      | none, .idle, none => some (s.setup width height)
      | _, _, _ => none
  | .streamOff =>
      match s.writing, s.phase with
      | none, .idle => some { s with context := none }
      | _, _ => none
  | .jobPrepare =>
      match s.writing, s.phase, s.context with
      | none, .idle, some ctx => some { s with context := some ctx.jobPrepare.1, phase := .prepared ctx.jobPrepare.2 }
      | _, _, _ => none
  | .formatConfigure ok =>
      match s.phase with
      | .prepared job =>
          let failed := { s with phase := .idle, log := .finish false :: s.log }
          some (if ok then { s with phase := .headers job } else failed)
      | _ => none
  | .headerCase =>
      match s.phase, s.context with
      | .headers job, some ctx => some (s.headerCase ctx job)
      | _, _ => none
  | .headerStep =>
      match s.phase, s.context with
      | .header job next, some ctx => some { s with phase := .headers job, context := some { ctx with step := next } }
      | _, _ => none
  | .program =>
      match s.phase with
      | .sliced job => some { s with phase := .running job, log := .program (jobRegisters job) :: s.log }
      | _ => none
  | .jobFinish done =>
      match s.phase with
      | .running _ => some { s with phase := .idle, log := .finish done :: s.log }
      | _ => none

end H618Vpu.H264
