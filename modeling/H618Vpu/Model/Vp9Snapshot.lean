import H618Vpu.Machine.Reading
import H618Vpu.Model.Vp9Decoder

/-! # A VP9 job reading its controls while they can be written

`cedrus_dec_vp9_job_prepare` stores pointers to the payloads of the two VP9 controls, and
`job_configure` and `job_finish` read through them, word by word, without the lock of the control
handler. A direct `S_EXT_CTRLS` replaces a payload at any time. The two callbacks are programs that
read: which word comes next is decided by the values read so far, as the branches of the source
decide it, and a tape interleaves the reads with writes. Of the payloads, the words `job_finish`
takes something from are followed, with the ones that decide when they are read.
-/

namespace H618Vpu.Vp9.Snapshot

open Machine Reading

/-- The payloads of the frame and the compressed header control; `featureEnabled` is
`seg.feature_enabled`. -/
structure Controls where
  frame : Frame
  featureEnabled : Fin 8 → Fin 4 → Bool := fun _ _ => false
  compressedHdr : CompressedHdr

/-- The words of the payloads. -/
inductive Word where
  | width
  | height
  | flags
  | profile
  | bitDepth
  | segFlags
  | segFeatureEnabled
  | interpolationFilter
  | referenceMode
  | txMode
deriving DecidableEq, Repr

/-- What `cedrus_dec_vp9_job_finish` takes from a word. -/
inductive Field where
  | segEnabled
  | segUpdateMap
  | isIntra
  | refreshFrameCtx
  | parallelDecMode
  | referenceMode
  | interpolationFilter
  | txMode
  | allowHighPrecMv
  | bitDepth
  | width
  | height
  | showFrame
  | keyFrame
deriving DecidableEq, Repr

def Field.word : Field → Word
  | .segEnabled | .segUpdateMap => .segFlags
  | .isIntra | .refreshFrameCtx | .parallelDecMode | .allowHighPrecMv | .showFrame | .keyFrame => .flags
  | .referenceMode => .referenceMode
  | .interpolationFilter => .interpolationFilter
  | .txMode => .txMode
  | .bitDepth => .bitDepth
  | .width => .width
  | .height => .height

/-- The same is taken from both payloads. -/
def Field.Same (a b : Controls) : Field → Prop
  | .segEnabled => a.frame.seg.enabled = b.frame.seg.enabled
  | .segUpdateMap => a.frame.seg.updateMap = b.frame.seg.updateMap
  | .isIntra => a.frame.isIntra = b.frame.isIntra
  | .refreshFrameCtx => a.frame.refreshFrameCtx = b.frame.refreshFrameCtx
  | .parallelDecMode => a.frame.parallelDecMode = b.frame.parallelDecMode
  | .referenceMode => a.frame.referenceMode = b.frame.referenceMode
  | .interpolationFilter => a.frame.interpolationFilter = b.frame.interpolationFilter
  | .txMode => a.compressedHdr.txMode = b.compressedHdr.txMode
  | .allowHighPrecMv => a.frame.allowHighPrecMv = b.frame.allowHighPrecMv
  | .bitDepth => a.frame.bitDepth = b.frame.bitDepth
  | .width => a.frame.frameWidthMinus1 = b.frame.frameWidthMinus1
  | .height => a.frame.frameHeightMinus1 = b.frame.frameHeightMinus1
  | .showFrame => a.frame.showFrame = b.frame.showFrame
  | .keyFrame => a.frame.keyFrame = b.frame.keyFrame

instance (a b : Controls) (field : Field) : Decidable (field.Same a b) := by
  cases field <;> dsimp only [Field.Same] <;> infer_instance

/-- A callback reading the payloads. -/
abbrev Configuring := Reading Word Controls
abbrev Finishing := Reading Field Controls

def getFlag (flag : Frame → Bool) : Configuring Bool := get .flags fun seen => flag seen.frame

def getTxMode : Configuring ℕ := get .txMode (·.compressedHdr.txMode)

def getSegEnabled : Configuring Bool := get .segFlags (·.frame.seg.enabled)

/-- `frame->profile == profile && frame->bit_depth == bitDepth`. -/
def profileWith (profile bitDepth : ℕ) : Configuring Bool :=
  (get .profile fun seen => decide (seen.frame.profile = profile)).and
    (get .bitDepth fun seen => decide (seen.frame.bitDepth = bitDepth))

/-- The local variables of `cedrus_dec_vp9_job_configure`, with `intra_only` for the result;
`high_bit_depth` decides no later read. -/
def locals : Configuring Bool := do
  skip [.width, .height]
  let intraOnly ← getFlag Frame.isIntra
  let _highBitDepth ← profileWith 2 10
  return intraOnly

/-- The profile and the bit depth in the support check. -/
def supportedProfile : Configuring Unit := do
  if !(← (profileWith 0 8).or (profileWith 2 10)) then failed

/-- The transform mode in the support check. -/
def supportedTxMode : Configuring Unit := do
  if txModeSelect < (← getTxMode) then failed

/-- The bit depths the references are compared with. -/
def referenceReads : Configuring Unit := do
  if !(← getFlag (·.keyFrame)) then skip [.bitDepth, .bitDepth, .bitDepth]

/-- `use_previous_mvs`; `previousValid` is `previous_valid` of the context. -/
def usePreviousMvsReads (intraOnly previousValid : Bool) : Configuring Unit := do
  if !intraOnly && previousValid then skip [.flags]

/-- `cedrus_vp9_reset_frame_ctx`. -/
def resetFrameCtxReads : Configuring Unit := do
  if ← (getFlag (·.keyFrame)).or ((getFlag (·.intraOnly)).or (getFlag (·.errorResilient))) then
    let _all ← (getFlag (·.keyFrame)).or (getFlag (·.errorResilient))

/-- `update_coef_probs` compares the transform mode after each size of `coef`. -/
def updateCoefProbsReads : List ℕ → Configuring Unit
  | [] => return
  | size :: rest => do
      if (← getTxMode) = size then return else updateCoefProbsReads rest

/-- The rest of `cedrus_vp9_fw_update_probs` on inter frames; `update_mv_probs` tests
`ALLOW_HIGH_PREC_MV` for both components. -/
def fwUpdateInterReads : Configuring Unit := do
  if !(← (getFlag (·.keyFrame)).or (getFlag (·.intraOnly))) then
    skip [.interpolationFilter, .referenceMode, .flags, .flags]

/-- `cedrus_vp9_fw_update_probs`. -/
def fwUpdateProbsReads : Configuring Unit := do
  skip [.txMode]
  updateCoefProbsReads [0, 1, 2, 3]
  fwUpdateInterReads

/-- Whether the segment maps are cleared. -/
def clearMapsReads (intraOnly : Bool) : Configuring Unit := do
  if !intraOnly then skip [.flags]

/-- `VE_DEC_VP9_HDR_SYNC`, and the branch of the size registers. -/
def headerReads : Configuring Unit := do
  if !(← getFlag (·.keyFrame)) then skip [.flags, .interpolationFilter]

/-- `cedrus_vp9_segment_value`; an enabled feature tests `ABS_OR_DELTA_UPDATE`. -/
def segmentValueReads (feature : Fin 4) (segment : Fin 8) : Configuring Unit := do
  if ← getSegEnabled.and (get .segFeatureEnabled (·.featureEnabled segment feature)) then skip [.segFlags]

/-- The loop of `cedrus_vp9_dequant_write`, whose bound is read again for each segment. -/
def dequantReads : List (Fin 8) → Configuring Unit
  | [] => skip [.segFlags]
  | segment :: rest => do
      if segment.val < (if ← getSegEnabled then 8 else 1) then
        segmentValueReads 0 segment
        dequantReads rest

/-- `cedrus_vp9_loop_filter_write`. -/
def loopFilterReads : List (Fin 8) → Configuring Unit
  | [] => return
  | segment :: rest => do
      segmentValueReads 1 segment
      loopFilterReads rest

/-- `cedrus_dec_vp9_job_configure` up to its success. -/
def jobConfigure (previousValid : Bool) : Configuring Unit := do
  let intraOnly ← locals
  supportedProfile
  supportedTxMode
  referenceReads
  usePreviousMvsReads intraOnly previousValid
  -- the segment map window
  skip [.segFlags]
  resetFrameCtxReads
  fwUpdateProbsReads
  -- `cedrus_vp9_pack_probs`
  skip [.segFlags]
  clearMapsReads intraOnly
  headerReads
  -- the rest of the header word, the size registers and `cedrus_vp9_segment_features`
  skip [.bitDepth, .flags, .segFlags, .segFlags, .segFlags, .txMode, .flags, .segFlags]
  -- the tables of `cedrus_vp9_dequant_write`
  skip [.bitDepth, .bitDepth]
  dequantReads (List.finRange 8)
  loopFilterReads (List.finRange 8)
  skip [.segFlags]

/-- The segment map is taken over. -/
def finishSegmentMapReads : Finishing Unit := do
  if ← get .segEnabled (·.frame.seg.enabled) then skip [.segUpdateMap]

/-- The entropy context is saved; the last words are the arguments of
`cedrus_vp9_adapt_noncoef_probs`. -/
def finishEntropyReads : Finishing Unit := do
  let frameIsIntra ← get .isIntra (·.frame.isIntra)
  if ← get .refreshFrameCtx (·.frame.refreshFrameCtx) then
    if !(← get .parallelDecMode (·.frame.parallelDecMode)) then
      if !frameIsIntra then skip [.referenceMode, .interpolationFilter, .txMode, .allowHighPrecMv]

/-- The 10-bit surface is moved and padded; `recon` says whether the buffer has one. -/
def finishReconReads (recon : Bool) : Finishing Unit := do
  if (← get .bitDepth (·.frame.bitDepth)) = 10 && recon then skip [.width, .height]

/-- `cedrus_dec_vp9_job_finish` after a success; last the record of the buffer and the previous
frame. -/
def jobFinish (recon : Bool) : Finishing Unit := do
  finishSegmentMapReads
  finishEntropyReads
  finishReconReads recon
  skip [.width, .height, .bitDepth, .showFrame, .isIntra, .keyFrame]

/-- How far the job is, with what is left of the callback. -/
inductive Phase where
  | idle
  | configuring (rest : Configuring Unit)
  | running
  | finishing (rest : Finishing Unit)

/-- The payloads as they are, and for the latest job what each read of the two callbacks saw. -/
structure State where
  payload : Controls
  phase : Phase := .idle
  programmed : List (Word × Controls) := []
  used : List (Field × Controls) := []

inductive Event where
  | writeFrame (frame : Frame) (featureEnabled : Fin 8 → Fin 4 → Bool)
  | writeCompressedHdr (compressedHdr : CompressedHdr)
  | jobPrepare (previousValid : Bool)
  | read
  | jobTrigger
  | jobFailed
  | jobDone (recon : Bool)
  | finished

/-- One read, one write, or one change of the phase. `job_configure` can also fail for reasons that
are not followed here; a job that fails in it or is finished with an error reads nothing more. -/
def step (s : State) : Event → Option State
  | .writeFrame frame featureEnabled => some { s with payload := { s.payload with frame, featureEnabled } }
  | .writeCompressedHdr compressedHdr => some { s with payload := { s.payload with compressedHdr } }
  | .jobPrepare previousValid =>
      match s.phase with
      | .idle => some { payload := s.payload, phase := .configuring (jobConfigure previousValid) }
      | _ => none
  | .read =>
      match s.phase with
      | .configuring (.read word next) =>
          some { s with phase := .configuring (next s.payload), programmed := (word, s.payload) :: s.programmed }
      | .finishing (.read field next) =>
          some { s with phase := .finishing (next s.payload), used := (field, s.payload) :: s.used }
      | _ => none
  | .jobTrigger =>
      match s.phase with
      | .configuring (.done ()) => some { s with phase := .running }
      | _ => none
  | .jobFailed =>
      match s.phase with
      | .configuring _ | .running => some { s with phase := .idle }
      | _ => none
  | .jobDone recon =>
      match s.phase with
      | .running => some { s with phase := .finishing (jobFinish recon) }
      | _ => none
  | .finished =>
      match s.phase with
      | .finishing (.done ()) => some { s with phase := .idle }
      | _ => none

end H618Vpu.Vp9.Snapshot
