import H618Vpu.Bits.ExpGolomb

/-! # The syntax of H.264 parameter sets

How a decoder reads a sequence or picture parameter set from the bits of its NAL unit, with the start code and
without emulation prevention: clauses 7.3.2.1, 7.3.2.2 and E.1, every element in its place and an element that
is conditional as an option.
-/

namespace H618Vpu.Spec.H264

open Bits (Reader)
open Bits.Reader

structure NalUnit where
  nalRefIdc : ℕ
  nalUnitType : ℕ
deriving DecidableEq, Repr

/-- The start code with its zero byte, and the header of the unit. -/
def nalUnit : Reader NalUnit := do
  let startCode ← bits 32
  guard (startCode = 1)
  let forbiddenZeroBit ← bit
  guard (forbiddenZeroBit = false)
  let nalRefIdc ← bits 2
  let nalUnitType ← bits 5
  pure { nalRefIdc, nalUnitType }

/-- `rbsp_trailing_bits` -/
def rbspTrailingBits : Reader Unit := do
  let rbspStopOneBit ← bit
  guard (rbspStopOneBit = true)
  alignZeros 8

/-- `more_rbsp_data`: the next bit is not the stop bit, which is the last one that is set. -/
def moreRbspData : Reader Bool := fun stream => some (stream.rest.tail.contains true, stream)

/-- The number of bits left, which bounds the length of a list. -/
def remaining : Reader ℕ := fun stream => some (stream.rest.length, stream)

/-- The entries of a `scaling_list` after the first one, from the last scale and the next one. -/
def scalingEntries : ℕ → ℕ → ℕ → Reader (List ℕ)
  | 0, _, _ => pure []
  | count + 1, lastScale, nextScale => do
      let deltaScale ← given (nextScale ≠ 0) se
      let nextScale := match deltaScale with
        | some delta => ((lastScale + delta + 256) % 256).toNat
        | none => nextScale
      let scale := if nextScale = 0 then lastScale else nextScale
      let later ← scalingEntries count scale nextScale
      pure (scale :: later)

/-- `scaling_list`; `none` stands for the default list. -/
def scalingList (size : ℕ) : Reader (Option (List ℕ)) := do
  let deltaScale ← se
  let nextScale := ((8 + deltaScale + 256) % 256).toNat
  given (nextScale ≠ 0) do
    let later ← scalingEntries (size - 1) nextScale nextScale
    pure (nextScale :: later)

/-- The lists of a scaling matrix, of which those from the seventh on are 8 by 8. -/
def scalingMatrix (count : ℕ) : Reader (List (Option (Option (List ℕ)))) :=
  (List.range count).mapM fun i => optionally (scalingList (if i < 6 then 16 else 64))

structure ChromaFormat where
  chromaFormatIdc : ℕ
  separateColourPlaneFlag : Option Bool
  bitDepthLumaMinus8 : ℕ
  bitDepthChromaMinus8 : ℕ
  qpprimeYZeroTransformBypassFlag : Bool
  seqScalingMatrix : Option (List (Option (Option (List ℕ))))
deriving DecidableEq, Repr

def chromaFormat : Reader ChromaFormat := do
  let chromaFormatIdc ← ue
  let separateColourPlaneFlag ← given (chromaFormatIdc = 3) bit
  let bitDepthLumaMinus8 ← ue
  let bitDepthChromaMinus8 ← ue
  let qpprimeYZeroTransformBypassFlag ← bit
  let seqScalingMatrix ← optionally (scalingMatrix (if chromaFormatIdc ≠ 3 then 8 else 12))
  pure
    { chromaFormatIdc, separateColourPlaneFlag, bitDepthLumaMinus8, bitDepthChromaMinus8
      qpprimeYZeroTransformBypassFlag, seqScalingMatrix }

/-- The elements of picture order count type 1. -/
structure PicOrderCntCycle where
  deltaPicOrderAlwaysZeroFlag : Bool
  offsetForNonRefPic : ℤ
  offsetForTopToBottomField : ℤ
  offsetForRefFrame : List ℤ
deriving DecidableEq, Repr

def picOrderCntCycle : Reader PicOrderCntCycle := do
  let deltaPicOrderAlwaysZeroFlag ← bit
  let offsetForNonRefPic ← se
  let offsetForTopToBottomField ← se
  let numRefFramesInPicOrderCntCycle ← ue
  let offsetForRefFrame ← times se numRefFramesInPicOrderCntCycle
  pure { deltaPicOrderAlwaysZeroFlag, offsetForNonRefPic, offsetForTopToBottomField, offsetForRefFrame }

structure FrameCropping where
  frameCropLeftOffset : ℕ
  frameCropRightOffset : ℕ
  frameCropTopOffset : ℕ
  frameCropBottomOffset : ℕ
deriving DecidableEq, Repr

def frameCropping : Reader FrameCropping := do
  let frameCropLeftOffset ← ue
  let frameCropRightOffset ← ue
  let frameCropTopOffset ← ue
  let frameCropBottomOffset ← ue
  pure { frameCropLeftOffset, frameCropRightOffset, frameCropTopOffset, frameCropBottomOffset }

/-- `aspect_ratio_idc`, and `sar_width` and `sar_height` if it is `Extended_SAR`. -/
structure AspectRatio where
  aspectRatioIdc : ℕ
  sar : Option (ℕ × ℕ)
deriving DecidableEq, Repr

def aspectRatio : Reader AspectRatio := do
  let aspectRatioIdc ← bits 8
  let sar ← given (aspectRatioIdc = 255) do
    let sarWidth ← bits 16
    let sarHeight ← bits 16
    pure (sarWidth, sarHeight)
  pure { aspectRatioIdc, sar }

/-- The last field has `colour_primaries`, `transfer_characteristics` and `matrix_coefficients`. -/
structure VideoSignalType where
  videoFormat : ℕ
  videoFullRangeFlag : Bool
  colourDescription : Option (ℕ × ℕ × ℕ)
deriving DecidableEq, Repr

def videoSignalType : Reader VideoSignalType := do
  let videoFormat ← bits 3
  let videoFullRangeFlag ← bit
  let colourDescription ← optionally do
    let colourPrimaries ← bits 8
    let transferCharacteristics ← bits 8
    let matrixCoefficients ← bits 8
    pure (colourPrimaries, transferCharacteristics, matrixCoefficients)
  pure { videoFormat, videoFullRangeFlag, colourDescription }

structure TimingInfo where
  numUnitsInTick : ℕ
  timeScale : ℕ
  fixedFrameRateFlag : Bool
deriving DecidableEq, Repr

def timingInfo : Reader TimingInfo := do
  let numUnitsInTick ← bits 32
  let timeScale ← bits 32
  let fixedFrameRateFlag ← bit
  pure { numUnitsInTick, timeScale, fixedFrameRateFlag }

/-- `bit_rate_value_minus1`, `cpb_size_value_minus1` and `cbr_flag` of each schedule, then the lengths of the
fields of timing messages. -/
structure HrdParameters where
  bitRateScale : ℕ
  cpbSizeScale : ℕ
  schedules : List (ℕ × ℕ × Bool)
  initialCpbRemovalDelayLengthMinus1 : ℕ
  cpbRemovalDelayLengthMinus1 : ℕ
  dpbOutputDelayLengthMinus1 : ℕ
  timeOffsetLength : ℕ
deriving DecidableEq, Repr

def hrdParameters : Reader HrdParameters := do
  let cpbCntMinus1 ← ue
  let bitRateScale ← bits 4
  let cpbSizeScale ← bits 4
  let schedule : Reader (ℕ × ℕ × Bool) := do
    let bitRateValueMinus1 ← ue
    let cpbSizeValueMinus1 ← ue
    let cbrFlag ← bit
    pure (bitRateValueMinus1, cpbSizeValueMinus1, cbrFlag)
  let schedules ← times schedule (cpbCntMinus1 + 1)
  let initialCpbRemovalDelayLengthMinus1 ← bits 5
  let cpbRemovalDelayLengthMinus1 ← bits 5
  let dpbOutputDelayLengthMinus1 ← bits 5
  let timeOffsetLength ← bits 5
  pure
    { bitRateScale, cpbSizeScale, schedules, initialCpbRemovalDelayLengthMinus1, cpbRemovalDelayLengthMinus1
      dpbOutputDelayLengthMinus1, timeOffsetLength }

structure BitstreamRestriction where
  motionVectorsOverPicBoundariesFlag : Bool
  maxBytesPerPicDenom : ℕ
  maxBitsPerMbDenom : ℕ
  log2MaxMvLengthHorizontal : ℕ
  log2MaxMvLengthVertical : ℕ
  maxNumReorderFrames : ℕ
  maxDecFrameBuffering : ℕ
deriving DecidableEq, Repr

def bitstreamRestriction : Reader BitstreamRestriction := do
  let motionVectorsOverPicBoundariesFlag ← bit
  let maxBytesPerPicDenom ← ue
  let maxBitsPerMbDenom ← ue
  let log2MaxMvLengthHorizontal ← ue
  let log2MaxMvLengthVertical ← ue
  let maxNumReorderFrames ← ue
  let maxDecFrameBuffering ← ue
  pure
    { motionVectorsOverPicBoundariesFlag, maxBytesPerPicDenom, maxBitsPerMbDenom, log2MaxMvLengthHorizontal
      log2MaxMvLengthVertical, maxNumReorderFrames, maxDecFrameBuffering }

structure VuiParameters where
  aspectRatio : Option AspectRatio
  overscanAppropriateFlag : Option Bool
  videoSignalType : Option VideoSignalType
  /-- `chroma_sample_loc_type_top_field` and `chroma_sample_loc_type_bottom_field` -/
  chromaSampleLocType : Option (ℕ × ℕ)
  timingInfo : Option TimingInfo
  nalHrdParameters : Option HrdParameters
  vclHrdParameters : Option HrdParameters
  lowDelayHrdFlag : Option Bool
  picStructPresentFlag : Bool
  bitstreamRestriction : Option BitstreamRestriction
deriving DecidableEq, Repr

/-- `vui_parameters` -/
def vuiParameters : Reader VuiParameters := do
  let aspectRatio ← optionally aspectRatio
  let overscanAppropriateFlag ← optionally bit
  let videoSignalType ← optionally videoSignalType
  let chromaSampleLocType ← optionally do
    let topField ← ue
    let bottomField ← ue
    pure (topField, bottomField)
  let timingInfo ← optionally timingInfo
  let nalHrdParameters ← optionally hrdParameters
  let vclHrdParameters ← optionally hrdParameters
  let lowDelayHrdFlag ← given (nalHrdParameters.isSome ∨ vclHrdParameters.isSome) bit
  let picStructPresentFlag ← bit
  let bitstreamRestriction ← optionally bitstreamRestriction
  pure
    { aspectRatio, overscanAppropriateFlag, videoSignalType, chromaSampleLocType, timingInfo, nalHrdParameters
      vclHrdParameters, lowDelayHrdFlag, picStructPresentFlag, bitstreamRestriction }

structure SeqParameterSet where
  profileIdc : ℕ
  /-- `constraint_set0_flag` to `constraint_set5_flag`, the first one highest -/
  constraintSetFlags : ℕ
  reservedZero2Bits : ℕ
  levelIdc : ℕ
  seqParameterSetId : ℕ
  chromaFormat : Option ChromaFormat
  log2MaxFrameNumMinus4 : ℕ
  picOrderCntType : ℕ
  log2MaxPicOrderCntLsbMinus4 : Option ℕ
  picOrderCntCycle : Option PicOrderCntCycle
  maxNumRefFrames : ℕ
  gapsInFrameNumValueAllowedFlag : Bool
  picWidthInMbsMinus1 : ℕ
  picHeightInMapUnitsMinus1 : ℕ
  frameMbsOnlyFlag : Bool
  mbAdaptiveFrameFieldFlag : Option Bool
  direct8x8InferenceFlag : Bool
  frameCropping : Option FrameCropping
  vuiParameters : Option VuiParameters
deriving DecidableEq, Repr

/-- The profiles whose parameter sets have the chroma format. -/
def highProfiles : List ℕ := [100, 110, 122, 244, 44, 83, 86, 118, 128, 138, 139, 134, 135]

/-- `seq_parameter_set_data` -/
def seqParameterSetData : Reader SeqParameterSet := do
  let profileIdc ← bits 8
  let constraintSetFlags ← bits 6
  let reservedZero2Bits ← bits 2
  let levelIdc ← bits 8
  let seqParameterSetId ← ue
  let chromaFormat ← given (profileIdc ∈ highProfiles) chromaFormat
  let log2MaxFrameNumMinus4 ← ue
  let picOrderCntType ← ue
  let log2MaxPicOrderCntLsbMinus4 ← given (picOrderCntType = 0) ue
  let picOrderCntCycle ← given (picOrderCntType = 1) picOrderCntCycle
  let maxNumRefFrames ← ue
  let gapsInFrameNumValueAllowedFlag ← bit
  let picWidthInMbsMinus1 ← ue
  let picHeightInMapUnitsMinus1 ← ue
  let frameMbsOnlyFlag ← bit
  let mbAdaptiveFrameFieldFlag ← given (frameMbsOnlyFlag = false) bit
  let direct8x8InferenceFlag ← bit
  let frameCropping ← optionally frameCropping
  let vuiParameters ← optionally vuiParameters
  pure
    { profileIdc, constraintSetFlags, reservedZero2Bits, levelIdc, seqParameterSetId, chromaFormat
      log2MaxFrameNumMinus4, picOrderCntType, log2MaxPicOrderCntLsbMinus4, picOrderCntCycle, maxNumRefFrames
      gapsInFrameNumValueAllowedFlag, picWidthInMbsMinus1, picHeightInMapUnitsMinus1, frameMbsOnlyFlag
      mbAdaptiveFrameFieldFlag, direct8x8InferenceFlag, frameCropping, vuiParameters }

/-- The NAL unit of a sequence parameter set. -/
def seqParameterSet : Reader (NalUnit × SeqParameterSet) := do
  let unit ← nalUnit
  guard (unit.nalUnitType = 7)
  let sps ← seqParameterSetData
  rbspTrailingBits
  pure (unit, sps)

namespace SeqParameterSet

/-- `chroma_format_idc`, by default that of 4:2:0 -/
def chromaFormatIdc (sps : SeqParameterSet) : ℕ := (sps.chromaFormat.map (·.chromaFormatIdc)).getD 1

def separateColourPlane (sps : SeqParameterSet) : Bool :=
  (sps.chromaFormat.bind (·.separateColourPlaneFlag)).getD false

/-- `ChromaArrayType` -/
def chromaArrayType (sps : SeqParameterSet) : ℕ := if sps.separateColourPlane then 0 else sps.chromaFormatIdc

/-- `PicWidthInMbs` and `PicSizeInMapUnits` -/
def picWidthInMbs (sps : SeqParameterSet) : ℕ := sps.picWidthInMbsMinus1 + 1

def picSizeInMapUnits (sps : SeqParameterSet) : ℕ := sps.picWidthInMbs * (sps.picHeightInMapUnitsMinus1 + 1)

/-- `CropUnitX` and `CropUnitY` -/
def cropUnit (sps : SeqParameterSet) : ℕ × ℕ :=
  let field := if sps.frameMbsOnlyFlag then 1 else 2
  match sps.chromaArrayType with
  | 1 => (2, 2 * field)
  | 2 => (2, field)
  | _ => (1, field)

/-- The left and top of the cropping rectangle of a frame, with its width and height. -/
def croppingRectangle (sps : SeqParameterSet) : ℕ × ℕ × ℕ × ℕ :=
  let width := 16 * sps.picWidthInMbs
  let height := 16 * ((if sps.frameMbsOnlyFlag then 1 else 2) * (sps.picHeightInMapUnitsMinus1 + 1))
  match sps.frameCropping with
  | none => (0, 0, width, height)
  | some crop =>
      let left := sps.cropUnit.1 * crop.frameCropLeftOffset
      let top := sps.cropUnit.2 * crop.frameCropTopOffset
      (left, top, width - sps.cropUnit.1 * crop.frameCropRightOffset - left,
        height - sps.cropUnit.2 * crop.frameCropBottomOffset - top)

end SeqParameterSet

/-- The map of slice groups, by its type; the types from 3 to 5 have the same elements. -/
inductive SliceGroupMap where
  | interleaved (runLengthMinus1 : List ℕ)
  | dispersed
  | foreground (topLeftBottomRight : List (ℕ × ℕ))
  | changing (sliceGroupMapType : ℕ) (directionFlag : Bool) (changeRateMinus1 : ℕ)
  | explicit (sliceGroupId : List ℕ)
deriving DecidableEq, Repr

def sliceGroupMap (numSliceGroupsMinus1 : ℕ) : Reader SliceGroupMap := do
  let sliceGroupMapType ← ue
  match sliceGroupMapType with
  | 0 => SliceGroupMap.interleaved <$> times ue (numSliceGroupsMinus1 + 1)
  | 1 => pure .dispersed
  | 2 =>
      let corners : Reader (ℕ × ℕ) := do
        let topLeft ← ue
        let bottomRight ← ue
        pure (topLeft, bottomRight)
      SliceGroupMap.foreground <$> times corners numSliceGroupsMinus1
  | 3 | 4 | 5 =>
      let directionFlag ← bit
      let changeRateMinus1 ← ue
      pure (.changing sliceGroupMapType directionFlag changeRateMinus1)
  | 6 =>
      let picSizeInMapUnitsMinus1 ← ue
      SliceGroupMap.explicit <$> times (bits (Nat.clog 2 (numSliceGroupsMinus1 + 1))) (picSizeInMapUnitsMinus1 + 1)
  | _ => failure

/-- The elements after `more_rbsp_data`. -/
structure Transform where
  transform8x8ModeFlag : Bool
  picScalingMatrix : Option (List (Option (Option (List ℕ))))
  secondChromaQpIndexOffset : ℤ
deriving DecidableEq, Repr

def transform (chromaFormatIdc : ℕ) : Reader Transform := do
  let transform8x8ModeFlag ← bit
  let large := if chromaFormatIdc ≠ 3 then 2 else 6
  let picScalingMatrix ← optionally (scalingMatrix (6 + if transform8x8ModeFlag then large else 0))
  let secondChromaQpIndexOffset ← se
  pure { transform8x8ModeFlag, picScalingMatrix, secondChromaQpIndexOffset }

structure PicParameterSet where
  picParameterSetId : ℕ
  seqParameterSetId : ℕ
  entropyCodingModeFlag : Bool
  bottomFieldPicOrderInFramePresentFlag : Bool
  numSliceGroupsMinus1 : ℕ
  sliceGroupMap : Option SliceGroupMap
  numRefIdxL0DefaultActiveMinus1 : ℕ
  numRefIdxL1DefaultActiveMinus1 : ℕ
  weightedPredFlag : Bool
  weightedBipredIdc : ℕ
  picInitQpMinus26 : ℤ
  picInitQsMinus26 : ℤ
  chromaQpIndexOffset : ℤ
  deblockingFilterControlPresentFlag : Bool
  constrainedIntraPredFlag : Bool
  redundantPicCntPresentFlag : Bool
  transform : Option Transform
deriving DecidableEq, Repr

/-- The elements before `more_rbsp_data`. -/
def picParameterSetData : Reader PicParameterSet := do
  let picParameterSetId ← ue
  let seqParameterSetId ← ue
  let entropyCodingModeFlag ← bit
  let bottomFieldPicOrderInFramePresentFlag ← bit
  let numSliceGroupsMinus1 ← ue
  let sliceGroupMap ← given (0 < numSliceGroupsMinus1) (sliceGroupMap numSliceGroupsMinus1)
  let numRefIdxL0DefaultActiveMinus1 ← ue
  let numRefIdxL1DefaultActiveMinus1 ← ue
  let weightedPredFlag ← bit
  let weightedBipredIdc ← bits 2
  let picInitQpMinus26 ← se
  let picInitQsMinus26 ← se
  let chromaQpIndexOffset ← se
  let deblockingFilterControlPresentFlag ← bit
  let constrainedIntraPredFlag ← bit
  let redundantPicCntPresentFlag ← bit
  pure
    { picParameterSetId, seqParameterSetId, entropyCodingModeFlag, bottomFieldPicOrderInFramePresentFlag
      numSliceGroupsMinus1, sliceGroupMap, numRefIdxL0DefaultActiveMinus1, numRefIdxL1DefaultActiveMinus1
      weightedPredFlag, weightedBipredIdc, picInitQpMinus26, picInitQsMinus26, chromaQpIndexOffset
      deblockingFilterControlPresentFlag, constrainedIntraPredFlag, redundantPicCntPresentFlag, transform := none }

/-- The NAL unit of a picture parameter set that refers to a sequence parameter set. -/
def picParameterSet (sps : SeqParameterSet) : Reader (NalUnit × PicParameterSet) := do
  let unit ← nalUnit
  guard (unit.nalUnitType = 8)
  let pps ← picParameterSetData
  guard (pps.seqParameterSetId = sps.seqParameterSetId)
  let more ← moreRbspData
  let transform ← given more (transform sps.chromaFormatIdc)
  rbspTrailingBits
  pure (unit, { pps with transform })

end H618Vpu.Spec.H264
