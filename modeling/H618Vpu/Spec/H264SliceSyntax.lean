import H618Vpu.Spec.H264Syntax

/-! # The syntax of H.264 slice headers

How a decoder reads the header of a slice, clause 7.3.3 with its tables, from the bits of a NAL unit of type 1,
2 or 5. Which elements there are depends on both parameter sets of the slice. The list of a loop that ends with
a code of its own is not longer than there are bits.
-/

namespace H618Vpu.Spec.H264

open Bits (Reader)
open Bits.Reader

/-- `slice_type` modulo 5 -/
inductive SliceType where
  | p
  | b
  | i
  | sp
  | si
deriving DecidableEq, Repr

def sliceTypeOf (sliceType : ℕ) : SliceType :=
  match sliceType % 5 with
  | 0 => .p
  | 1 => .b
  | 2 => .i
  | 3 => .sp
  | _ => .si

/-- The pairs of `modification_of_pic_nums_idc` and the number after it. -/
def modifications : ℕ → Reader (List (ℕ × ℕ))
  | 0 => failure
  | fuel + 1 => do
      let modificationOfPicNumsIdc ← ue
      guard (modificationOfPicNumsIdc ≤ 3)
      if modificationOfPicNumsIdc = 3 then pure []
      else
        let number ← ue
        let later ← modifications fuel
        pure ((modificationOfPicNumsIdc, number) :: later)

/-- A list of `ref_pic_list_modification`. -/
def refPicListModification : Reader (Option (List (ℕ × ℕ))) :=
  optionally do
    let count ← remaining
    modifications count

/-- The number of elements after a `memory_management_control_operation`. -/
def operands : ℕ → ℕ
  | 1 | 2 | 4 | 6 => 1
  | 3 => 2
  | _ => 0

/-- The operations with their elements. -/
def operations : ℕ → Reader (List (ℕ × List ℕ))
  | 0 => failure
  | fuel + 1 => do
      let memoryManagementControlOperation ← ue
      guard (memoryManagementControlOperation ≤ 6)
      if memoryManagementControlOperation = 0 then pure []
      else
        let elements ← times ue (operands memoryManagementControlOperation)
        let later ← operations fuel
        pure ((memoryManagementControlOperation, elements) :: later)

inductive DecRefPicMarking where
  | idr (noOutputOfPriorPicsFlag longTermReferenceFlag : Bool)
  | other (adaptive : Option (List (ℕ × List ℕ)))
deriving DecidableEq, Repr

/-- `dec_ref_pic_marking` -/
def decRefPicMarking (idrPic : Bool) : Reader DecRefPicMarking :=
  if idrPic then do
    let noOutputOfPriorPicsFlag ← bit
    let longTermReferenceFlag ← bit
    pure (.idr noOutputOfPriorPicsFlag longTermReferenceFlag)
  else
    DecRefPicMarking.other <$> optionally do
      let count ← remaining
      operations count

/-- The weight and the offset of a reference. -/
def weight : Reader (ℤ × ℤ) := do
  let weight ← se
  let offset ← se
  pure (weight, offset)

/-- The weights of a reference: luma, and both chroma planes. -/
structure PredWeight where
  luma : Option (ℤ × ℤ)
  chroma : Option (Option (List (ℤ × ℤ)))
deriving DecidableEq, Repr

def predWeight (chromaArrayType : ℕ) : Reader PredWeight := do
  let luma ← optionally weight
  let chroma ← given (chromaArrayType ≠ 0) (optionally (times weight 2))
  pure { luma, chroma }

structure PredWeightTable where
  lumaLog2WeightDenom : ℕ
  chromaLog2WeightDenom : Option ℕ
  l0 : List PredWeight
  l1 : Option (List PredWeight)
deriving DecidableEq, Repr

/-- `pred_weight_table` -/
def predWeightTable (chromaArrayType : ℕ) (type : SliceType) (l0 l1 : ℕ) : Reader PredWeightTable := do
  let lumaLog2WeightDenom ← ue
  let chromaLog2WeightDenom ← given (chromaArrayType ≠ 0) ue
  let l0 ← times (predWeight chromaArrayType) (l0 + 1)
  let l1 ← given (type = .b) (times (predWeight chromaArrayType) (l1 + 1))
  pure { lumaLog2WeightDenom, chromaLog2WeightDenom, l0, l1 }

/-- `disable_deblocking_filter_idc`, and the two offsets unless it is 1. -/
structure Deblocking where
  disableDeblockingFilterIdc : ℕ
  sliceOffsetsDiv2 : Option (ℤ × ℤ)
deriving DecidableEq, Repr

def deblocking : Reader Deblocking := do
  let disableDeblockingFilterIdc ← ue
  let sliceOffsetsDiv2 ← given (disableDeblockingFilterIdc ≠ 1) do
    let sliceAlphaC0OffsetDiv2 ← se
    let sliceBetaOffsetDiv2 ← se
    pure (sliceAlphaC0OffsetDiv2, sliceBetaOffsetDiv2)
  pure { disableDeblockingFilterIdc, sliceOffsetsDiv2 }

structure SliceHeader where
  firstMbInSlice : ℕ
  sliceType : ℕ
  picParameterSetId : ℕ
  colourPlaneId : Option ℕ
  frameNum : ℕ
  fieldPicFlag : Option Bool
  bottomFieldFlag : Option Bool
  idrPicId : Option ℕ
  picOrderCntLsb : Option ℕ
  deltaPicOrderCntBottom : Option ℤ
  deltaPicOrderCnt0 : Option ℤ
  deltaPicOrderCnt1 : Option ℤ
  redundantPicCnt : Option ℕ
  directSpatialMvPredFlag : Option Bool
  /-- `num_ref_idx_l0_active_minus1` and `num_ref_idx_l1_active_minus1`, if they are overridden -/
  numRefIdxActiveOverride : Option (Option (ℕ × Option ℕ))
  refPicListModificationL0 : Option (Option (List (ℕ × ℕ)))
  refPicListModificationL1 : Option (Option (List (ℕ × ℕ)))
  predWeightTable : Option PredWeightTable
  decRefPicMarking : Option DecRefPicMarking
  cabacInitIdc : Option ℕ
  sliceQpDelta : ℤ
  spForSwitchFlag : Option Bool
  sliceQsDelta : Option ℤ
  deblocking : Option Deblocking
  sliceGroupChangeCycle : Option ℕ
deriving DecidableEq, Repr

/-- The bits of `slice_group_change_cycle`, if it is there. -/
def changeCycleBits (sps : SeqParameterSet) (pps : PicParameterSet) : Option ℕ :=
  match pps.sliceGroupMap with
  | some (.changing _ _ changeRateMinus1) =>
      let rate := changeRateMinus1 + 1
      some (Nat.clog 2 ((sps.picSizeInMapUnits + rate - 1) / rate + 1))
  | _ => none

/-- `slice_header` -/
def sliceHeader (unit : NalUnit) (sps : SeqParameterSet) (pps : PicParameterSet) : Reader SliceHeader := do
  let idrPic : Bool := unit.nalUnitType = 5
  let firstMbInSlice ← ue
  let sliceType ← ue
  let type := sliceTypeOf sliceType
  let picParameterSetId ← ue
  guard (picParameterSetId = pps.picParameterSetId)
  let colourPlaneId ← given sps.separateColourPlane (bits 2)
  let frameNum ← bits (sps.log2MaxFrameNumMinus4 + 4)
  let fieldPicFlag ← given (sps.frameMbsOnlyFlag = false) bit
  let bottomFieldFlag ← given (fieldPicFlag = some true) bit
  let bottom : Bool := pps.bottomFieldPicOrderInFramePresentFlag && fieldPicFlag ≠ some true
  let idrPicId ← given idrPic ue
  let picOrderCntLsb ← given (sps.picOrderCntType = 0) (bits (sps.log2MaxPicOrderCntLsbMinus4.getD 0 + 4))
  let deltaPicOrderCntBottom ← given (sps.picOrderCntType = 0 ∧ bottom) se
  let deltas : Bool := sps.picOrderCntCycle.any (!·.deltaPicOrderAlwaysZeroFlag)
  let deltaPicOrderCnt0 ← given deltas se
  let deltaPicOrderCnt1 ← given (deltas ∧ bottom) se
  let redundantPicCnt ← given pps.redundantPicCntPresentFlag ue
  let directSpatialMvPredFlag ← given (type = .b) bit
  let numRefIdxActiveOverride ← given (type = .p ∨ type = .sp ∨ type = .b) do
    optionally do
      let l0 ← ue
      let l1 ← given (type = .b) ue
      pure (l0, l1)
  let refPicListModificationL0 ← given (type ≠ .i ∧ type ≠ .si) refPicListModification
  let refPicListModificationL1 ← given (type = .b) refPicListModification
  let override := numRefIdxActiveOverride.join
  let l0 := (override.map (·.1)).getD pps.numRefIdxL0DefaultActiveMinus1
  let l1 := (override.bind (·.2)).getD pps.numRefIdxL1DefaultActiveMinus1
  let predWeightTable ←
    given ((pps.weightedPredFlag ∧ (type = .p ∨ type = .sp)) ∨ (pps.weightedBipredIdc = 1 ∧ type = .b))
      (predWeightTable sps.chromaArrayType type l0 l1)
  let decRefPicMarking ← given (unit.nalRefIdc ≠ 0) (decRefPicMarking idrPic)
  let cabacInitIdc ← given (pps.entropyCodingModeFlag ∧ type ≠ .i ∧ type ≠ .si) ue
  let sliceQpDelta ← se
  let spForSwitchFlag ← given (type = .sp) bit
  let sliceQsDelta ← given (type = .sp ∨ type = .si) se
  let deblocking ← given pps.deblockingFilterControlPresentFlag deblocking
  let sliceGroupChangeCycle ← given (changeCycleBits sps pps).isSome (bits ((changeCycleBits sps pps).getD 0))
  pure
    { firstMbInSlice, sliceType, picParameterSetId, colourPlaneId, frameNum, fieldPicFlag, bottomFieldFlag, idrPicId
      picOrderCntLsb, deltaPicOrderCntBottom, deltaPicOrderCnt0, deltaPicOrderCnt1, redundantPicCnt
      directSpatialMvPredFlag, numRefIdxActiveOverride, refPicListModificationL0, refPicListModificationL1
      predWeightTable, decRefPicMarking, cabacInitIdc, sliceQpDelta, spForSwitchFlag, sliceQsDelta, deblocking
      sliceGroupChangeCycle }

/-- The start of the NAL unit of a slice, up to its data. -/
def slice (sps : SeqParameterSet) (pps : PicParameterSet) : Reader (NalUnit × SliceHeader) := do
  let unit ← nalUnit
  guard (unit.nalUnitType ∈ [1, 2, 5])
  let header ← sliceHeader unit sps pps
  pure (unit, header)

end H618Vpu.Spec.H264
