import H618Vpu.Machine.Port
import H618Vpu.Model.DecH265

/-! # The SRAM of the H.265 decoder

The tables of `cedrus_dec_h265_job_configure` as they go through the SRAM port: the words of `DecH265`, at their
offsets, with the addresses of the pictures and the scaling factors.
-/

namespace H618Vpu.DecH265

open Machine

/-- `VE_DEC_H265_SRAM_OFFSET_PRED_WEIGHT_LUMA_L0` and `_L1` -/
def ListX.predWeightLumaOffset : ListX → ℕ
  | l0 => 0x00
  | l1 => 0x60

/-- `VE_DEC_H265_SRAM_OFFSET_PRED_WEIGHT_CHROMA_L0` and `_L1` -/
def ListX.predWeightChromaOffset : ListX → ℕ
  | l0 => 0x20
  | l1 => 0x80

/-- `VE_DEC_H265_SRAM_OFFSET_FRAME_INFO` -/
def frameInfoOffset : ℕ := 0x400

/-- `VE_DEC_H265_SRAM_OFFSET_FRAME_INFO_UNIT` -/
def frameInfoUnit : ℕ := 0x20

/-- `VE_DEC_H265_SRAM_OFFSET_SCALING_LISTS` -/
def scalingListsOffset : ℕ := 0x800

/-- `VE_DEC_H265_SRAM_OFFSET_REF_PIC_LIST0` and `_LIST1` -/
def ListX.refPicListOffset : ListX → ℕ
  | l0 => 0xc00
  | l1 => 0xc10

/-- `struct v4l2_ctrl_hevc_scaling_matrix` -/
structure ScalingMatrix where
  scalingList4x4 : ℕ → ℕ → UInt8
  scalingList8x8 : ℕ → ℕ → UInt8
  scalingList16x16 : ℕ → ℕ → UInt8
  scalingList32x32 : ℕ → ℕ → UInt8
  scalingListDcCoef16x16 : ℕ → UInt8
  scalingListDcCoef32x32 : ℕ → UInt8

/-- A job with its scaling matrix and the addresses of the picture buffers: `pictureDma` is
`cedrus_buffer_picture_dma`, the others are the fields of `struct cedrus_dec_h265_buffer`. -/
structure SramJob extends Job where
  scalingListEnabled : Bool
  scalingMatrix : ScalingMatrix
  pictureDma : ℕ → ℕ × ℕ
  mvColBufDma : ℕ → ℕ
  mvColBufSize : ℕ → ℕ

/-- `VE_DEC_H265_SRAM_DATA_ADDR_BASE`, as a word -/
def sramDataAddrBase (addr : ℕ) : UInt32 := UInt32.ofNat (addr / 2 ^ 8)

namespace SramJob

/-- `cedrus_dec_h265_mv_col_buf_dma` -/
def mvColBufAddrs (job : SramJob) (buffer : ℕ) : ℕ × ℕ :=
  (job.mvColBufDma buffer, job.mvColBufDma buffer + job.mvColBufSize buffer / 2)

/-- `cedrus_dec_h265_frame_info_write_single` -/
def frameInfoBurst (job : SramJob) (index : ℕ) (info : FrameInfo) : Burst UInt32 :=
  let (lumaAddr, chromaAddr) := job.pictureDma info.buffer
  let (mvColTop, mvColBottom) := job.mvColBufAddrs info.buffer
  ⟨frameInfoOffset + frameInfoUnit * index,
    [info.topPicOrderCnt, info.bottomPicOrderCnt, sramDataAddrBase mvColTop,
      sramDataAddrBase (if info.fieldPic then mvColBottom else mvColTop), sramDataAddrBase lumaAddr,
      sramDataAddrBase chromaAddr]⟩

/-- The frame info of an entry of the DPB whose buffer is found. -/
def dpbInfo (job : SramJob) (i : ℕ) : Option FrameInfo :=
  let entry := job.decodeParams.dpb i
  (job.pictureFind entry.timestamp).map fun buffer =>
    frameInfoWriteSingle buffer entry.fieldPic entry.picOrderCntVal.toUInt32 entry.picOrderCntVal.toUInt32

/-- `cedrus_dec_h265_frame_info_write_dpb` -/
def dpbBursts (job : SramJob) : List (Burst UInt32) :=
  (List.range job.decodeParams.numActiveDpbEntries.toNat).filterMap fun i => (job.dpbInfo i).map (job.frameInfoBurst i)

/-- The frame info of the destination. -/
def outputInfo (job : SramJob) : FrameInfo :=
  let poc := job.sliceParams.slicePicOrderCnt.toUInt32
  frameInfoWriteSingle job.destination (job.sliceParams.picStruct ≠ 0) poc poc

/-- `V4L2_HEVC_DPB_ENTRIES_NUM_MAX`, the index of the destination -/
def outputIndex : ℕ := 16

/-- `cedrus_dec_h265_ref_pic_list_write` -/
def refPicListBurst (job : SramJob) (l : ListX) : Burst UInt32 :=
  ⟨l.refPicListOffset,
    (refPicListWrite job.decodeParams.dpb l (job.sliceParams.list l).refIdx (job.numRefIdxActive l)).value⟩

end SramJob

/-- Two entries of the local `pred_weight` as the word they are copied as. -/
def predWeightWord (weights : PredWeight × PredWeight) : UInt32 :=
  weights.1.deltaWeight.toUInt8.toUInt32 ||| (weights.1.offset.toUInt8.toUInt32 <<< 8) |||
    (weights.2.deltaWeight.toUInt8.toUInt32 <<< 16) ||| (weights.2.offset.toUInt8.toUInt32 <<< 24)

namespace SramJob

/-- `cedrus_dec_h265_pred_weight_write` -/
def predWeightBursts (job : SramJob) (l : ListX) : List (Burst UInt32) :=
  let table := (predWeightWrite l (job.sliceParams.list l) (job.numRefIdxActive l)).value
  [⟨l.predWeightLumaOffset, table.luma.map predWeightWord⟩, ⟨l.predWeightChromaOffset, table.chroma.map predWeightWord⟩]

/-- The slice predicts from the list. -/
def usesList (job : SramJob) : ListX → Bool
  | .l0 => job.sliceParams.sliceType ≠ sliceTypeI
  | .l1 => job.sliceParams.sliceType = sliceTypeB

/-- The slice weights its predictions from the list. -/
def weightsList (job : SramJob) : ListX → Bool
  | .l0 => job.pps.weightedPred || job.pps.weightedBipred
  | .l1 => job.pps.weightedBipred

/-- The reference list of the slice, with its weights. -/
def listBursts (job : SramJob) (l : ListX) : List (Burst UInt32) :=
  if job.usesList l then job.refPicListBurst l :: if job.weightsList l then job.predWeightBursts l else [] else []

end SramJob

/-- Four factors of a list, a distance apart. -/
def scalingWord (list : ℕ → UInt8) (first distance : ℕ) : UInt32 :=
  ((list (first + 3 * distance)).toUInt32 <<< 24) ||| ((list (first + 2 * distance)).toUInt32 <<< 16) |||
    ((list (first + distance)).toUInt32 <<< 8) ||| (list first).toUInt32

/-- The words of a list of 8×8 factors: the factors of a column are consecutive. -/
def scalingWords8x8 (list : ℕ → UInt8) : List UInt32 :=
  (List.range 8).flatMap fun j => (List.range 2).map fun k => scalingWord list (j + 4 * k * 8) 8

def scalingWords4x4 (list : ℕ → UInt8) : List UInt32 := (List.range 4).map fun j => scalingWord list j 4

namespace ScalingMatrix

/-- `cedrus_dec_h265_scaling_list_write`, through the SRAM port -/
def burst (matrix : ScalingMatrix) : Burst UInt32 :=
  ⟨scalingListsOffset,
    ((List.range 6).flatMap fun i => scalingWords8x8 (matrix.scalingList8x8 i)) ++
      ((List.range 2).flatMap fun i => scalingWords8x8 (matrix.scalingList32x32 i)) ++
      ((List.range 6).flatMap fun i => scalingWords8x8 (matrix.scalingList16x16 i)) ++
      (List.range 6).flatMap fun i => scalingWords4x4 (matrix.scalingList4x4 i)⟩

/-- `VE_DEC_H265_SCALING_LIST_DC_COEF0` -/
def dcCoef0 (matrix : ScalingMatrix) : UInt32 :=
  ((matrix.scalingListDcCoef32x32 1).toUInt32 <<< 24) ||| ((matrix.scalingListDcCoef32x32 0).toUInt32 <<< 16) |||
    ((matrix.scalingListDcCoef16x16 1).toUInt32 <<< 8) ||| ((matrix.scalingListDcCoef16x16 0).toUInt32 <<< 0)

/-- `VE_DEC_H265_SCALING_LIST_DC_COEF1` -/
def dcCoef1 (matrix : ScalingMatrix) : UInt32 :=
  ((matrix.scalingListDcCoef16x16 5).toUInt32 <<< 24) ||| ((matrix.scalingListDcCoef16x16 4).toUInt32 <<< 16) |||
    ((matrix.scalingListDcCoef16x16 3).toUInt32 <<< 8) ||| ((matrix.scalingListDcCoef16x16 2).toUInt32 <<< 0)

end ScalingMatrix

/-- What a job writes through the SRAM port, in the order it writes it. -/
def SramJob.bursts (job : SramJob) : List (Burst UInt32) :=
  (if job.scalingListEnabled then [job.scalingMatrix.burst] else []) ++ job.dpbBursts ++
    [job.frameInfoBurst SramJob.outputIndex job.outputInfo] ++ job.listBursts .l0 ++ job.listBursts .l1

end H618Vpu.DecH265
