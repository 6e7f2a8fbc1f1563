import H618Vpu.Machine.Touching
import H618Vpu.Model.DecMvCol

/-! # The slices of the H.265 decoder

`cedrus_dec_h265.c`. A job programs one slice from the arrays of its controls: the tile of the slice and those its
entry points lead to, the DPB, and the reference lists with their weights. Memory goes on behind an array, so a
table is a function here, and each access is noted with its index.

Registers and SRAM words that none of these arrays goes to are left out, and so are the addresses of the pictures.
-/

namespace H618Vpu.DecH265

open Machine Math Touching

/-- The reference picture lists of a slice. -/
inductive ListX where
  | l0
  | l1
deriving DecidableEq, Repr

/-- The arrays of the controls that a slice is programmed from, and the buffer its entry points go to. -/
inductive ControlArray where
  | dpb
  | refIdx (list : ListX)
  | deltaLumaWeight (list : ListX)
  | lumaOffset (list : ListX)
  | deltaChromaWeight (list : ListX)
  | chromaOffset (list : ListX)
  | columnWidthMinus1
  | rowHeightMinus1
  | entryPoints
  | entryPointsBuf
deriving DecidableEq, Repr

/-- How many elements an array has. The two chroma weights of a reference are counted one by one, the buffer of
`CEDRUS_DEC_H265_ENTRY_POINTS_BUF_SIZE` bytes in words; the entry points are as many as user space gave. -/
def ControlArray.length (entryPointOffsetsCount : ℕ) : ControlArray → ℕ
  | dpb | refIdx _ | deltaLumaWeight _ | lumaOffset _ => 16
  | deltaChromaWeight _ | chromaOffset _ => 32
  | columnWidthMinus1 => 20
  | rowHeightMinus1 => 22
  | entryPoints => entryPointOffsetsCount
  | entryPointsBuf => 1024

structure Cell where
  array : ControlArray
  index : ℕ
deriving DecidableEq, Repr

abbrev Access := Touching Cell

/-- The value of an element, wherever it is. -/
def read {α : Type} (array : ControlArray) (table : ℕ → α) (index : ℕ) : Access α := touch ⟨array, index⟩ (table index)

/-- The fields of `struct v4l2_ctrl_hevc_sps` that a slice is placed by. -/
structure Sps extends MvCol.H265Sps where
  picWidthInLumaSamples : UInt16
  picHeightInLumaSamples : UInt16

/-- `struct v4l2_ctrl_hevc_pps` -/
structure Pps where
  tilesEnabled : Bool
  entropyCodingSyncEnabled : Bool
  weightedPred : Bool
  weightedBipred : Bool
  numTileColumnsMinus1 : UInt8
  numTileRowsMinus1 : UInt8
  columnWidthMinus1 : ℕ → UInt8
  rowHeightMinus1 : ℕ → UInt8

/-- `struct v4l2_hevc_dpb_entry` -/
structure DpbEntry where
  timestamp : ℕ := 0
  longTermReference : Bool := false
  fieldPic : Bool := false
  picOrderCntVal : Int32 := 0

/-- The fields of `struct v4l2_ctrl_hevc_slice_params` and of its `pred_weight_table` for one list. -/
structure RefList where
  refIdx : ℕ → UInt8
  numRefIdxActiveMinus1 : UInt8
  deltaLumaWeight : ℕ → Int8
  lumaOffset : ℕ → Int8
  deltaChromaWeight : ℕ → ℕ → Int8
  chromaOffset : ℕ → ℕ → Int8

/-- `V4L2_HEVC_SLICE_TYPE_B` -/
def sliceTypeB : UInt8 := 0

/-- `V4L2_HEVC_SLICE_TYPE_I` -/
def sliceTypeI : UInt8 := 2

/-- `struct v4l2_ctrl_hevc_slice_params` -/
structure SliceParams where
  sliceSegmentAddr : UInt32
  numEntryPointOffsets : UInt32
  dataByteOffset : UInt32
  sliceType : UInt8
  picStruct : UInt8
  slicePicOrderCnt : Int32
  list : ListX → RefList

/-- `struct v4l2_ctrl_hevc_decode_params` -/
structure DecodeParams where
  picOrderCntVal : Int32
  numActiveDpbEntries : UInt8
  dpb : ℕ → DpbEntry

/-- `struct cedrus_dec_h265_job` with its destination. `pictureFind` is `cedrus_buffer_picture_find`, `padding` the
byte that the hardware reads, and `allocated` the answer of `dma_alloc_attrs`. -/
structure Job where
  sps : Sps
  pps : Pps
  sliceParams : SliceParams
  decodeParams : DecodeParams
  entryPointOffsets : ℕ → UInt32
  entryPointOffsetsCount : UInt32
  destination : ℕ
  pictureFind : ℕ → Option ℕ
  size : MvCol.Size
  padding : UInt8
  allocated : Bool

/-- The locals of a search in `cedrus_dec_h265_tiles_write`: a tile column or row and its first CTB. -/
structure Seek where
  ctb : ℕ := 0
  tile : ℕ := 0
deriving DecidableEq, Repr

/-- The search, with so many columns or rows still to come. -/
def seek (array : ControlArray) (sizeMinus1 : ℕ → UInt8) (ctbAddr : ℕ) : ℕ → Seek → Access Seek
  | 0, here => pure here
  | remaining + 1, here => do
      let size ← read array sizeMinus1 here.tile
      if here.ctb + size.toNat + 1 > ctbAddr then pure here
      else
        let size ← read array sizeMinus1 here.tile
        seek array sizeMinus1 ctbAddr remaining ⟨here.ctb + size.toNat + 1, here.tile + 1⟩

/-- A tile by its column and row, with its first CTB. -/
structure Walk where
  x : ℕ
  tx : ℕ
  y : ℕ
  ty : ℕ
deriving DecidableEq, Repr

def ctbWord (y x : ℕ) : UInt32 := (UInt32.ofNat y <<< 16) ||| UInt32.ofNat x

namespace Pps

def find (pps : Pps) (ctbAddrX ctbAddrY : ℕ) : Access Walk := do
  let col ← seek .columnWidthMinus1 pps.columnWidthMinus1 ctbAddrX (pps.numTileColumnsMinus1.toNat + 1) {}
  let row ← seek .rowHeightMinus1 pps.rowHeightMinus1 ctbAddrY (pps.numTileRowsMinus1.toNat + 1) {}
  pure ⟨col.ctb, col.tile, row.ctb, row.tile⟩

/-- The last CTB of a tile. -/
def endCtb (pps : Pps) (walk : Walk) : Access UInt32 := do
  let height ← read .rowHeightMinus1 pps.rowHeightMinus1 walk.ty
  let width ← read .columnWidthMinus1 pps.columnWidthMinus1 walk.tx
  pure (ctbWord (walk.y + height.toNat) (walk.x + width.toNat))

/-- From one tile to the next. -/
def advance (pps : Pps) (walk : Walk) : Access Walk :=
  if walk.tx + 1 ≥ pps.numTileColumnsMinus1.toNat + 1 then do
    let height ← read .rowHeightMinus1 pps.rowHeightMinus1 walk.ty
    pure { x := 0, tx := 0, y := walk.y + height.toNat + 1, ty := walk.ty + 1 }
  else do
    let width ← read .columnWidthMinus1 pps.columnWidthMinus1 walk.tx
    pure { walk with x := walk.x + width.toNat + 1, tx := walk.tx + 1 }

end Pps

/-- A write to `entry_points_buf`. -/
def store (buf : ℕ → UInt32) (index : ℕ) (value : UInt32) : Access (ℕ → UInt32) :=
  touch ⟨.entryPointsBuf, index⟩ (Function.update buf index value)

/-- The tile registers and the records of the entry points. -/
structure Tiles where
  startCtb : UInt32
  endCtb : UInt32
  entryPointsBuf : ℕ → UInt32

namespace Job

/-- The record of an entry point with wavefronts: its offset. -/
def syncWrite (job : Job) (i : ℕ) (buf : ℕ → UInt32) : Access (ℕ → UInt32) := do
  let offset ← read .entryPoints job.entryPointOffsets i
  store buf i offset

/-- The record of an entry point with tiles: its offset and the corners of its tile. -/
def recordWrite (job : Job) (i : ℕ) (state : Walk × (ℕ → UInt32)) : Access (Walk × (ℕ → UInt32)) := do
  let walk ← job.pps.advance state.1
  let offset ← read .entryPoints job.entryPointOffsets i
  let buf ← store state.2 (i * 4 + 0) offset
  let buf ← store buf (i * 4 + 1) 0
  let buf ← store buf (i * 4 + 2) (ctbWord walk.y walk.x)
  let endCtb ← job.pps.endCtb walk
  let buf ← store buf (i * 4 + 3) endCtb
  pure (walk, buf)

/-- `cedrus_dec_h265_tiles_write` -/
def tilesWrite (job : Job) (buf : ℕ → UInt32) (ctbAddrX ctbAddrY : ℕ) : Access Tiles := do
  let walk ← job.pps.find ctbAddrX ctbAddrY
  let endCtb ← job.pps.endCtb walk
  let count := job.sliceParams.numEntryPointOffsets.toNat
  if job.pps.entropyCodingSyncEnabled then
    let buf ← loop job.syncWrite buf count
    pure ⟨ctbWord walk.y walk.x, endCtb, buf⟩
  else
    let (_, buf) ← loop job.recordWrite (walk, buf) count
    pure ⟨ctbWord walk.y walk.x, endCtb, buf⟩

/-- `width_in_ctb_luma` -/
def widthInCtb (job : Job) : ℕ := divRoundUp job.sps.picWidthInLumaSamples.toNat job.sps.ctbSizeLuma

def ctbAddrX (job : Job) : ℕ := job.sliceParams.sliceSegmentAddr.toNat % job.widthInCtb

def ctbAddrY (job : Job) : ℕ := job.sliceParams.sliceSegmentAddr.toNat / job.widthInCtb

/-- The tile registers of `cedrus_dec_h265_job_configure`. -/
def tiles (job : Job) (buf : ℕ → UInt32) : Access Tiles :=
  if job.pps.tilesEnabled ∨ job.pps.entropyCodingSyncEnabled then job.tilesWrite buf job.ctbAddrX job.ctbAddrY
  else pure ⟨0, 0, buf⟩

end Job

/-- `VE_DEC_H265_SRAM_REF_PIC_LIST_LT_REF` -/
def ltRef : UInt8 := 0x80

/-- The locals of `cedrus_dec_h265_ref_pic_list_write`, and the words it has written. -/
structure RefPicList where
  word : UInt32 := 0
  sram : List UInt32 := []

/-- One round of its loop; each SRAM word gathers up to 4 references. -/
def refPicWrite (dpb : ℕ → DpbEntry) (l : ListX) (list : ℕ → UInt8) (numRefIdxActive : UInt8) (i : ℕ)
    (state : RefPicList) : Access RefPicList := do
  let shift := UInt32.ofNat (i % 4 * 8)
  let index ← read (.refIdx l) list i
  let value ← read (.refIdx l) list i
  let entry ← read .dpb dpb index.toNat
  let value := if entry.longTermReference then value ||| ltRef else value
  let word := state.word ||| (value.toUInt32 <<< shift)
  if i % 4 = 3 ∨ i = numRefIdxActive.toNat - 1 then pure ⟨0, state.sram ++ [word]⟩
  else pure ⟨word, state.sram⟩

/-- `cedrus_dec_h265_ref_pic_list_write` -/
def refPicListWrite (dpb : ℕ → DpbEntry) (l : ListX) (list : ℕ → UInt8) (numRefIdxActive : UInt8) :
    Access (List UInt32) := do
  let state ← loop (refPicWrite dpb l list numRefIdxActive) {} numRefIdxActive.toNat
  pure state.sram

/-- `struct cedrus_dec_h265_sram_pred_weight` -/
structure PredWeight where
  deltaWeight : Int8 := 0
  offset : Int8 := 0
deriving DecidableEq

/-- The local `pred_weight`, and its copies in the SRAM. -/
structure PredWeights where
  first : PredWeight := {}
  second : PredWeight := {}
  sram : List (PredWeight × PredWeight) := []

/-- A round of the loop for luma. The array goes to the SRAM when it is full and after the last round. -/
def lumaWeightWrite (l : ListX) (list : RefList) (numRefIdxActive : UInt8) (i : ℕ) (state : PredWeights) :
    Access PredWeights := do
  let deltaWeight ← read (.deltaLumaWeight l) list.deltaLumaWeight i
  let offset ← read (.lumaOffset l) list.lumaOffset i
  let state := if i % 2 = 0 then { state with first := ⟨deltaWeight, offset⟩ }
    else { state with second := ⟨deltaWeight, offset⟩ }
  if i % 2 = 1 ∨ i = numRefIdxActive.toNat - 1 then
    pure { state with sram := state.sram ++ [(state.first, state.second)] }
  else pure state

/-- The weight of one chroma component of a reference. -/
def chromaWeight (l : ListX) (list : RefList) (i j : ℕ) : Access PredWeight := do
  let deltaWeight ← touch ⟨.deltaChromaWeight l, 2 * i + j⟩ (list.deltaChromaWeight i j)
  let offset ← touch ⟨.chromaOffset l, 2 * i + j⟩ (list.chromaOffset i j)
  pure ⟨deltaWeight, offset⟩

/-- A round of the loop for chroma. -/
def chromaWeightWrite (l : ListX) (list : RefList) (i : ℕ) (sram : List (PredWeight × PredWeight)) :
    Access (List (PredWeight × PredWeight)) := do
  let first ← chromaWeight l list i 0
  let second ← chromaWeight l list i 1
  pure (sram ++ [(first, second)])

/-- What `cedrus_dec_h265_pred_weight_write` leaves in the SRAM. -/
structure PredWeightTable where
  luma : List (PredWeight × PredWeight)
  chroma : List (PredWeight × PredWeight)

/-- `cedrus_dec_h265_pred_weight_write` -/
def predWeightWrite (l : ListX) (list : RefList) (numRefIdxActive : UInt8) : Access PredWeightTable := do
  let luma ← loop (lumaWeightWrite l list numRefIdxActive) {} numRefIdxActive.toNat
  let chroma ← loop (chromaWeightWrite l list) [] numRefIdxActive.toNat
  pure ⟨luma.sram, chroma⟩

/-- `struct cedrus_dec_h265_sram_frame_info`, with the buffer in place of its addresses. -/
structure FrameInfo where
  buffer : ℕ
  fieldPic : Bool
  topPicOrderCnt : UInt32
  bottomPicOrderCnt : UInt32

/-- `cedrus_dec_h265_frame_info_write_single` -/
def frameInfoWriteSingle (buffer : ℕ) (fieldPic : Bool) (topPicOrderCnt bottomPicOrderCnt : UInt32) : FrameInfo where
  buffer
  fieldPic
  topPicOrderCnt
  bottomPicOrderCnt := if fieldPic then bottomPicOrderCnt else topPicOrderCnt

/-- The frame infos in the SRAM. -/
abbrev FrameInfos := ℕ → Option FrameInfo

namespace Job

/-- A round of `cedrus_dec_h265_frame_info_write_dpb`. -/
def dpbWrite (job : Job) (i : ℕ) (infos : FrameInfos) : Access FrameInfos := do
  let entry ← read .dpb job.decodeParams.dpb i
  match job.pictureFind entry.timestamp with
  | none => pure infos
  | some buffer =>
      let entry ← read .dpb job.decodeParams.dpb i
      let poc := entry.picOrderCntVal.toUInt32
      pure (Function.update infos i (some (frameInfoWriteSingle buffer entry.fieldPic poc poc)))

/-- `cedrus_dec_h265_frame_info_write_dpb` -/
def frameInfoWriteDpb (job : Job) (infos : FrameInfos) : Access FrameInfos :=
  loop job.dpbWrite infos job.decodeParams.numActiveDpbEntries.toNat

/-- The output of the job stands behind the `V4L2_HEVC_DPB_ENTRIES_NUM_MAX` entries of the DPB. -/
def outputWrite (job : Job) (infos : FrameInfos) : FrameInfos :=
  let poc := job.sliceParams.slicePicOrderCnt.toUInt32
  Function.update infos 16 (some (frameInfoWriteSingle job.destination (job.sliceParams.picStruct ≠ 0) poc poc))

/-- An entry of a list comes after the picture. -/
def isLater (job : Job) (l : ListX) (i : ℕ) : Access Bool := do
  let index ← read (.refIdx l) (job.sliceParams.list l).refIdx i
  let entry ← read .dpb job.decodeParams.dpb index.toNat
  pure (decide (entry.picOrderCntVal > job.decodeParams.picOrderCntVal))

/-- `cedrus_h265_is_low_delay` -/
def isLowDelay (job : Job) : Access Bool := do
  let later ← any (job.isLater .l0) ((job.sliceParams.list .l0).numRefIdxActiveMinus1.toNat + 1)
  if later then pure true
  else if job.sliceParams.sliceType ≠ sliceTypeB then pure false
  else any (job.isLater .l1) ((job.sliceParams.list .l1).numRefIdxActiveMinus1.toNat + 1)

end Job

/-- What is left of a job in the registers, in the SRAM and in memory. `mvColBuf` belongs to the destination. -/
structure Decoder where
  mvColBuf : MvCol.Buffer
  tiles : Tiles
  sliceNotLowDelay : Bool
  frameInfos : FrameInfos
  refPicList : ListX → List UInt32
  predWeights : ListX → PredWeightTable

namespace Job

/-- `num_ref_idx_active`, which is passed as a byte. -/
def numRefIdxActive (job : Job) (l : ListX) : UInt8 := (job.sliceParams.list l).numRefIdxActiveMinus1 + 1

/-- One reference picture list of `cedrus_dec_h265_job_configure`, with its weights. -/
def listWrite (job : Job) (l : ListX) (weighted : Bool) (decoder : Decoder) : Access Decoder := do
  let list := job.sliceParams.list l
  let words ← refPicListWrite job.decodeParams.dpb l list.refIdx (job.numRefIdxActive l)
  let decoder := { decoder with refPicList := Function.update decoder.refPicList l words }
  if weighted then
    let weights ← predWeightWrite l list (job.numRefIdxActive l)
    pure { decoder with predWeights := Function.update decoder.predWeights l weights }
  else pure decoder

/-- `VE_DEC_H265_DEC_SLICE_HDR_INFO1_FLAG_SLICE_NOT_LOW_DELAY` -/
def sliceNotLowDelay (job : Job) : Access Bool :=
  if job.sliceParams.sliceType ≠ sliceTypeI then do
    let lowDelay ← job.isLowDelay
    pure !lowDelay
  else pure false

/-- Reference picture list 0, for P and B frames. -/
def list0Write (job : Job) (decoder : Decoder) : Access Decoder :=
  if job.sliceParams.sliceType ≠ sliceTypeI then
    job.listWrite .l0 (job.pps.weightedPred || job.pps.weightedBipred) decoder
  else pure decoder

/-- Reference picture list 1, for B frames. -/
def list1Write (job : Job) (decoder : Decoder) : Access Decoder :=
  if job.sliceParams.sliceType = sliceTypeB then job.listWrite .l1 job.pps.weightedBipred decoder else pure decoder

/-- `cedrus_dec_h265_job_configure` from the slice parameters on. -/
def sliceWrite (job : Job) (decoder : Decoder) : Access Decoder := do
  let sliceNotLowDelay ← job.sliceNotLowDelay
  let infos ← job.frameInfoWriteDpb decoder.frameInfos
  let decoder ← job.list0Write { decoder with sliceNotLowDelay, frameInfos := job.outputWrite infos }
  job.list1Write decoder

/-- `cedrus_dec_h265_job_configure` -/
def configure (job : Job) (decoder : Decoder) : Access (Decoder × ℤ) :=
  let numEntryPointOffsets := job.sliceParams.numEntryPointOffsets
  if numEntryPointOffsets ≠ 0 ∧ numEntryPointOffsets ≠ job.entryPointOffsetsCount then pure (decoder, MvCol.erange)
  else
    let (mvColBuf, ret) := decoder.mvColBuf.attach (MvCol.h265MvColSize job.size job.sps.toH265Sps) job.allocated
    if ret ≠ 0 then pure ({ decoder with mvColBuf }, ret)
    else do
      let tiles ← job.tiles decoder.tiles.entryPointsBuf
      let decoder := { decoder with mvColBuf, tiles }
      if job.sliceParams.dataByteOffset = 0 then pure (decoder, MvCol.eopnotsupp)
      else if job.padding = 0 then pure (decoder, MvCol.einval)
      else
        let decoder ← job.sliceWrite decoder
        pure (decoder, 0)

end Job

end H618Vpu.DecH265
