import H618Vpu.Model.DecMvCol

/-! # The H.264 decoder: frame list and reference lists

`cedrus_dec_h264.c`. The engine finds its pictures in a frame list of `CEDRUS_DEC_H264_FRAME_NUM` slots in
the SRAM. Each job writes the list anew from the DPB of its request; the slot of a picture stays in the
private data of its buffer. The reference lists of a slice name the slots.

Registers that neither list goes to are left out, and so is what the hardware makes of the job.
-/

namespace H618Vpu.DecH264

open Math

/-- `CEDRUS_DEC_H264_FRAME_NUM` -/
abbrev frameNum : ℕ := 18

/-- `enum cedrus_dec_h264_pic_type` -/
inductive PicType where
  | frame
  | field
  | mbaff
deriving DecidableEq, Repr

/-- `struct cedrus_dec_h264_buffer` -/
structure Buffer where
  position : ℕ := 0
  picType : PicType := .frame
  mvColBufDma : ℕ := 0
  mvColBufSize : ℕ := 0
deriving DecidableEq, Repr

/-- A picture buffer; the timestamp is there while `copied_timestamp` is set. -/
structure Picture where
  timestamp : Option ℕ := none
  buffer : Buffer := {}
deriving DecidableEq, Repr

/-- The negotiated formats and the picture buffers with their addresses. -/
structure Config where
  size : MvCol.Size
  bytesperline : ℕ
  pictureHeight : ℕ
  pictures : ℕ
  planeDma : ℕ → ℕ

structure Decoder where
  picture : ℕ → Picture := fun _ => {}

/-- `struct v4l2_h264_dpb_entry` -/
structure DpbEntry where
  valid : Bool := false
  active : Bool := false
  referenceTs : ℕ := 0
  topFieldOrderCnt : UInt32 := 0
  bottomFieldOrderCnt : UInt32 := 0
deriving DecidableEq, Repr

/-- `struct v4l2_h264_reference` -/
structure Reference where
  fields : UInt8
  index : UInt8
deriving DecidableEq, Repr

/-- `enum v4l2_h264_slice_type` -/
inductive SliceType where
  | p
  | b
  | i
  | sp
  | si
deriving DecidableEq, Repr

/-- A reference list of the slice parameters. The V4L2 core refuses more than 32 entries. -/
structure RefList where
  refPicList : ℕ → Reference
  numRefIdxActiveMinus1 : Fin 32

/-- `num_ref` -/
def RefList.numRef (list : RefList) : ℕ := list.numRefIdxActiveMinus1 + 1

/-- A request with the picture buffer v4l2-m2m pairs it with. The first sixteen entries of `dpb` are the
array; a read behind it finds the others. `mvColAlloc` is what `dma_alloc_attrs` answers if it is asked. -/
structure Job where
  destination : ℕ
  timestamp : ℕ
  dpb : ℕ → DpbEntry
  topFieldOrderCnt : UInt32
  bottomFieldOrderCnt : UInt32
  fieldPic : Bool
  bottomField : Bool
  sps : MvCol.H264Sps
  mbAdaptiveFrameField : Bool
  sliceType : SliceType
  refList0 : RefList
  refList1 : RefList
  mvColAlloc : Option ℕ

/-- The array `decode->dpb`. -/
def Job.entries (job : Job) : List DpbEntry := (List.range 16).map job.dpb

def Decoder.setBuffer (dec : Decoder) (number : ℕ) (buffer : Buffer) : Decoder :=
  { dec with picture := Function.update dec.picture number { dec.picture number with buffer } }

def Decoder.setTimestamp (dec : Decoder) (number : ℕ) (timestamp : Option ℕ) : Decoder :=
  { dec with picture := Function.update dec.picture number { dec.picture number with timestamp } }

/-- `cedrus_buffer_picture_find`, which is `vb2_find_buffer`: the first buffer with the timestamp. -/
def Decoder.pictureFind (dec : Decoder) (config : Config) (timestamp : ℕ) : Option ℕ :=
  (List.range config.pictures).find? fun number => (dec.picture number).timestamp = some timestamp

/-- `struct cedrus_dec_h264_sram_ref_pic` -/
structure SramRefPic where
  topFieldOrderCnt : UInt32 := 0
  bottomFieldOrderCnt : UInt32 := 0
  frameInfo : UInt32 := 0
  lumaPtr : UInt32 := 0
  chromaPtr : UInt32 := 0
  mvColTopPtr : UInt32 := 0
  mvColBotPtr : UInt32 := 0
deriving DecidableEq, Repr

/-- `cedrus_buffer_picture_dma` -/
def Config.pictureDma (config : Config) (number : ℕ) : ℕ × ℕ :=
  (config.planeDma number, config.planeDma number + config.bytesperline * config.pictureHeight)

/-- `cedrus_dec_h264_mv_col_buf_dma` -/
def Buffer.mvColDma (buffer : Buffer) : ℕ × ℕ :=
  (buffer.mvColBufDma, buffer.mvColBufDma + buffer.mvColBufSize / 2)

/-- `cedrus_fill_ref_pic` -/
def Config.fillRefPic (config : Config) (number : ℕ) (buffer : Buffer) (topFieldOrderCnt bottomFieldOrderCnt : UInt32) :
    SramRefPic :=
  let (luma, chroma) := config.pictureDma number
  let (mvColTop, mvColBottom) := buffer.mvColDma
  { topFieldOrderCnt
    bottomFieldOrderCnt
    frameInfo := UInt32.ofNat buffer.picType.ctorIdx <<< 8
    lumaPtr := .ofNat luma
    chromaPtr := .ofNat chroma
    mvColTopPtr := .ofNat mvColTop
    mvColBotPtr := .ofNat mvColBottom }

/-- The locals of the loop in `cedrus_write_frame_list`; `output` is there when it is not negative. -/
structure FrameList where
  usedDpbs : ℕ := 0
  output : Option ℕ := none
  picList : ℕ → SramRefPic := fun _ => {}

/-- One round of the loop. -/
def Decoder.visit (dec : Decoder) (config : Config) (timestamp : ℕ) (list : FrameList) (dpb : DpbEntry) : FrameList :=
  if !dpb.valid then list
  else
    match dec.pictureFind config dpb.referenceTs with
    | none => list
    | some ref =>
        let buffer := (dec.picture ref).buffer
        let position := buffer.position
        let list := { list with usedDpbs := list.usedDpbs ||| 1 <<< position }
        if timestamp = dpb.referenceTs then { list with output := some position }
        else if !dpb.active then list
        else
          { list with
            picList := Function.update list.picList position
              (config.fillRefPic ref buffer dpb.topFieldOrderCnt dpb.bottomFieldOrderCnt) }

/-- `find_first_zero_bit` -/
def findFirstZeroBit (word size : ℕ) : ℕ :=
  ((List.range size).find? fun bit => !word.testBit bit).getD size

/-- The slot that `cedrus_write_frame_list` gives the picture of the job. -/
def FrameList.position (list : FrameList) : ℕ := list.output.getD (findFirstZeroBit list.usedDpbs frameNum)

/-- The lazy allocation of the motion-vector buffer. -/
def Buffer.attachMvCol (buffer : Buffer) (size : ℕ) (mvColAlloc : Option ℕ) : Option Buffer :=
  if buffer.mvColBufSize ≠ 0 then some buffer
  else mvColAlloc.map fun mvColBufDma => { buffer with mvColBufDma, mvColBufSize := size }

def Job.picType (job : Job) : PicType :=
  if job.fieldPic then .field else if job.mbAdaptiveFrameField then .mbaff else .frame

/-- What goes to the frame list and to `VE_H264_OUTPUT_FRAME_IDX`. -/
structure FrameListWrites where
  picList : ℕ → SramRefPic
  outputFrameIdx : ℕ

/-- `cedrus_write_frame_list` -/
def Decoder.writeFrameList (dec : Decoder) (config : Config) (job : Job) : Decoder × Except ℤ FrameListWrites :=
  let list := job.entries.foldl (dec.visit config job.timestamp) {}
  let position := list.position
  let buffer := { (dec.picture job.destination).buffer with position }
  match buffer.attachMvCol (MvCol.h264MvColSize config.size job.sps) job.mvColAlloc with
  | none => (dec.setBuffer job.destination buffer, .error MvCol.enomem)
  | some buffer =>
      let buffer := { buffer with picType := job.picType }
      let own := config.fillRefPic job.destination buffer job.topFieldOrderCnt job.bottomFieldOrderCnt
      (dec.setBuffer job.destination buffer,
        .ok { picList := Function.update list.picList position own, outputFrameIdx := position })

/-- `V4L2_H264_BOTTOM_FIELD_REF` -/
def bottomFieldRef : UInt8 := 2

/-- The byte `sram_array[i]` for an entry of a reference list. -/
def Decoder.refByte (dec : Decoder) (config : Config) (job : Job) (ref : Reference) : UInt8 :=
  let dpb := job.dpb ref.index.toNat
  if !dpb.active then 0
  else
    match dec.pictureFind config dpb.referenceTs with
    | none => 0
    | some number =>
        UInt8.ofNat ((dec.picture number).buffer.position <<< 1) ||| if ref.fields = bottomFieldRef then 1 else 0

/-- `_cedrus_write_ref_list`: the bytes that go to the SRAM, of the `CEDRUS_DEC_H264_MAX_REF_IDX` in the array. -/
def Decoder.writeRefList (dec : Decoder) (config : Config) (job : Job) (list : RefList) : List UInt8 :=
  let sramArray := (List.range 32).map fun i =>
    if i < list.numRef then dec.refByte config job (list.refPicList i) else 0
  sramArray.take (min (align list.numRef 4) 32)

/-- What the engine reads of a job in the SRAM. -/
structure Program where
  frames : FrameListWrites
  refList0 : Option (List UInt8)
  refList1 : Option (List UInt8)

/-- The reference lists in `cedrus_set_params`. -/
def Decoder.setParams (dec : Decoder) (config : Config) (job : Job) (frames : FrameListWrites) : Program where
  frames
  refList0 :=
    if job.sliceType = .p ∨ job.sliceType = .sp ∨ job.sliceType = .b then
      some (dec.writeRefList config job job.refList0)
    else none
  refList1 := if job.sliceType = .b then some (dec.writeRefList config job job.refList1) else none

/-- `cedrus_dec_h264_job_configure` -/
def Decoder.jobConfigure (dec : Decoder) (config : Config) (job : Job) : Decoder × Except ℤ Program :=
  let (dec, frames) := dec.writeFrameList config job
  (dec, frames.map (dec.setParams config job))

/-- `v4l2_m2m_buf_copy_metadata`: the destination carries the timestamp of the job. -/
def Decoder.begin (dec : Decoder) (job : Job) : Decoder := dec.setTimestamp job.destination (some job.timestamp)

inductive Event where
  | queueBuffer (number : ℕ)
  /-- `cedrus_context_buffer_init`, for a buffer that vb2 has just made. -/
  | bufferSetup (number : ℕ)
  | runJob (job : Job)

/-- Queueing a buffer makes vb2 forget its timestamp. -/
def step (config : Config) (dec : Decoder) : Event → Option Decoder
  | .queueBuffer number => some (dec.setTimestamp number none)
  | .bufferSetup number => some { dec with picture := Function.update dec.picture number {} }
  | .runJob job => some ((dec.begin job).jobConfigure config job).1

end H618Vpu.DecH264
