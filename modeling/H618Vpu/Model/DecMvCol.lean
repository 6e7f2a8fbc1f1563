import H618Vpu.Math.Align
import H618Vpu.Machine.Run

/-! # Co-located motion vectors of the H.264 and H.265 decoders

Both decoders keep a motion-vector buffer with each picture buffer. It is allocated by the first job into
the picture, with the SPS of that job, and stays until vb2 cleans the picture buffer up. The negotiated
format is fixed; its dimensions are at most the largest an engine takes, so no product below reaches 32 bits.
-/

namespace H618Vpu.MvCol

open Math

/-- The width and height of the negotiated coded format. -/
structure Size where
  width : ℕ
  height : ℕ
  width_pos : 0 < width
  width_le : width ≤ 4096
  height_pos : 0 < height
  height_le : height ≤ 4096

/-- `struct cedrus_dec_h264_buffer` and `struct cedrus_dec_h265_buffer`: the size of the buffer, zero while
there is none. -/
structure Buffer where
  mvColBufSize : ℕ := 0
deriving DecidableEq, Repr

def erange : ℤ := -34
def enomem : ℤ := -12
def einval : ℤ := -22
def eopnotsupp : ℤ := -95

/-- The lazy allocation; `allocated` is the answer of `dma_alloc_attrs`. -/
def Buffer.attach (buffer : Buffer) (size : ℕ) (allocated : Bool) : Buffer × ℤ :=
  if buffer.mvColBufSize ≠ 0 then (buffer, 0)
  else if allocated then (⟨size⟩, 0)
  else (buffer, enomem)

/-- The flags of `struct v4l2_ctrl_h264_sps` that the size depends on. -/
structure H264Sps where
  direct8x8Inference : Bool
  frameMbsOnly : Bool
deriving DecidableEq, Repr

structure H264Job where
  sps : H264Sps
  allocated : Bool
deriving DecidableEq, Repr

/-- The size in `cedrus_write_frame_list`. -/
def h264MvColSize (size : Size) (sps : H264Sps) : ℕ :=
  let fieldSize := divRoundUp size.width 16 * divRoundUp size.height 16 * 16
  let fieldSize := if !sps.direct8x8Inference then fieldSize * 2 else fieldSize
  let fieldSize := if !sps.frameMbsOnly then fieldSize * 2 else fieldSize
  fieldSize * 2

/-- `cedrus_write_frame_list`, whose error `cedrus_dec_h264_job_configure` returns. -/
def h264JobConfigure (size : Size) (job : H264Job) (buffer : Buffer) : Buffer × ℤ :=
  buffer.attach (h264MvColSize size job.sps) job.allocated

/-- The fields of `struct v4l2_ctrl_hevc_sps` that the size depends on; the V4L2 core does not check them. -/
structure H265Sps where
  log2MinLumaCodingBlockSizeMinus3 : UInt8
  log2DiffMaxMinLumaCodingBlockSize : UInt8
deriving DecidableEq, Repr

/-- The SPS and what else `cedrus_dec_h265_job_configure` checks; `padding` is the byte the hardware reads. -/
structure H265Job where
  sps : H265Sps
  numEntryPointOffsets : ℕ
  entryPointOffsetsCount : ℕ
  dataByteOffset : ℕ
  padding : ℕ
  allocated : Bool
deriving DecidableEq, Repr

/-- `ctb_size_luma`, an `unsigned int`. A 64-bit Arm takes the amount of a shift modulo 64. -/
def H265Sps.ctbSizeLuma (sps : H265Sps) : ℕ :=
  2 ^ ((sps.log2MinLumaCodingBlockSizeMinus3.toNat + 3 + sps.log2DiffMaxMinLumaCodingBlockSize.toNat) % 64) % 2 ^ 32

/-- The number of CTBs that cover the picture; a 64-bit Arm divides by zero to zero, as `/` does here. -/
def H265Sps.ctbs (size : Size) (sps : H265Sps) : ℕ :=
  divRoundUp size.width sps.ctbSizeLuma * divRoundUp size.height sps.ctbSizeLuma

/-- The size in `cedrus_dec_h265_job_configure`, with `CEDRUS_DEC_H265_MV_COL_BUF_UNIT_CTB_SIZE` and a
`SZ_1K` for the alignment. -/
def h265MvColSize (size : Size) (sps : H265Sps) : ℕ := sps.ctbs size * 160 + 1024

/-- `cedrus_dec_h265_job_configure` -/
def h265JobConfigure (size : Size) (job : H265Job) (buffer : Buffer) : Buffer × ℤ :=
  if job.numEntryPointOffsets ≠ 0 ∧ job.numEntryPointOffsets ≠ job.entryPointOffsetsCount then (buffer, erange)
  else
    let (buffer, ret) := buffer.attach (h265MvColSize size job.sps) job.allocated
    if ret ≠ 0 then (buffer, ret)
    else if job.dataByteOffset = 0 then (buffer, eopnotsupp)
    else if job.padding = 0 then (buffer, einval)
    else (buffer, 0)

inductive Codec where
  | h264
  | h265
deriving DecidableEq, Repr

namespace Codec

def Sps : Codec → Type
  | h264 => H264Sps
  | h265 => H265Sps

def Job : Codec → Type
  | h264 => H264Job
  | h265 => H265Job

def sps : (codec : Codec) → codec.Job → codec.Sps
  | h264 => H264Job.sps
  | h265 => H265Job.sps

def mvColSize : (codec : Codec) → Size → codec.Sps → ℕ
  | h264 => h264MvColSize
  | h265 => h265MvColSize

def jobConfigure : (codec : Codec) → Size → codec.Job → Buffer → Buffer × ℤ
  | h264 => h264JobConfigure
  | h265 => h265JobConfigure

end Codec

variable {codec : Codec}

/-- A job that was configured without an error, and the buffer its destination had then. -/
structure Programmed (codec : Codec) where
  sps : codec.Sps
  buffer : Buffer

/-- The private data of the picture buffers, by slot, and the jobs handed to the hardware. -/
structure State (codec : Codec) where
  buffers : ℕ → Buffer := fun _ => {}
  programmed : List (Programmed codec) := []

inductive Event (codec : Codec) where
  | job (picture : ℕ) (job : codec.Job)
  /-- `cedrus_dec_h264_buffer_cleanup` or `cedrus_dec_h265_buffer_cleanup`; the slot may get memory again. -/
  | bufferCleanup (picture : ℕ)

def step (size : Size) (s : State codec) : Event codec → Option (State codec)
  | .job picture job =>
      let (buffer, ret) := codec.jobConfigure size job (s.buffers picture)
      some {
        buffers := Function.update s.buffers picture buffer
        programmed := if ret = 0 then ⟨codec.sps job, buffer⟩ :: s.programmed else s.programmed }
  | .bufferCleanup picture => some { s with buffers := Function.update s.buffers picture {} }

end H618Vpu.MvCol
