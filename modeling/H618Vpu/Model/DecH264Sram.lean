import H618Vpu.Machine.PortBytes
import H618Vpu.Model.DecH264Access

/-! # The SRAM of the H.264 decoder

What `cedrus_dec_h264_job_configure` writes through the SRAM port: the scaling lists, the frame list, the weights and
the reference lists. Offsets are given in words, and the port counts in bytes.
-/

namespace H618Vpu.DecH264

open Machine

def sramPredWeightTable : ℕ := 0x000

def sramFramebufferList : ℕ := 0x100

/-- `CEDRUS_DEC_H264_SRAM_REF_LIST_0` and `_1` -/
def ListX.sramRefList : ListX → ℕ
  | l0 => 0x190
  | l1 => 0x199

/-- `CEDRUS_DEC_H264_SRAM_SCALING_LIST_8x8_0` and `_1` -/
def sramScalingList8x8 : ℕ → ℕ
  | 0 => 0x200
  | _ => 0x210

def sramScalingList4x4 : ℕ := 0x220

/-- `cedrus_h264_write_sram` -/
def writeSram (off : ℕ) (words : List UInt32) : Burst UInt32 := ⟨off * 4, words⟩

/-- `struct v4l2_ctrl_h264_scaling_matrix` -/
structure ScalingMatrix where
  scalingList4x4 : ℕ → ℕ → UInt8
  scalingList8x8 : ℕ → ℕ → UInt8

/-- A job with the flag of its PPS and its scaling matrix. -/
structure SramJob extends WeightedJob where
  scalingMatrixPresent : Bool
  scalingMatrix : ScalingMatrix

/-- `cedrus_write_scaling_lists`: two of the 8×8 lists, and the 4×4 lists as one array. -/
def SramJob.writeScalingLists (job : SramJob) : List (Burst UInt32) :=
  let list8x8 i := writeSram (sramScalingList8x8 i)
    (bytesWords ((List.range 64).map (job.scalingMatrix.scalingList8x8 i)))
  if !job.scalingMatrixPresent then []
  else
    [list8x8 0, list8x8 1, writeSram sramScalingList4x4
      (bytesWords ((List.range 6).flatMap fun i => (List.range 16).map (job.scalingMatrix.scalingList4x4 i)))]

/-- `struct cedrus_dec_h264_sram_ref_pic`, as words -/
def SramRefPic.words (pic : SramRefPic) : List UInt32 :=
  [pic.topFieldOrderCnt, pic.bottomFieldOrderCnt, pic.frameInfo, pic.lumaPtr, pic.chromaPtr, pic.mvColTopPtr,
    pic.mvColBotPtr, 0]

/-- The frame list, as `cedrus_write_frame_list` writes it. -/
def FrameListWrites.burst (frames : FrameListWrites) : Burst UInt32 :=
  writeSram sramFramebufferList ((List.range frameNum).flatMap fun slot => (frames.picList slot).words)

/-- `_cedrus_write_ref_list`, with the bytes it has gathered. -/
def ListX.burst (l : ListX) (bytes : List UInt8) : Burst UInt32 := writeSram l.sramRefList (bytesWords bytes)

/-- What `cedrus_set_params` writes to the SRAM. -/
def Program.bursts (program : Program) (weights : Option (List UInt32)) : List (Burst UInt32) :=
  (weights.map (writeSram sramPredWeightTable)).toList ++ (program.refList0.map ListX.l0.burst).toList ++
    (program.refList1.map ListX.l1.burst).toList

/-- `cedrus_dec_h264_job_configure`, as far as it goes. -/
def Decoder.sramBursts (dec : Decoder) (config : Config) (job : SramJob) : List (Burst UInt32) :=
  job.writeScalingLists ++
    match (dec.jobConfigureAccess config job.toWeightedJob).value.2 with
    | .error _ => []
    | .ok (program, weights) => program.frames.burst :: program.bursts weights

end H618Vpu.DecH264
