import Mathlib

/-! # The VP9 controls of a request

The part of `struct v4l2_ctrl_vp9_frame` and `struct v4l2_ctrl_vp9_compressed_hdr` the driver
reads. An array of the source is a function on its index range and a probability is a byte. Flag
words are one Boolean a flag, and fields whose range the V4L2 core checks before it accepts a
control have the type of that range.
-/

namespace H618Vpu.Vp9

-- The index types are not empty. Named here so that an index literal is the same term in every module.
instance neZeroTwo : NeZero 2 := ⟨by decide⟩

instance neZeroFour : NeZero 4 := ⟨by decide⟩

scoped instance neZeroOne : NeZero 1 := ⟨by decide⟩

scoped instance neZeroEight : NeZero 8 := ⟨by decide⟩

/-- `enum v4l2_vp9_interpolation_filter`. -/
inductive InterpFilter where
  | eighttap
  | eighttapSmooth
  | eighttapSharp
  | bilinear
  | switchable
deriving DecidableEq, Repr

/-- `enum v4l2_vp9_reference_mode`. -/
inductive ReferenceMode where
  | singleReference
  | compoundReference
  | select
deriving DecidableEq, Repr

/-- `V4L2_VP9_RESET_FRAME_CTX_*`. -/
inductive ResetFrameCtx where
  | none
  | spec
  | all
deriving DecidableEq, Repr

/-- `V4L2_VP9_TX_MODE_SELECT`. -/
def txModeSelect : ℕ := 4

/-- `struct v4l2_vp9_mv_probs`. -/
structure MvProbs where
  joint : Fin 3 → UInt8
  sign : Fin 2 → UInt8
  classes : Fin 2 → Fin 10 → UInt8
  class0Bit : Fin 2 → UInt8
  bits : Fin 2 → Fin 10 → UInt8
  class0Fr : Fin 2 → Fin 2 → Fin 3 → UInt8
  fr : Fin 2 → Fin 3 → UInt8
  class0Hp : Fin 2 → UInt8
  hp : Fin 2 → UInt8

/-- `struct v4l2_vp9_frame_context`. -/
structure FrameContext where
  tx8 : Fin 2 → Fin 1 → UInt8
  tx16 : Fin 2 → Fin 2 → UInt8
  tx32 : Fin 2 → Fin 3 → UInt8
  coef : Fin 4 → Fin 2 → Fin 2 → Fin 6 → Fin 6 → Fin 3 → UInt8
  skip : Fin 3 → UInt8
  interMode : Fin 7 → Fin 3 → UInt8
  interpFilter : Fin 4 → Fin 2 → UInt8
  isInter : Fin 4 → UInt8
  compMode : Fin 5 → UInt8
  singleRef : Fin 5 → Fin 2 → UInt8
  compRef : Fin 5 → UInt8
  yMode : Fin 4 → Fin 9 → UInt8
  uvMode : Fin 10 → Fin 9 → UInt8
  partition : Fin 16 → Fin 3 → UInt8
  mv : MvProbs

/-- All entries zero: freshly allocated tables, and the deltas of a header that updates nothing. -/
def FrameContext.zero : FrameContext where
  tx8 _ _ := 0
  tx16 _ _ := 0
  tx32 _ _ := 0
  coef _ _ _ _ _ _ := 0
  skip _ := 0
  interMode _ _ := 0
  interpFilter _ _ := 0
  isInter _ := 0
  compMode _ := 0
  singleRef _ _ := 0
  compRef _ := 0
  yMode _ _ := 0
  uvMode _ _ := 0
  partition _ _ := 0
  mv :=
    { joint := fun _ => 0
      sign := fun _ => 0
      classes := fun _ _ => 0
      class0Bit := fun _ => 0
      bits := fun _ _ => 0
      class0Fr := fun _ _ _ => 0
      fr := fun _ _ => 0
      class0Hp := fun _ => 0
      hp := fun _ => 0 }

/-- `struct v4l2_ctrl_vp9_compressed_hdr`: the transform mode and the deltas, in the layout of the
probabilities they apply to. -/
structure CompressedHdr where
  txMode : ℕ
  deltas : FrameContext

/-- The value the V4L2 core gives the compressed header control before it is set. -/
def CompressedHdr.stdInit : CompressedHdr := ⟨0, .zero⟩

/-- `struct v4l2_vp9_segmentation`. -/
structure Segmentation where
  enabled : Bool
  updateMap : Bool
  temporalUpdate : Bool
deriving DecidableEq, Repr

/-- `struct v4l2_ctrl_vp9_frame`. -/
structure Frame where
  keyFrame : Bool
  showFrame : Bool
  errorResilient : Bool
  intraOnly : Bool
  allowHighPrecMv : Bool
  refreshFrameCtx : Bool
  parallelDecMode : Bool
  seg : Segmentation
  profile : ℕ
  bitDepth : ℕ
  interpolationFilter : InterpFilter
  referenceMode : ReferenceMode
  resetFrameContext : ResetFrameCtx
  frameContextIdx : Fin 4
  tileColsLog2 : ℕ
  tileRowsLog2 : ℕ
  frameWidthMinus1 : ℕ
  frameHeightMinus1 : ℕ
  uncompressedHeaderSize : ℕ
  compressedHeaderSize : ℕ
  lastFrameTs : ℕ
  goldenFrameTs : ℕ
  altFrameTs : ℕ
deriving DecidableEq, Repr

/-- The value the V4L2 core gives the frame control before it is set. -/
def Frame.stdInit : Frame where
  keyFrame := false
  showFrame := false
  errorResilient := false
  intraOnly := false
  allowHighPrecMv := false
  refreshFrameCtx := false
  parallelDecMode := false
  seg := ⟨false, false, false⟩
  profile := 0
  bitDepth := 8
  interpolationFilter := .eighttap
  referenceMode := .singleReference
  resetFrameContext := .none
  frameContextIdx := 0
  tileColsLog2 := 0
  tileRowsLog2 := 0
  frameWidthMinus1 := 0
  frameHeightMinus1 := 0
  uncompressedHeaderSize := 0
  compressedHeaderSize := 0
  lastFrameTs := 0
  goldenFrameTs := 0
  altFrameTs := 0

namespace Frame

def width (frame : Frame) : ℕ := frame.frameWidthMinus1 + 1

def height (frame : Frame) : ℕ := frame.frameHeightMinus1 + 1

/-- `intra_only` of the driver: key and intra-only frames. -/
def isIntra (frame : Frame) : Bool := frame.keyFrame || frame.intraOnly

/-- `high_bit_depth`. -/
def highBitDepth (frame : Frame) : Bool := frame.profile = 2 ∧ frame.bitDepth = 10

/-- The timestamps of the three references, in the order they are looked up. -/
def referenceTs (frame : Frame) : List ℕ := [frame.lastFrameTs, frame.goldenFrameTs, frame.altFrameTs]

end Frame

end H618Vpu.Vp9
