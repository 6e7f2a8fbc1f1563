import H618Vpu.Model.Formats
import H618Vpu.Model.H264Enc

/-! # The crop selection

`S_SELECTION` stores the rectangle of the picture that the headers of the stream crop to. Its arithmetic mixes
signed offsets and unsigned sizes of 32 bits, so the types are those of the structure.
-/

namespace H618Vpu.Formats

/-- `struct v4l2_rect` -/
structure V4l2Rect where
  left : Int32
  top : Int32
  width : UInt32
  height : UInt32
deriving DecidableEq, Repr

/-- `V4L2_SEL_TGT_CROP`, and the targets that cannot be set. -/
inductive SelectionTarget where
  | crop
  | cropDefault
  | cropBounds
  | other
deriving DecidableEq, Repr

/-- `struct v4l2_selection` -/
structure Selection where
  type : BufferType
  target : SelectionTarget
  r : V4l2Rect
deriving DecidableEq, Repr

/-- `round_up`, for a power of two. -/
def roundUp (x y : Int32) : Int32 := ((x - 1) ||| (y - 1)) + 1

/-- `clamp` -/
def clamp (val lo hi : UInt32) : UInt32 := min (max val lo) hi

/-- `cedrus_proc_s_selection`: the rectangle that is stored in `selection_picture` and answered. -/
def Proc.sSelection (proc : Proc) (pixFormat : PixFormat) (selection : Selection) : Except ℤ V4l2Rect :=
  if proc.formatType selection.type ≠ .picture then .error einval
  else
    match selection.target with
    | .crop =>
        let left := roundUp selection.r.left 2
        let top := roundUp selection.r.top 2
        let widthMax := UInt32.ofNat pixFormat.width - left.toUInt32
        let heightMax := UInt32.ofNat pixFormat.height - top.toUInt32
        .ok ⟨left, top, clamp selection.r.width 2 widthMax, clamp selection.r.height 2 heightMax⟩
    | _ => .error einval

/-- What the SPS writer reads of `selection_picture`, its offsets in a `u32`. -/
def V4l2Rect.input (rect : V4l2Rect) : H264.Input where
  left := rect.left.toUInt32
  top := rect.top.toUInt32
  width := rect.width
  height := rect.height

end H618Vpu.Formats
