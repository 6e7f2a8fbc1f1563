import H618Vpu.Math.Align
import H618Vpu.Model.Device

/-! # Engines and the formats of a node

A node has a coded and a picture queue. Its engines (one for each codec) come with a coded pixel
format, the frame sizes they take and the private data they keep with a buffer. The formats of the
two queues depend on each other: the decoder derives the picture from the coded dimensions, the
encoder the coded from the picture dimensions. Every product of dimensions below stays under 2 ^ 32
because dimensions are clamped to those of an engine first, so natural numbers stand for `u32`.
-/

namespace H618Vpu.Formats

open Device (Role)
open Math

/-- The pixel formats the driver names. -/
inductive PixelFormat where
  | mpeg2Slice
  | h264Slice
  | hevcSlice
  | vp8Frame
  | vp9Frame
  | h264
  | jpeg
  | nv12
  | nv12_32L32
  | other (fourcc : ℕ)
deriving DecidableEq, Repr

/-- `enum cedrus_format_type` -/
inductive FormatType where
  | coded
  | picture
deriving DecidableEq, Repr

/-- `V4L2_BUF_TYPE_VIDEO_OUTPUT` and `V4L2_BUF_TYPE_VIDEO_CAPTURE` -/
inductive BufferType where
  | output
  | capture
deriving DecidableEq, Repr

/-- `struct v4l2_frmsize_stepwise` -/
structure Frmsize where
  minWidth : ℕ
  maxWidth : ℕ
  stepWidth : ℕ
  minHeight : ℕ
  maxHeight : ℕ
  stepHeight : ℕ
deriving DecidableEq, Repr

/-- `clamp_roundup` -/
def clampRoundup (x min max alignment : ℕ) : ℕ :=
  let clamped := if x < min then min else if max < x then max else x
  if alignment = 0 then clamped else align clamped alignment

/-- `v4l2_apply_frmsize_constraints`: the width and height the engine takes. -/
def applyFrmsizeConstraints (width height : ℕ) (frmsize : Frmsize) : ℕ × ℕ :=
  (clampRoundup width frmsize.minWidth frmsize.maxWidth frmsize.stepWidth,
    clampRoundup height frmsize.minHeight frmsize.maxHeight frmsize.stepHeight)

/-- The engines of the decoder and of the encoder. -/
inductive Engine where
  | decMpeg2
  | decH264
  | decH265
  | decVp8
  | decVp9
  | encH264
  | encJpeg
deriving DecidableEq, Repr

namespace Engine

def pixelformat : Engine → PixelFormat
  | decMpeg2 => .mpeg2Slice
  | decH264 => .h264Slice
  | decH265 => .hevcSlice
  | decVp8 => .vp8Frame
  | decVp9 => .vp9Frame
  | encH264 => .h264
  | encJpeg => .jpeg

def sliceBased : Engine → Bool
  | decH264 | decH265 => true
  | _ => false

def frmsize : Engine → Frmsize
  | decMpeg2 | decH264 | decH265 | decVp8 => ⟨16, 3840, 16, 16, 3840, 16⟩
  | decVp9 => ⟨64, 4096, 1, 64, 2304, 1⟩
  | encH264 => ⟨16, 3840, 2, 16, 2160, 2⟩
  | encJpeg => ⟨16, 1920, 2, 16, 1080, 2⟩

/-- Bytes of private data with a picture buffer, on a 64-bit build. -/
def bufferSize : Engine → ℕ
  | decH264 => 32
  | decH265 => 24
  | decVp9 => 48
  | encH264 => 56
  | decMpeg2 | decVp8 | encJpeg => 0

/-- Bytes of private data with a coded buffer. -/
def codedBufferSize : Engine → ℕ
  | encJpeg => 132
  | _ => 0

/-- The private data of a buffer of the given type. -/
def privateSize (engine : Engine) : FormatType → ℕ
  | .coded => engine.codedBufferSize
  | .picture => engine.bufferSize

end Engine

/-- `struct cedrus_proc`: the role of the node, the engines and the picture formats its device has. -/
structure Proc where
  role : Role
  engines : List Engine
  pictureFormats : List PixelFormat
  engines_ne : engines ≠ []

/-- The decoder node of a device with every capability. -/
def decProc : Proc where
  role := .decoder
  engines := [.decMpeg2, .decH264, .decH265, .decVp8, .decVp9]
  pictureFormats := [.nv12, .nv12_32L32]
  engines_ne := List.cons_ne_nil _ _

/-- The encoder node of a device with every capability. -/
def encProc : Proc where
  role := .encoder
  engines := [.encH264, .encJpeg]
  pictureFormats := [.nv12]
  engines_ne := List.cons_ne_nil _ _

namespace Proc

/-- `cedrus_proc_format_type` -/
def formatType (proc : Proc) (type : BufferType) : FormatType :=
  match proc.role, type with
  | .decoder, .output | .encoder, .capture => .coded
  | .decoder, .capture | .encoder, .output => .picture

/-- `cedrus_proc_formats_setup`: the coded formats of the engines, then the picture formats. -/
def formats (proc : Proc) : List (PixelFormat × FormatType) :=
  proc.engines.map (fun engine => (engine.pixelformat, .coded)) ++ proc.pictureFormats.map (·, .picture)

/-- `cedrus_proc_format_find_first` -/
def formatFindFirst (proc : Proc) (type : FormatType) : PixelFormat :=
  ((proc.formats.find? (·.2 = type)).map (·.1)).getD (.other 0)

/-- `cedrus_proc_format_check` -/
def formatCheck (proc : Proc) (pixelformat : PixelFormat) (type : FormatType) : Bool :=
  (pixelformat, type) ∈ proc.formats

/-- An unsupported format is replaced by the first one of its type. -/
def formatSelect (proc : Proc) (pixelformat : PixelFormat) (type : FormatType) : PixelFormat :=
  if proc.formatCheck pixelformat type then pixelformat else proc.formatFindFirst type

/-- `cedrus_proc_engine_find_format` -/
def engineFindFormat (proc : Proc) (pixelformat : PixelFormat) : Option Engine :=
  proc.engines.find? (·.pixelformat = pixelformat)

end Proc

/-- The colour information of a format. -/
structure Colour where
  colorspace : ℕ := 0
  xferFunc : ℕ := 0
  ycbcrEnc : ℕ := 0
  quantization : ℕ := 0
deriving DecidableEq, Repr

/-- `struct v4l2_pix_format` -/
structure PixFormat where
  pixelformat : PixelFormat := .other 0
  width : ℕ := 0
  height : ℕ := 0
  bytesperline : ℕ := 0
  sizeimage : ℕ := 0
  field : ℕ := 0
  colour : Colour := {}
deriving DecidableEq, Repr

/-- `V4L2_FIELD_NONE` -/
def fieldNone : ℕ := 1

def einval : ℤ := -22
def enodev : ℤ := -19

/-- The layout `cedrus_dec_format_picture_prepare` derives from the coded dimensions: width, height,
bytes per line and image size. -/
def decPictureLayout (pixelformat : PixelFormat) (width height : ℕ) : Option (ℕ × ℕ × ℕ × ℕ) :=
  match pixelformat with
  | .nv12 =>
      let bytesperline := align width 16
      some (width, height, bytesperline, bytesperline * height + bytesperline * height / 2)
  | .nv12_32L32 =>
      let width := align width 32
      let height := align height 32
      let bytesperline := align width 32
      some (width, height, bytesperline, bytesperline * height + bytesperline * align height 64 / 2)
  | _ => none

/-- `cedrus_dec_format_picture_prepare` -/
def decPicturePrepare (coded request : PixFormat) : Except ℤ PixFormat :=
  match decPictureLayout request.pixelformat coded.width coded.height with
  | none => .error einval
  | some (width, height, bytesperline, sizeimage) =>
      .ok
        { request with
          width, height, bytesperline, sizeimage
          field := fieldNone
          colour := coded.colour }

/-- `cedrus_dec_format_coded_prepare` -/
def decCodedPrepare (engine : Engine) (request : PixFormat) : PixFormat :=
  let (width, height) := applyFrmsizeConstraints request.width request.height engine.frmsize
  { request with
    width, height
    bytesperline := 0
    sizeimage := max 1024 request.sizeimage
    field := fieldNone }

/-- `cedrus_enc_format_picture_prepare` -/
def encPicturePrepare (engine : Engine) (request : PixFormat) : Except ℤ PixFormat :=
  let (width, height) := applyFrmsizeConstraints request.width request.height engine.frmsize
  let bytesperline :=
    align (if request.bytesperline < width || 32 * width < request.bytesperline then width else request.bytesperline) 16
  match request.pixelformat with
  | .nv12 =>
      .ok
        { request with
          width, height, bytesperline
          sizeimage := bytesperline * height + bytesperline * height / 2
          field := fieldNone }
  | _ => .error einval

/-- `cedrus_enc_format_coded_prepare` -/
def encCodedPrepare (picture request : PixFormat) : PixFormat :=
  { request with
    width := picture.width
    height := picture.height
    bytesperline := 0
    sizeimage := max 1024 request.sizeimage
    field := fieldNone
    colour := picture.colour }

end H618Vpu.Formats
