import H618Vpu.Bytes.Memory
import H618Vpu.Model.JpegEnc

/-! # The JPEG file in the plane of a coded buffer

The ends of a JPEG job and of its buffer as they act on the bytes of the plane: the payload is moved to make room,
and the header is written over where it was. Every access is checked; one outside of the plane has no result.
-/

namespace H618Vpu.Jpeg

open Bytes
open Formats (PixFormat)

/-- `struct cedrus_enc_jpeg_header` -/
structure Header where
  data : List UInt8
  size : ℕ
  position : ℕ

/-- A writer returns 0 or an error, and leaves what it has written. -/
abbrev Writer := ExceptT ℤ (StateT Header Option) Unit

namespace Header

/-- `cedrus_enc_jpeg_put_byte` -/
def putByte (byte : UInt8) : Writer := ExceptT.mk fun header =>
  if header.size ≤ header.position then some (.error enospc, header)
  else (poke header.data header.position byte).map fun data =>
    (.ok (), { header with data, position := header.position + 1 })

/-- `cedrus_enc_jpeg_put_array` -/
def putArray (data : List UInt8) : Writer := forM data putByte

/-- `cedrus_enc_jpeg_put_u16` -/
def putU16 (value : ℕ) : Writer := do
  putByte (.ofNat (value / 256))
  putByte (.ofNat value)

/-- A turn of the loop over the tables in `cedrus_enc_jpeg_put_header`. -/
def putTable (id : UInt8) (table : Table) : Writer := do
  putArray [0xff, 0xdb, 0x00, 0x43]
  putByte id
  forM zigzag fun i => putByte (table i)

/-- `cedrus_enc_jpeg_put_header` -/
def putHeader (format : PixFormat) (quant : Quant) : Writer := do
  putArray
    [0xff, 0xd8, 0xff, 0xe0, 0x00, 0x10, 0x4a, 0x46, 0x49, 0x46, 0x00, 0x01, 0x01, 0x00, 0x00, 0x01, 0x00, 0x01, 0x00,
      0x00]
  putTable 0 quant.luma
  putTable 1 quant.chroma
  putArray [0xff, 0xc0, 0x00, 0x11, 0x08]
  putU16 format.height
  putU16 format.width
  putArray [0x03, 0x01, 0x22, 0x00, 0x02, 0x11, 0x01, 0x03, 0x11, 0x01]
  putArray dht
  putArray [0xff, 0xda, 0x00, 0x0c, 0x03, 0x01, 0x00, 0x02, 0x11, 0x03, 0x11, 0x00, 0x3f, 0x00]

end Header

/-- A coded buffer: the bytes of its plane and whether the processor can map them, its payload, whether its state
is `VB2_BUF_STATE_DONE`, its flags, and the data of the engine with it. -/
structure VbBuffer where
  coded : List UInt8
  mapped : Bool := true
  payload : ℕ := 0
  state : Bool := false
  error : Bool := false
  keyframe : Bool := false
  jpegBuffer : Option Buffer := some {}

namespace VbBuffer

/-- `vb2_set_plane_payload` -/
def setPayload (buffer : VbBuffer) (size : ℕ) : VbBuffer := { buffer with payload := min size buffer.coded.length }

/-- A buffer that is given back without a payload. -/
def fail (buffer : VbBuffer) : VbBuffer := { buffer.setPayload 0 with error := true }

/-- What is left of the plane beside the header and the end marker, in an `unsigned long`. -/
def room (buffer : VbBuffer) (headerSize : ℕ) : ℕ := (buffer.coded.length + 2 ^ 64 - headerSize - 2) % 2 ^ 64

/-- `cedrus_enc_jpeg_job_finish`, of a job whose length register says `length`. -/
def jobFinish (buffer : VbBuffer) (job : Job) (state : Bool) (length : ℕ) : VbBuffer :=
  let buffer := { buffer with state }
  if !state || buffer.jpegBuffer.isNone then buffer.setPayload 0
  else
    let buffer := { buffer with jpegBuffer := some { quant := job.quant, headerSize := job.headerSize } }
    if length % 8 ≠ 0 ∨ buffer.room job.headerSize < length / 8 then buffer.fail
    else { buffer.setPayload (length / 8) with keyframe := true }

/-- `cedrus_enc_jpeg_buffer_finish` -/
def bufferFinish (buffer : VbBuffer) (format : PixFormat) : Option VbBuffer :=
  match buffer.jpegBuffer with
  | none => some buffer
  | some jpegBuffer =>
      if jpegBuffer.headerSize ≠ headerSize ∨ buffer.state = false ∨ buffer.error = true then some buffer
      else if buffer.mapped = false ∨ buffer.room jpegBuffer.headerSize < buffer.payload then some buffer.fail
      else do
        let length := buffer.payload
        let coded ← move buffer.coded jpegBuffer.headerSize 0 length
        let (ret, header) ← (Header.putHeader format jpegBuffer.quant).run ⟨coded, jpegBuffer.headerSize, 0⟩
        let buffer := { buffer with coded := header.data }
        match ret with
        | .error _ => some buffer.fail
        | .ok () =>
            if header.position ≠ jpegBuffer.headerSize then some buffer.fail
            else do
              let length := length + jpegBuffer.headerSize
              let coded ← poke header.data length 0xff
              let coded ← poke coded (length + 1) 0xd9
              some ({ buffer with coded }.setPayload (length + 2))

end VbBuffer

end H618Vpu.Jpeg
