import H618Vpu.Bits.Cursor
import H618Vpu.Bits.Words
import H618Vpu.Model.DecH265

/-! # Where the decoders start to read

`cedrus_dec_h264.c` and `cedrus_dec_h265.c`. The driver leaves the parser of the hardware at the end of the slice
header: it sets the offset to zero and flushes bits, as many as a trigger can take at once. User space gives the
length of a header in H.264; in H.265 it gives the start of the slice data, and the byte before shows the padding.
-/

namespace H618Vpu.DecBits

open Bits

/-- The parser: the stream it has been given, where it stands, and the bits it showed last. -/
structure Vld where
  bytes : ℕ → UInt8
  position : ℕ
  bitsRead : UInt32

/-- `VE_DEC_H265_TRIGGER_TYPE_N_BITS` and `VE_H264_TRIGGER_TYPE_N_BITS` -/
def triggerTypeNBits (count : UInt32) : UInt32 := (count &&& 0x3f) <<< 8

/-- `VE_DEC_H265_TRIGGER_SHOW_BITS` -/
def triggerShowBits : UInt32 := 0x01

/-- `VE_DEC_H265_TRIGGER_FLUSH_BITS` and `VE_H264_TRIGGER_TYPE_FLUSH_BITS` -/
def triggerFlushBits : UInt32 := 0x03

/-- `VE_DEC_H265_TRIGGER_INIT_SWDEC` and `VE_H264_TRIGGER_TYPE_INIT_SWDEC` -/
def triggerInitSwdec : UInt32 := 0x07

namespace Vld

/-- What the parser does on a write to the trigger register: the command is in the low bits, the number of bits
above. It starts at the offset that was programmed, which is zero. -/
def trigger (vld : Vld) (word : UInt32) : Vld :=
  let count := wordField word 8 6
  if wordField word 0 4 = triggerInitSwdec.toNat then { vld with position := 0 }
  else if wordField word 0 4 = triggerFlushBits.toNat then { vld with position := vld.position + count }
  else if wordField word 0 4 = triggerShowBits.toNat then
    { vld with bitsRead := UInt32.ofNat (showBits vld.bytes vld.position count) }
  else vld

/-- The loop of `cedrus_dec_h265_bits_skip` and of `cedrus_skip_bits`. -/
def bitsSkipFrom (written count : ℕ) (vld : Vld) : Vld :=
  if written < count then
    let skipCount := min (count - written) 32
    bitsSkipFrom (written + skipCount) count
      (vld.trigger (triggerFlushBits ||| triggerTypeNBits (UInt32.ofNat skipCount)))
  else vld
termination_by count - written

/-- `cedrus_dec_h265_bits_skip` -/
def bitsSkip (vld : Vld) (count : UInt32) : Vld := vld.bitsSkipFrom 0 count.toNat

/-- `cedrus_dec_h265_bits_read` -/
def readBits (vld : Vld) (count : UInt32) : Vld × UInt32 :=
  let vld := vld.trigger (triggerShowBits ||| triggerTypeNBits count)
  (vld, vld.bitsRead)

/-- The loop over the bits of the padding. -/
def paddingCount (padding : UInt8) : ℕ := ((List.range 8).find? padding.toNat.testBit).getD 8

/-- `cedrus_dec_h265_job_configure`, where it initializes bitstream access. -/
def h265Init (vld : Vld) (dataByteOffset : UInt32) : Vld × ℤ :=
  let vld := vld.trigger triggerInitSwdec
  if dataByteOffset = 0 then (vld, MvCol.eopnotsupp)
  else
    let vld := vld.bitsSkip ((dataByteOffset - 1) * 8)
    let (vld, read) := vld.readBits 8
    let padding := read.toUInt8
    if padding = 0 then (vld, MvCol.einval)
    else
      let count := paddingCount padding + 1
      (vld.bitsSkip (UInt32.ofNat (8 - count)), 0)

/-- `cedrus_set_params`, where it initializes bitstream access. -/
def h264Init (vld : Vld) (headerBitSize : UInt16) : Vld :=
  (vld.trigger triggerInitSwdec).bitsSkipFrom 0 headerBitSize.toNat

end Vld

end H618Vpu.DecBits
