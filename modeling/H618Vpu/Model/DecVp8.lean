import H618Vpu.Bits.BoolCoder
import H618Vpu.Bits.Words
import H618Vpu.Machine.Related

/-! # The header walk of the VP8 decoder

`cedrus_dec_vp8.c`. The hardware has to be taken through the header of a frame before it decodes the macroblocks: the
driver lets it read each element, and looks only at those that make others present. A read is a word in the trigger
register; its result stands in another register. The coefficient probabilities are left to the hardware.

Polls of the status and the registers of the frame itself are left out.
-/

namespace H618Vpu.DecVp8

open Bits Machine

variable {σ : Type}

/-- The bits of a value between two positions of a register, `SHIFT_AND_MASK_BITS`. -/
def shiftAndMaskBits (value high low : UInt32) : UInt32 :=
  (value <<< low) &&& ((0xffffffff >>> (31 - high)) &&& (0xffffffff <<< low))

/-- The fields of `VE_H264_TRIGGER_TYPE`. -/
def probability (x : UInt32) : UInt32 := shiftAndMaskBits x 31 24

def binLens (x : UInt32) : UInt32 := shiftAndMaskBits (x - 1) 18 16

def vp8GetBits : UInt32 := 15

def vp8UpdateCoef : UInt32 := 14

/-- A boolean decoder, and what the hardware does with it to update the coefficient probabilities. -/
structure Hardware (σ : Type) where
  coder : BoolCoder σ
  updateCoef : StateM (CodedStream σ) Unit

/-- The stream the hardware reads, and `VE_H264_BASIC_BITS`. -/
structure Device (σ : Type) where
  stream : CodedStream σ
  basicBits : UInt32 := 0

/-- A computation on the stream of the device. -/
def onStream {α : Type} (computation : StateM (CodedStream σ) α) : StateM (Device σ) α := fun device =>
  let (value, stream) := computation device.stream
  (value, { device with stream })

/-- A write to `VE_H264_TRIGGER_TYPE`. -/
def Hardware.trigger (hw : Hardware σ) (word : UInt32) : StateM (Device σ) Unit :=
  if wordField word 0 8 = vp8GetBits.toNat then do
    let value ← onStream (hw.coder.read (wordField word 16 3 + 1) (.ofNat (wordField word 24 8)))
    modify fun device => { device with basicBits := .ofNat value }
  else if wordField word 0 8 = vp8UpdateCoef.toNat then onStream hw.updateCoef
  else pure ()

/-- `VP8_PROB_HALF` -/
def probHalf : UInt8 := 128

/-- `k_mv_entropy_update_probs` -/
def kMvEntropyUpdateProbs : List (List UInt8) :=
  [[237, 246, 253, 253, 254, 254, 254, 254, 254, 254, 254, 254, 254, 254, 250, 250, 252, 254, 254],
    [231, 243, 245, 253, 254, 254, 254, 254, 254, 254, 254, 254, 254, 254, 251, 251, 254, 254, 254]]

namespace Hardware

variable (hw : Hardware σ)

/-- `read_bits` -/
def readBits (bitsCount : UInt32) (prob : UInt8) : StateM (Device σ) UInt8 := do
  hw.trigger (vp8GetBits ||| binLens bitsCount ||| probability prob.toUInt32)
  let device ← get
  pure device.basicBits.toUInt8

/-- A read whose value the driver does not look at. -/
def skip (bitsCount : UInt32) : StateM (Device σ) Unit := do
  let _ ← hw.readBits bitsCount probHalf

/-- A bit, and what the driver reads when it is set. -/
def ifSet (prob : UInt8) (body : StateM (Device σ) Unit) : StateM (Device σ) Unit := do
  let bit ← hw.readBits 1 prob
  if bit ≠ 0 then body else pure ()

def when (condition : Bool) (body : StateM (Device σ) Unit) : StateM (Device σ) Unit :=
  if condition then body else pure ()

/-- Two elements of a delta. -/
def skipSigned (bitsCount : UInt32) : StateM (Device σ) Unit := do
  hw.skip bitsCount
  hw.skip 1

/-- `get_delta_q` -/
def getDeltaQ : StateM (Device σ) Unit := hw.ifSet probHalf (hw.skipSigned 4)

/-- `process_segmentation_info` -/
def processSegmentationInfo : StateM (Device σ) Unit := do
  let update ← hw.readBits 1 probHalf
  hw.ifSet probHalf do
    hw.skip 1
    rounds (fun _ => hw.ifSet probHalf (hw.skipSigned 7)) 4
    rounds (fun _ => hw.ifSet probHalf (hw.skipSigned 6)) 4
  if update ≠ 0 then rounds (fun _ => hw.ifSet probHalf (hw.skip 8)) 3 else pure ()

/-- `process_ref_lf_delta_info` -/
def processRefLfDeltaInfo : StateM (Device σ) Unit :=
  hw.ifSet probHalf do
    rounds (fun _ => hw.ifSet probHalf (hw.skipSigned 6)) 4
    rounds (fun _ => hw.ifSet probHalf (hw.skipSigned 6)) 4

/-- `process_ref_frame_info` -/
def processRefFrameInfo : StateM (Device σ) Unit := do
  let refreshGoldenFrame ← hw.readBits 1 probHalf
  let refreshAltRefFrame ← hw.readBits 1 probHalf
  when (decide (refreshGoldenFrame = 0)) (hw.skip 2)
  when (decide (refreshAltRefFrame = 0)) (hw.skip 2)
  hw.skip 1
  hw.skip 1

/-- The probabilities in `cedrus_read_header`, for an inter frame. -/
def readInterProbs : StateM (Device σ) Unit := do
  hw.skip 8
  hw.skip 8
  hw.skip 8
  hw.ifSet probHalf do
    hw.skip 8
    hw.skip 8
    hw.skip 8
    hw.skip 8
  hw.ifSet probHalf do
    hw.skip 8
    hw.skip 8
    hw.skip 8
  rounds (fun i => rounds (fun j =>
    hw.ifSet ((kMvEntropyUpdateProbs.getD i []).getD j 0) (hw.skip 7)) 19) 2

/-- `cedrus_read_header` -/
def readHeader (keyFrame : Bool) : StateM (Device σ) Unit := do
  when keyFrame do
    hw.skip 1
    hw.skip 1
  hw.ifSet probHalf hw.processSegmentationInfo
  hw.skip 1
  hw.skip 6
  hw.skip 3
  hw.ifSet probHalf hw.processRefLfDeltaInfo
  hw.skip 2
  hw.skip 7
  -- `QUANT_DELTA_COUNT`
  rounds (fun _ => hw.getDeltaQ) 5
  when (!keyFrame) hw.processRefFrameInfo
  hw.skip 1
  when (!keyFrame) (hw.skip 1)
  hw.trigger vp8UpdateCoef
  hw.ifSet probHalf (hw.skip 8)
  when (!keyFrame) hw.readInterProbs

end Hardware

end H618Vpu.DecVp8
