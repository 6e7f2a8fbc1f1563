import H618Vpu.Model.Vp9Image
import H618Vpu.Model.Vp9Probs

/-! # The offline tool makes a control from two contexts

`h618-vp9-probs.py` searches for the deltas with which a key frame goes from one probability context to another. It
looks at the contexts as they are serialised and writes the control that the driver reads.
-/

namespace H618Vpu.Vp9

open Bytes

/-- An entry of a two-dimensional array in memory. -/
def entry (bytes : List UInt8) (start width row col : ℕ) : UInt8 := bytes.getD (start + width * row + col) 0

/-- `struct v4l2_vp9_frame_context` in memory. -/
def FrameContext.ofBytes (bytes : List UInt8) : FrameContext where
  tx8 i j := entry bytes Tool.tx8 1 i j
  tx16 i j := entry bytes Tool.tx16 2 i j
  tx32 i j := entry bytes Tool.tx32 3 i j
  coef i j k l m n := entry bytes Tool.coef 3 ((((i * 2 + j) * 2 + k) * 6 + l) * 6 + m) n
  skip i := entry bytes Tool.skip 3 0 i
  interMode i j := entry bytes Tool.interMode 3 i j
  interpFilter i j := entry bytes Tool.interpFilter 2 i j
  isInter i := entry bytes Tool.isInter 4 0 i
  compMode i := entry bytes Tool.compMode 5 0 i
  singleRef i j := entry bytes Tool.singleRef 2 i j
  compRef i := entry bytes Tool.compRef 5 0 i
  yMode i j := entry bytes Tool.yMode 9 i j
  uvMode i j := entry bytes Tool.uvMode 9 i j
  partition i j := entry bytes Tool.partition 3 i j
  mv :=
    { joint := fun i => entry bytes Tool.mv 3 0 i
      sign := fun i => entry bytes Tool.sign 1 i 0
      classes := fun i j => entry bytes Tool.classes 10 i j
      class0Bit := fun i => entry bytes Tool.class0Bit 1 i 0
      bits := fun i j => entry bytes Tool.bits 10 i j
      class0Fr := fun i j k => entry bytes Tool.class0Fr 3 (i * 2 + j) k
      fr := fun i j => entry bytes Tool.fr 3 i j
      class0Hp := fun i => entry bytes Tool.class0Hp 1 i 0
      hp := fun i => entry bytes Tool.hp 1 i 0 }

/-- `struct v4l2_ctrl_vp9_compressed_hdr` in memory. -/
def CompressedHdr.ofBytes (bytes : List UInt8) : CompressedHdr where
  txMode := (bytes.getD 0 0).toNat
  deltas := .ofBytes (bytes.drop 1)

namespace Tool

def controlSize : ℕ := 2040

/-- The exceptions of the tool. -/
inductive ToolError where
  | noUpdate (old new : UInt8)
  | unprocessed (differences : List ℕ)
  | byteRange
  | assertion
deriving DecidableEq, Repr

/-- `inv_recenter_nonneg` -/
def invRecenterNonneg (value modulus : ℤ) : ℤ :=
  if value > 2 * modulus then value
  else if value % 2 = 1 then modulus - (value + 1) / 2
  else modulus + value / 2

/-- `update_prob` -/
def updateProb (delta prob : ℤ) : ℤ :=
  if delta = 0 then prob
  else if prob ≤ 128 then 1 + invRecenterNonneg delta (prob - 1)
  else 255 - invRecenterNonneg delta (255 - prob)

/-- `inverse_delta` -/
def inverseDelta (old new : UInt8) : Except ToolError ℤ :=
  if old = new then .ok 0
  else
    match (range 1 256 1).find? fun delta => updateProb delta old.toNat = new.toNat with
    | some delta => .ok delta
    | none => .error (.noUpdate old new)

/-- The indices of the coefficients of one band; band 0 is three contexts, the others use six. -/
def bandIndices (tx blockType intra band : ℕ) : List ℕ :=
  let count := if band = 0 then 3 else 6
  let start := coef + (((((tx * 2 + blockType) * 2 + intra) * 6 + band) * 6) * 3)
  range start (start + count * 3) 1

def coefIndices (txMode : ℤ) : List ℕ :=
  (List.range (min txMode 3 + 1).toNat).flatMap fun tx =>
    (List.range 2).flatMap fun blockType =>
      (List.range 2).flatMap fun intra =>
        (List.range 6).flatMap fun band => bandIndices tx blockType intra band

/-- The list `processed`. -/
def processed (txMode : ℤ) : List ℕ :=
  (if txMode = 4 then range tx8 coef 1 else []) ++ (coefIndices txMode ++ range skip (skip + 3) 1)

/-- An integer as an item of a `bytearray`. -/
def byteOf (value : ℤ) : Except ToolError UInt8 :=
  if 0 ≤ value ∧ value < 256 then .ok (.ofInt value) else .error .byteRange

/-- A loop that assigns to the items of a `bytearray`, each made from its index and from what it was. -/
def assignEach (item : ℕ → UInt8 → Except ToolError ℤ) (indices : List ℕ) (bytes : List UInt8) :
    Except ToolError (List UInt8) :=
  indices.foldlM (fun bytes index => do
    let value ← item index (bytes.getD index 0)
    let byte ← byteOf value
    pure (bytes.set index byte)) bytes

/-- The positions at which two contexts differ. -/
def differences (check target : List UInt8) : List ℕ :=
  (List.range ctxSize).filter fun index => check.getD index 0 ≠ target.getD index 0

/-- `make_keyframe_control` -/
def makeKeyframeControl (default target : List UInt8) (txMode : ℤ) : Except ToolError (List UInt8) := do
  let delta ← assignEach (fun index _ => inverseDelta (default.getD index 0) (target.getD index 0)) (processed txMode)
    (blank ctxSize)
  let first ← byteOf txMode
  let result := first :: delta
  if result.length ≠ controlSize then throw .assertion
  else
    let check ← assignEach (fun index prob => .ok (updateProb (delta.getD index 0).toNat prob.toNat)) (processed txMode)
      default
    if check ≠ target then throw (.unprocessed (differences check target)) else pure result

end Tool

end H618Vpu.Vp9
