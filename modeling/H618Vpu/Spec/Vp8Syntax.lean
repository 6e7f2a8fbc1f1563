import H618Vpu.Bits.BoolCoder
import H618Vpu.Machine.Related

/-! # The syntax of VP8 frame headers

The header of a frame behind its uncompressed part, section 19.2 of RFC 6386, read from a boolean decoder. Every element
is a literal or a flag of even odds, but for the flags of the token and motion-vector probabilities. The odds of the
token flags are a table of 4 by 8 by 3 by 11 entries.
-/

namespace H618Vpu.Spec.Vp8

open Bits Machine

variable {σ α : Type}

abbrev Reader (σ : Type) := StateM (CodedStream σ)

/-- A value that a condition makes present. -/
def given (condition : Bool) (reader : Reader σ α) : Reader σ (Option α) :=
  if condition then do
    let value ← reader
    pure (some value)
  else pure none

variable (coder : BoolCoder σ)

/-- `L(n)` -/
def literal (n : ℕ) : Reader σ ℕ := coder.read n 128

/-- `B(p)` -/
def bool (p : UInt8) : Reader σ Bool := do
  let value ← coder.read 1 p
  pure (decide (value ≠ 0))

/-- `L(1)` -/
def flag : Reader σ Bool := bool coder 128

/-- A flag, and the value it makes present. -/
def optionally (reader : Reader σ α) : Reader σ (Option α) := do
  let present ← flag coder
  given present reader

/-- A magnitude and a sign. -/
structure Signed where
  magnitude : ℕ
  sign : Bool
deriving DecidableEq, Repr

def signed (n : ℕ) : Reader σ Signed := do
  let magnitude ← literal coder n
  let sign ← flag coder
  pure { magnitude, sign }

/-- The part of `update_segmentation()` that `update_segment_feature_data` makes present. -/
structure SegmentFeatureData where
  segmentFeatureMode : Bool
  quantizer : List (Option Signed)
  loopFilter : List (Option Signed)
deriving DecidableEq, Repr

def segmentFeatureData : Reader σ SegmentFeatureData := do
  let segmentFeatureMode ← flag coder
  let quantizer ← collect (fun _ => optionally coder (signed coder 7)) 4
  let loopFilter ← collect (fun _ => optionally coder (signed coder 6)) 4
  pure { segmentFeatureMode, quantizer, loopFilter }

structure Segmentation where
  featureData : Option SegmentFeatureData
  segmentProbs : Option (List (Option ℕ))
deriving DecidableEq, Repr

/-- `update_segmentation()` -/
def updateSegmentation : Reader σ Segmentation := do
  let updateMbSegmentationMap ← flag coder
  let featureData ← optionally coder (segmentFeatureData coder)
  let segmentProbs ← given updateMbSegmentationMap (collect (fun _ => optionally coder (literal coder 8)) 3)
  pure { featureData, segmentProbs }

structure LfDeltas where
  refFrame : List (Option Signed)
  mbMode : List (Option Signed)
deriving DecidableEq, Repr

def lfDeltas : Reader σ LfDeltas := do
  let refFrame ← collect (fun _ => optionally coder (signed coder 6)) 4
  let mbMode ← collect (fun _ => optionally coder (signed coder 6)) 4
  pure { refFrame, mbMode }

/-- `mb_lf_adjustments()`, with `loop_filter_adj_enable` and `mode_ref_lf_delta_update`. -/
def mbLfAdjustments : Reader σ (Option (Option LfDeltas)) := optionally coder (optionally coder (lfDeltas coder))

structure QuantIndices where
  yAcQi : ℕ
  yDcDelta : Option Signed
  y2DcDelta : Option Signed
  y2AcDelta : Option Signed
  uvDcDelta : Option Signed
  uvAcDelta : Option Signed
deriving DecidableEq, Repr

/-- `quant_indices()` -/
def quantIndices : Reader σ QuantIndices := do
  let yAcQi ← literal coder 7
  let yDcDelta ← optionally coder (signed coder 4)
  let y2DcDelta ← optionally coder (signed coder 4)
  let y2AcDelta ← optionally coder (signed coder 4)
  let uvDcDelta ← optionally coder (signed coder 4)
  let uvAcDelta ← optionally coder (signed coder 4)
  pure { yAcQi, yDcDelta, y2DcDelta, y2AcDelta, uvDcDelta, uvAcDelta }

/-- The buffers that an inter frame refreshes. -/
structure RefreshInter where
  copyBufferToGolden : Option ℕ
  copyBufferToAlternate : Option ℕ
  signBiasGolden : Bool
  signBiasAlternate : Bool
  refreshEntropyProbs : Bool
  refreshLast : Bool
deriving DecidableEq, Repr

def refreshInter : Reader σ RefreshInter := do
  let refreshGoldenFrame ← flag coder
  let refreshAlternateFrame ← flag coder
  let copyBufferToGolden ← given (!refreshGoldenFrame) (literal coder 2)
  let copyBufferToAlternate ← given (!refreshAlternateFrame) (literal coder 2)
  let signBiasGolden ← flag coder
  let signBiasAlternate ← flag coder
  let refreshEntropyProbs ← flag coder
  let refreshLast ← flag coder
  pure {
    copyBufferToGolden, copyBufferToAlternate, signBiasGolden, signBiasAlternate, refreshEntropyProbs, refreshLast }

/-- A key frame refreshes everything but, at choice, the probabilities. -/
inductive Refresh where
  | key (refreshEntropyProbs : Bool)
  | inter (buffers : RefreshInter)
deriving DecidableEq, Repr

def refresh (keyFrame : Bool) : Reader σ Refresh :=
  if keyFrame then do
    let refreshEntropyProbs ← flag coder
    pure (.key refreshEntropyProbs)
  else do
    let buffers ← refreshInter coder
    pure (.inter buffers)

/-- `coeff_prob_update_flag` and `coeff_prob` -/
def coeffProb (p : UInt8) : Reader σ (Option ℕ) := do
  let coeffProbUpdateFlag ← bool coder p
  given coeffProbUpdateFlag (literal coder 8)

/-- `token_prob_update()` -/
def tokenProbUpdate (coeffUpdateProbs : ℕ → ℕ → ℕ → ℕ → UInt8) : Reader σ (List (List (List (List (Option ℕ))))) :=
  collect (fun i => collect (fun j => collect (fun k => collect (fun l =>
    coeffProb coder (coeffUpdateProbs i j k l)) 11) 3) 8) 4

/-- The probabilities with which `mv_prob_update()` codes its flags, section 17.2. -/
def mvUpdateProbs : List (List UInt8) :=
  [[237, 246, 253, 253, 254, 254, 254, 254, 254, 254, 254, 254, 254, 254, 250, 250, 252, 254, 254],
    [231, 243, 245, 253, 254, 254, 254, 254, 254, 254, 254, 254, 254, 254, 251, 251, 254, 254, 254]]

/-- `mv_prob_update_flag` and `prob` -/
def mvProb (p : UInt8) : Reader σ (Option ℕ) := do
  let mvProbUpdateFlag ← bool coder p
  given mvProbUpdateFlag (literal coder 7)

/-- `mv_prob_update()` -/
def mvProbUpdate : Reader σ (List (List (Option ℕ))) :=
  collect (fun i => collect (fun j => mvProb coder ((mvUpdateProbs.getD i []).getD j 0)) 19) 2

/-- The probabilities of an inter frame. -/
structure InterProbs where
  probIntra : ℕ
  probLast : ℕ
  probGf : ℕ
  intra16x16Prob : Option (List ℕ)
  intraChromaProb : Option (List ℕ)
  mvProbs : List (List (Option ℕ))
deriving DecidableEq, Repr

def interProbs : Reader σ InterProbs := do
  let probIntra ← literal coder 8
  let probLast ← literal coder 8
  let probGf ← literal coder 8
  let intra16x16Prob ← optionally coder (collect (fun _ => literal coder 8) 4)
  let intraChromaProb ← optionally coder (collect (fun _ => literal coder 8) 3)
  let mvProbs ← mvProbUpdate coder
  pure { probIntra, probLast, probGf, intra16x16Prob, intraChromaProb, mvProbs }

structure ColorSpace where
  colorSpace : Bool
  clampingType : Bool
deriving DecidableEq, Repr

def colorSpace : Reader σ ColorSpace := do
  let colorSpace ← flag coder
  let clampingType ← flag coder
  pure { colorSpace, clampingType }

structure FrameHeader where
  color : Option ColorSpace
  segmentation : Option Segmentation
  filterType : Bool
  loopFilterLevel : ℕ
  sharpnessLevel : ℕ
  lfAdjustments : Option (Option LfDeltas)
  log2NbrOfDctPartitions : ℕ
  quantIndices : QuantIndices
  refresh : Refresh
  tokenProbs : List (List (List (List (Option ℕ))))
  probSkipFalse : Option ℕ
  interProbs : Option InterProbs
deriving DecidableEq, Repr

/-- The frame header; `mb_no_coeff_skip` makes `prob_skip_false` present. -/
def frameHeader (coeffUpdateProbs : ℕ → ℕ → ℕ → ℕ → UInt8) (keyFrame : Bool) : Reader σ FrameHeader := do
  let color ← given keyFrame (colorSpace coder)
  let segmentation ← optionally coder (updateSegmentation coder)
  let filterType ← flag coder
  let loopFilterLevel ← literal coder 6
  let sharpnessLevel ← literal coder 3
  let lfAdjustments ← mbLfAdjustments coder
  let log2NbrOfDctPartitions ← literal coder 2
  let quantIndices ← quantIndices coder
  let refresh ← refresh coder keyFrame
  let tokenProbs ← tokenProbUpdate coder coeffUpdateProbs
  let probSkipFalse ← optionally coder (literal coder 8)
  let interProbs ← given (!keyFrame) (interProbs coder)
  pure {
    color, segmentation, filterType, loopFilterLevel, sharpnessLevel, lfAdjustments, log2NbrOfDctPartitions,
    quantIndices, refresh, tokenProbs, probSkipFalse, interProbs }

end H618Vpu.Spec.Vp8
