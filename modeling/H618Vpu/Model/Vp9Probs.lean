import H618Vpu.Model.Vp9Controls

/-! # VP9 probability tables: forward update and backward adaptation

`cedrus_vp9_helper.c` with the symbol counts of `cedrus_dec_vp9.h`. A loop that treats every entry
of a table alike is one lambda. Counters are `UInt32`, with the wrapping of the source; the `int`
intermediates of the forward update are integers and are truncated where the source stores them in
a byte. The table of default probabilities is a parameter: nothing here depends on its values.
-/

namespace H618Vpu.Vp9

/-- `struct v4l2_vp9_frame_symbol_counts` with its pointers followed. -/
structure SymbolCounts where
  partition : Fin 16 → Fin 4 → UInt32
  skip : Fin 3 → Fin 2 → UInt32
  intraInter : Fin 4 → Fin 2 → UInt32
  tx32p : Fin 2 → Fin 4 → UInt32
  tx16p : Fin 2 → Fin 4 → UInt32
  tx8p : Fin 2 → Fin 2 → UInt32
  yMode : Fin 4 → Fin 10 → UInt32
  uvMode : Fin 10 → Fin 10 → UInt32
  comp : Fin 5 → Fin 2 → UInt32
  compRef : Fin 5 → Fin 2 → UInt32
  singleRef : Fin 5 → Fin 2 → Fin 2 → UInt32
  mvMode : Fin 7 → Fin 4 → UInt32
  filter : Fin 4 → Fin 3 → UInt32
  mvJoint : Fin 4 → UInt32
  sign : Fin 2 → Fin 2 → UInt32
  classes : Fin 2 → Fin 11 → UInt32
  class0 : Fin 2 → Fin 2 → UInt32
  bits : Fin 2 → Fin 10 → Fin 2 → UInt32
  class0Fp : Fin 2 → Fin 2 → Fin 4 → UInt32
  fp : Fin 2 → Fin 4 → UInt32
  class0Hp : Fin 2 → Fin 2 → UInt32
  hp : Fin 2 → Fin 2 → UInt32
  coeff : Fin 4 → Fin 2 → Fin 2 → Fin 6 → Fin 6 → Fin 3 → UInt32
  eob : Fin 4 → Fin 2 → Fin 2 → Fin 6 → Fin 6 → Fin 2 → UInt32

/-- `struct cedrus_vp9_frame_counts`: the counters as the hardware writes them. -/
structure HwCounts where
  tx8p : Fin 2 → Fin 2 → UInt32
  tx16p : Fin 2 → Fin 3 → UInt32
  tx32p : Fin 2 → Fin 4 → UInt32
  eobBranch : Fin 4 → Fin 2 → Fin 2 → Fin 6 → Fin 6 → UInt32
  coeff : Fin 4 → Fin 2 → Fin 2 → Fin 6 → Fin 6 → Fin 4 → UInt32
  skip : Fin 3 → Fin 2 → UInt32
  interMode : Fin 7 → Fin 4 → UInt32
  switchableInterp : Fin 4 → Fin 3 → UInt32
  intraInter : Fin 4 → Fin 2 → UInt32
  compInter : Fin 5 → Fin 2 → UInt32
  compRef : Fin 5 → Fin 2 → UInt32
  singleRef : Fin 5 → Fin 2 → Fin 2 → UInt32
  yMode : Fin 4 → Fin 10 → UInt32
  uvMode : Fin 10 → Fin 10 → UInt32
  partition : Fin 16 → Fin 4 → UInt32
  mvJoint : Fin 4 → UInt32
  mvSign1 : Fin 2 → UInt32
  mvClass01 : Fin 2 → UInt32
  mvClass0Hp1 : Fin 2 → UInt32
  mvHp1 : Fin 2 → UInt32
  mvClasses1 : Fin 11 → UInt32
  mvBits1 : Fin 10 → Fin 2 → UInt32
  mvClass0Fp1 : Fin 2 → Fin 4 → UInt32
  mvFp1 : Fin 4 → UInt32
  mvSign0 : Fin 2 → UInt32
  mvClass00 : Fin 2 → UInt32
  mvClass0Hp0 : Fin 2 → UInt32
  mvHp0 : Fin 2 → UInt32
  mvClasses0 : Fin 11 → UInt32
  mvBits0 : Fin 10 → Fin 2 → UInt32
  mvClass0Fp0 : Fin 2 → Fin 4 → UInt32
  mvFp0 : Fin 4 → UInt32

/-- The counters after the memset of `cedrus_dec_vp9_job_configure`. -/
def HwCounts.zero : HwCounts where
  tx8p _ _ := 0
  tx16p _ _ := 0
  tx32p _ _ := 0
  eobBranch _ _ _ _ _ := 0
  coeff _ _ _ _ _ _ := 0
  skip _ _ := 0
  interMode _ _ := 0
  switchableInterp _ _ := 0
  intraInter _ _ := 0
  compInter _ _ := 0
  compRef _ _ := 0
  singleRef _ _ _ := 0
  yMode _ _ := 0
  uvMode _ _ := 0
  partition _ _ := 0
  mvJoint _ := 0
  mvSign1 _ := 0
  mvClass01 _ := 0
  mvClass0Hp1 _ := 0
  mvHp1 _ := 0
  mvClasses1 _ := 0
  mvBits1 _ _ := 0
  mvClass0Fp1 _ _ := 0
  mvFp1 _ := 0
  mvSign0 _ := 0
  mvClass00 _ := 0
  mvClass0Hp0 _ := 0
  mvHp0 _ := 0
  mvClasses0 _ := 0
  mvBits0 _ _ := 0
  mvClass0Fp0 _ _ := 0
  mvFp0 _ := 0

/-- The two components of a motion-vector counter, which the hardware stores apart. -/
def ofComponents {α : Type} (zeroth first : α) (i : Fin 2) : α := if i = 0 then zeroth else first

/-- The counters the helpers read: the pointers of `cedrus_dec_vp9_init_counts`, and the ones
`cedrus_dec_vp9_job_finish` copies because their layout differs. -/
def HwCounts.symbolCounts (hw : HwCounts) : SymbolCounts where
  partition := hw.partition
  skip := hw.skip
  intraInter := hw.intraInter
  tx32p := hw.tx32p
  tx16p i j := if bound : j.val < 3 then hw.tx16p i ⟨j, bound⟩ else 0
  tx8p := hw.tx8p
  yMode := hw.yMode
  uvMode := hw.uvMode
  comp := hw.compInter
  compRef := hw.compRef
  singleRef := hw.singleRef
  mvMode := hw.interMode
  filter := hw.switchableInterp
  mvJoint := hw.mvJoint
  sign := ofComponents hw.mvSign0 hw.mvSign1
  classes := ofComponents hw.mvClasses0 hw.mvClasses1
  class0 := ofComponents hw.mvClass00 hw.mvClass01
  bits := ofComponents hw.mvBits0 hw.mvBits1
  class0Fp := ofComponents hw.mvClass0Fp0 hw.mvClass0Fp1
  fp := ofComponents hw.mvFp0 hw.mvFp1
  class0Hp := ofComponents hw.mvClass0Hp0 hw.mvClass0Hp1
  hp := ofComponents hw.mvHp0 hw.mvHp1
  coeff i j k l m n := hw.coeff i j k l m n.castSucc
  eob i j k l m n := if n = 0 then hw.eobBranch i j k l m else hw.coeff i j k l m 3

/-- `fastdiv`: division by a small divisor through its rounded-up reciprocal. -/
def fastdiv (dividend : UInt32) (divisor : UInt16) : UInt32 :=
  if divisor = 0 then 0
  else if divisor = 1 then dividend
  else if 255 ≤ divisor.toNat - 2 then dividend
  else
    let inverse := (2 ^ 32 + (divisor.toNat - 1)) / divisor.toNat
    UInt32.ofNat (dividend.toNat * (inverse % 2 ^ 32) / 2 ^ 32)

def invRecenterNonneg (v m : ℤ) : ℤ :=
  if v > 2 * m then v
  else if v % 2 = 1 then m - (v + 1) / 2
  else m + v / 2

def updateProb (delta prob : UInt8) : UInt8 :=
  let d : ℤ := delta.toNat
  let p : ℤ := prob.toNat
  if delta = 0 then prob
  else if p ≤ 128 then UInt8.ofInt (1 + invRecenterNonneg d (p - 1))
  else UInt8.ofInt (255 - invRecenterNonneg d (255 - p))

def updateMvProb (delta prob : UInt8) : UInt8 := if delta = 0 then prob else delta

def updateTxProbs (probs : FrameContext) (deltas : CompressedHdr) : FrameContext :=
  { probs with
    tx8 := fun i j => updateProb (deltas.deltas.tx8 i j) (probs.tx8 i j)
    tx16 := fun i j => updateProb (deltas.deltas.tx16 i j) (probs.tx16 i j)
    tx32 := fun i j => updateProb (deltas.deltas.tx32 i j) (probs.tx32 i j) }

/-- `BAND_6`: the first band has three contexts, the others six. -/
def band6 (band : Fin 6) : ℕ := if band = 0 then 3 else 6

def updateCoeff (deltas probs : Fin 6 → Fin 6 → Fin 3 → UInt8) : Fin 6 → Fin 6 → Fin 3 → UInt8 :=
  fun l m n => if m.val < band6 l then updateProb (deltas l m n) (probs l m n) else probs l m n

/-- The loop over the transform sizes is left after the one that equals the transform mode. -/
def updateCoefProbs (probs : FrameContext) (deltas : CompressedHdr) : FrameContext :=
  { probs with
    coef := fun i j k =>
      if i.val ≤ deltas.txMode then updateCoeff (deltas.deltas.coef i j k) (probs.coef i j k)
      else probs.coef i j k }

def updateSkipProbs (probs : FrameContext) (deltas : CompressedHdr) : FrameContext :=
  { probs with skip := fun i => updateProb (deltas.deltas.skip i) (probs.skip i) }

def updateInterModeProbs (probs : FrameContext) (deltas : CompressedHdr) : FrameContext :=
  { probs with interMode := fun i j => updateProb (deltas.deltas.interMode i j) (probs.interMode i j) }

def updateInterpFilterProbs (probs : FrameContext) (deltas : CompressedHdr) : FrameContext :=
  { probs with
    interpFilter := fun i j => updateProb (deltas.deltas.interpFilter i j) (probs.interpFilter i j) }

def updateIsInterProbs (probs : FrameContext) (deltas : CompressedHdr) : FrameContext :=
  { probs with isInter := fun i => updateProb (deltas.deltas.isInter i) (probs.isInter i) }

def updateFrameReferenceModeProbs (referenceMode : ReferenceMode) (probs : FrameContext)
    (deltas : CompressedHdr) : FrameContext :=
  { probs with
    compMode := fun i =>
      if referenceMode = .select then updateProb (deltas.deltas.compMode i) (probs.compMode i)
      else probs.compMode i
    singleRef := fun i j =>
      if referenceMode ≠ .compoundReference then updateProb (deltas.deltas.singleRef i j) (probs.singleRef i j)
      else probs.singleRef i j
    compRef := fun i =>
      if referenceMode ≠ .singleReference then updateProb (deltas.deltas.compRef i) (probs.compRef i)
      else probs.compRef i }

def updateYModeProbs (probs : FrameContext) (deltas : CompressedHdr) : FrameContext :=
  { probs with yMode := fun i j => updateProb (deltas.deltas.yMode i j) (probs.yMode i j) }

def updatePartitionProbs (probs : FrameContext) (deltas : CompressedHdr) : FrameContext :=
  { probs with partition := fun i j => updateProb (deltas.deltas.partition i j) (probs.partition i j) }

def updateMvProbs (probs : FrameContext) (deltas : CompressedHdr) (allowHighPrecMv : Bool) : FrameContext :=
  let p := probs.mv
  let d := deltas.deltas.mv
  { probs with
    mv :=
      { joint := fun i => updateMvProb (d.joint i) (p.joint i)
        sign := fun i => updateMvProb (d.sign i) (p.sign i)
        classes := fun i j => updateMvProb (d.classes i j) (p.classes i j)
        class0Bit := fun i => updateMvProb (d.class0Bit i) (p.class0Bit i)
        bits := fun i j => updateMvProb (d.bits i j) (p.bits i j)
        class0Fr := fun i j k => updateMvProb (d.class0Fr i j k) (p.class0Fr i j k)
        fr := fun i j => updateMvProb (d.fr i j) (p.fr i j)
        class0Hp := fun i => if allowHighPrecMv then updateMvProb (d.class0Hp i) (p.class0Hp i) else p.class0Hp i
        hp := fun i => if allowHighPrecMv then updateMvProb (d.hp i) (p.hp i) else p.hp i } }

/-- `cedrus_vp9_fw_update_probs`. -/
def fwUpdateProbs (probs : FrameContext) (deltas : CompressedHdr) (frame : Frame) : FrameContext :=
  let probs := if deltas.txMode = txModeSelect then updateTxProbs probs deltas else probs
  let probs := updateCoefProbs probs deltas
  let probs := updateSkipProbs probs deltas
  if frame.isIntra then probs
  else
    let probs := updateInterModeProbs probs deltas
    let probs := if frame.interpolationFilter = .switchable then updateInterpFilterProbs probs deltas else probs
    let probs := updateIsInterProbs probs deltas
    let probs := updateFrameReferenceModeProbs frame.referenceMode probs deltas
    let probs := updateYModeProbs probs deltas
    let probs := updatePartitionProbs probs deltas
    updateMvProbs probs deltas frame.allowHighPrecMv

/-- `cedrus_vp9_reset_frame_ctx`: the context index the frame uses and the contexts after the
reset; `defaults` is `cedrus_vp9_default_probs`. -/
def resetFrameCtx (defaults : FrameContext) (frame : Frame) (frameContext : Fin 4 → FrameContext) :
    Fin 4 × (Fin 4 → FrameContext) :=
  if frame.keyFrame || frame.intraOnly || frame.errorResilient then
    if frame.keyFrame || frame.errorResilient || frame.resetFrameContext = .all then (0, fun _ => defaults)
    else if frame.resetFrameContext = .spec then
      (0, Function.update frameContext frame.frameContextIdx defaults)
    else (0, frameContext)
  else (frame.frameContextIdx, frameContext)

/-- `merge_prob`, in the wrapping 32-bit arithmetic of the source. -/
def mergeProb (preProb : UInt8) (ct0 ct1 : UInt32) (countSat : UInt16) (maxUpdateFactor : UInt32) : UInt8 :=
  let den := ct0 + ct1
  if den = 0 then preProb
  else
    let prob : UInt32 := max 1 (min (((ct0 <<< 8) + (den >>> 1)) / den) 255)
    let count := min den countSat.toUInt32
    let factor := fastdiv (maxUpdateFactor * count) countSat
    (preProb.toUInt32 + (((prob - preProb.toUInt32) * factor + 128) >>> 8)).toUInt8

def noncoefMergeProb (preProb : UInt8) (ct0 ct1 : UInt32) : UInt8 := mergeProb preProb ct0 ct1 20 128

def mergeProbsVariantA (p : Fin 3 → UInt8) (c : Fin 3 → UInt32) (countSat : UInt16) (updateFactor : UInt32) :
    Fin 3 → UInt8
  | 0 => p 0
  | 1 => mergeProb (p 1) (c 0) (c 1 + c 2) countSat updateFactor
  | 2 => mergeProb (p 2) (c 1) (c 2) countSat updateFactor

def mergeProbsVariantC (p : Fin 3 → UInt8) (c : Fin 4 → UInt32) : Fin 3 → UInt8
  | 0 => noncoefMergeProb (p 0) (c 2) (c 1 + c 0 + c 3)
  | 1 => noncoefMergeProb (p 1) (c 0) (c 1 + c 3)
  | 2 => noncoefMergeProb (p 2) (c 1) (c 3)

/-- The running sums `sum` and `s2` of the source, after each of its subtractions. -/
def mergeProbsVariantD (p : Fin 9 → UInt8) (c : Fin 10 → UInt32) : Fin 9 → UInt8 :=
  let sum0 := c 1 + c 2 + c 3 + c 4 + c 5 + c 6 + c 7 + c 8 + c 9
  let sum1 := sum0 - c 9
  let sum2 := sum1 - c 1
  let s2 := c 2 + c 4 + c 5
  let sum3 := sum2 - s2
  let sum6 := sum3 - c 3
  let sum7 := sum6 - c 8
  fun
  | 0 => noncoefMergeProb (p 0) (c 0) sum0
  | 1 => noncoefMergeProb (p 1) (c 9) sum1
  | 2 => noncoefMergeProb (p 2) (c 1) sum2
  | 3 => noncoefMergeProb (p 3) s2 sum3
  | 4 => noncoefMergeProb (p 4) (c 2) (s2 - c 2)
  | 5 => noncoefMergeProb (p 5) (c 4) (c 5)
  | 6 => noncoefMergeProb (p 6) (c 3) sum6
  | 7 => noncoefMergeProb (p 7) (c 8) sum7
  | 8 => noncoefMergeProb (p 8) (c 6) (c 7)

def mergeProbsVariantE (p : Fin 3 → UInt8) (c : Fin 4 → UInt32) : Fin 3 → UInt8
  | 0 => noncoefMergeProb (p 0) (c 0) (c 1 + c 2 + c 3)
  | 1 => noncoefMergeProb (p 1) (c 1) (c 2 + c 3)
  | 2 => noncoefMergeProb (p 2) (c 2) (c 3)

/-- Variant F on counters of which the source reads the first three. -/
def mergeProbsVariantF (p : Fin 2 → UInt8) (c0 c1 c2 : UInt32) : Fin 2 → UInt8
  | 0 => noncoefMergeProb (p 0) c0 (c1 + c2)
  | 1 => noncoefMergeProb (p 1) c1 c2

def mergeProbsVariantG (p : Fin 10 → UInt8) (c : Fin 11 → UInt32) : Fin 10 → UInt8 :=
  let sum0 := c 1 + c 2 + c 3 + c 4 + c 5 + c 6 + c 7 + c 8 + c 9 + c 10
  let sum1 := sum0 - c 1
  let sum2 := sum1 - (c 2 + c 3)
  let sum4 := sum2 - (c 4 + c 5)
  let sum6 := sum4 - c 6
  fun
  | 0 => noncoefMergeProb (p 0) (c 0) sum0
  | 1 => noncoefMergeProb (p 1) (c 1) sum1
  | 2 => noncoefMergeProb (p 2) (c 2 + c 3) sum2
  | 3 => noncoefMergeProb (p 3) (c 2) (c 3)
  | 4 => noncoefMergeProb (p 4) (c 4 + c 5) sum4
  | 5 => noncoefMergeProb (p 5) (c 4) (c 5)
  | 6 => noncoefMergeProb (p 6) (c 6) sum6
  | 7 => noncoefMergeProb (p 7) (c 7 + c 8) (c 9 + c 10)
  | 8 => noncoefMergeProb (p 8) (c 7) (c 8)
  | 9 => noncoefMergeProb (p 9) (c 9) (c 10)

/-- `_adapt_coeff` on one context: variant A on the tokens, then variant B, which is one merge of
the first node, on the more-coefficients counters. -/
def adaptCoeff (p : Fin 3 → UInt8) (coeff : Fin 3 → UInt32) (eob : Fin 2 → UInt32) (factor : UInt32) :
    Fin 3 → UInt8 :=
  let merged := mergeProbsVariantA p coeff 24 factor
  Function.update merged 0 (mergeProb (merged 0) (eob 1) (eob 0 - eob 1) 24 factor)

/-- `_adapt_coef_probs`. -/
def adaptCoefProbsBy (probs : FrameContext) (counts : SymbolCounts) (factor : UInt32) : FrameContext :=
  { probs with
    coef := fun i j k l m =>
      if m.val < band6 l then
        adaptCoeff (probs.coef i j k l m) (counts.coeff i j k l m) (counts.eob i j k l m) factor
      else probs.coef i j k l m }

/-- `cedrus_vp9_adapt_coef_probs`. -/
def adaptCoefProbs (probs : FrameContext) (counts : SymbolCounts) (use128 frameIsIntra : Bool) : FrameContext :=
  if frameIsIntra then adaptCoefProbsBy probs counts 112
  else if use128 then adaptCoefProbsBy probs counts 128
  else adaptCoefProbsBy probs counts 112

def adaptProb (prob : UInt8) (counts : Fin 2 → UInt32) : UInt8 := noncoefMergeProb prob (counts 0) (counts 1)

/-- `cedrus_vp9_adapt_noncoef_probs`. -/
def adaptNoncoefProbs (probs : FrameContext) (counts : SymbolCounts) (referenceMode : ReferenceMode)
    (interpolationFilter : InterpFilter) (txMode : ℕ) (allowHighPrecMv : Bool) : FrameContext where
  coef := probs.coef
  isInter i := adaptProb (probs.isInter i) (counts.intraInter i)
  compMode i := adaptProb (probs.compMode i) (counts.comp i)
  compRef i := adaptProb (probs.compRef i) (counts.compRef i)
  singleRef i j :=
    if referenceMode ≠ .compoundReference then adaptProb (probs.singleRef i j) (counts.singleRef i j)
    else probs.singleRef i j
  interMode i := mergeProbsVariantC (probs.interMode i) (counts.mvMode i)
  yMode i := mergeProbsVariantD (probs.yMode i) (counts.yMode i)
  uvMode i := mergeProbsVariantD (probs.uvMode i) (counts.uvMode i)
  partition i := mergeProbsVariantE (probs.partition i) (counts.partition i)
  skip i := adaptProb (probs.skip i) (counts.skip i)
  interpFilter i :=
    if interpolationFilter = .switchable then
      mergeProbsVariantF (probs.interpFilter i) (counts.filter i 0) (counts.filter i 1) (counts.filter i 2)
    else probs.interpFilter i
  tx8 i j := if txMode = txModeSelect then adaptProb (probs.tx8 i j) (counts.tx8p i) else probs.tx8 i j
  tx16 i :=
    if txMode = txModeSelect then
      mergeProbsVariantF (probs.tx16 i) (counts.tx16p i 0) (counts.tx16p i 1) (counts.tx16p i 2)
    else probs.tx16 i
  tx32 i := if txMode = txModeSelect then mergeProbsVariantE (probs.tx32 i) (counts.tx32p i) else probs.tx32 i
  mv :=
    { joint := mergeProbsVariantE probs.mv.joint counts.mvJoint
      sign := fun i => adaptProb (probs.mv.sign i) (counts.sign i)
      classes := fun i => mergeProbsVariantG (probs.mv.classes i) (counts.classes i)
      class0Bit := fun i => adaptProb (probs.mv.class0Bit i) (counts.class0 i)
      bits := fun i j => adaptProb (probs.mv.bits i j) (counts.bits i j)
      class0Fr := fun i j => mergeProbsVariantE (probs.mv.class0Fr i j) (counts.class0Fp i j)
      fr := fun i => mergeProbsVariantE (probs.mv.fr i) (counts.fp i)
      class0Hp := fun i =>
        if allowHighPrecMv then adaptProb (probs.mv.class0Hp i) (counts.class0Hp i) else probs.mv.class0Hp i
      hp := fun i => if allowHighPrecMv then adaptProb (probs.mv.hp i) (counts.hp i) else probs.mv.hp i }

end H618Vpu.Vp9
