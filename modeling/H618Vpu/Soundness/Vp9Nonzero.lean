import H618Vpu.Soundness.Vp9Adaptation
import H618Vpu.Soundness.Vp9Entropy

/-! # No probability becomes zero

A symbol of probability zero cannot be decoded. The backward adaptation never reaches zero, whatever the hardware
counted. The forward update does for one value of a delta, 255, which no bitstream codes and no check of the driver
excludes.
-/

namespace H618Vpu.Vp9

open Machine Spec.SymbolTree

/-- The probabilities of the motion vectors. -/
structure MvProbs.Nonzero (p : MvProbs) : Prop where
  joint : ∀ i, p.joint i ≠ 0
  sign : ∀ i, p.sign i ≠ 0
  classes : ∀ i j, p.classes i j ≠ 0
  class0Bit : ∀ i, p.class0Bit i ≠ 0
  bits : ∀ i j, p.bits i j ≠ 0
  class0Fr : ∀ i j k, p.class0Fr i j k ≠ 0
  fr : ∀ i j, p.fr i j ≠ 0
  class0Hp : ∀ i, p.class0Hp i ≠ 0
  hp : ∀ i, p.hp i ≠ 0

/-- Every probability is nonzero. The first band of coefficients has fewer contexts than the table has room for. -/
structure FrameContext.Nonzero (p : FrameContext) : Prop where
  tx8 : ∀ i j, p.tx8 i j ≠ 0
  tx16 : ∀ i j, p.tx16 i j ≠ 0
  tx32 : ∀ i j, p.tx32 i j ≠ 0
  coef : ∀ i j k l m n, m.val < band6 l → p.coef i j k l m n ≠ 0
  skip : ∀ i, p.skip i ≠ 0
  interMode : ∀ i j, p.interMode i j ≠ 0
  interpFilter : ∀ i j, p.interpFilter i j ≠ 0
  isInter : ∀ i, p.isInter i ≠ 0
  compMode : ∀ i, p.compMode i ≠ 0
  singleRef : ∀ i j, p.singleRef i j ≠ 0
  compRef : ∀ i, p.compRef i ≠ 0
  yMode : ∀ i j, p.yMode i j ≠ 0
  uvMode : ∀ i j, p.uvMode i j ≠ 0
  partition : ∀ i j, p.partition i j ≠ 0
  mv : p.mv.Nonzero

/-- Recentering stays within twice the centre, unless the value is beyond it. -/
private theorem invRecenterNonneg_cases {v : ℤ} (m : ℤ) (positive : 0 < v) :
    2 * m < v ∧ invRecenterNonneg v m = v ∨
      v ≤ 2 * m ∧ 0 ≤ invRecenterNonneg v m ∧ invRecenterNonneg v m ≤ 2 * m := by
  unfold invRecenterNonneg
  split_ifs
  · exact .inl ⟨by omega, rfl⟩
  · exact .inr ⟨by omega, by omega, by omega⟩
  · exact .inr ⟨by omega, by omega, by omega⟩

private theorem ofInt_eq_zero_iff {x : ℤ} (low : 0 ≤ x) (high : x ≤ 256) : UInt8.ofInt x = 0 ↔ x = 0 ∨ x = 256 := by
  rw [UInt8.ofInt, ← UInt8.toNat_inj, UInt8.toNat_ofNat']
  simp only [UInt8.toNat_zero]
  omega

/-- A delta takes a probability to zero exactly when it is 255, whatever the probability was. -/
theorem updateProb_eq_zero_iff {delta prob : UInt8} (nonzero : prob ≠ 0) : updateProb delta prob = 0 ↔ delta = 255 := by
  have deltaByte := delta.toNat_lt
  have probByte := prob.toNat_lt
  have probLow : 1 ≤ prob.toNat := Nat.pos_of_ne_zero fun zero => nonzero (UInt8.toNat_inj.mp zero)
  have last : delta = 255 ↔ delta.toNat = 255 := UInt8.toNat_inj.symm
  by_cases none : delta = 0
  · subst none
    simpa [updateProb] using nonzero
  have positive : 0 < (delta.toNat : ℤ) := by
    have := mt UInt8.toNat_inj.mp none
    simp only [UInt8.toNat_zero] at this
    omega
  simp only [updateProb, if_neg none, last]
  -- both branches recentre around a centre of at most 127, so only 255 is beyond every centre
  split_ifs with low
  · rcases invRecenterNonneg_cases (prob.toNat - 1) positive with ⟨beyond, value⟩ | ⟨within, least, most⟩
    · rw [value, ofInt_eq_zero_iff (by omega) (by omega)]
      omega
    · rw [ofInt_eq_zero_iff (by omega) (by omega)]
      omega
  · rcases invRecenterNonneg_cases (255 - prob.toNat) positive with ⟨beyond, value⟩ | ⟨within, least, most⟩
    · rw [value, ofInt_eq_zero_iff (by omega) (by omega)]
      omega
    · rw [ofInt_eq_zero_iff (by omega) (by omega)]
      omega

/-- No delta the frame applies is 255. The motion vector probabilities are replaced, so none is out of range. -/
structure CompressedHdr.InRange (hdr : CompressedHdr) (frame : Frame) : Prop where
  tx8 : hdr.txMode = txModeSelect → ∀ i j, hdr.deltas.tx8 i j ≠ 255
  tx16 : hdr.txMode = txModeSelect → ∀ i j, hdr.deltas.tx16 i j ≠ 255
  tx32 : hdr.txMode = txModeSelect → ∀ i j, hdr.deltas.tx32 i j ≠ 255
  coef : ∀ i j k l m n, i.val ≤ hdr.txMode → m.val < band6 l → hdr.deltas.coef i j k l m n ≠ 255
  skip : ∀ i, hdr.deltas.skip i ≠ 255
  interMode : frame.isIntra = false → ∀ i j, hdr.deltas.interMode i j ≠ 255
  interpFilter : frame.isIntra = false → frame.interpolationFilter = .switchable →
    ∀ i j, hdr.deltas.interpFilter i j ≠ 255
  isInter : frame.isIntra = false → ∀ i, hdr.deltas.isInter i ≠ 255
  compMode : frame.isIntra = false → frame.referenceMode = .select → ∀ i, hdr.deltas.compMode i ≠ 255
  singleRef : frame.isIntra = false → frame.referenceMode ≠ .compoundReference →
    ∀ i j, hdr.deltas.singleRef i j ≠ 255
  compRef : frame.isIntra = false → frame.referenceMode ≠ .singleReference → ∀ i, hdr.deltas.compRef i ≠ 255
  yMode : frame.isIntra = false → ∀ i j, hdr.deltas.yMode i j ≠ 255
  partition : frame.isIntra = false → ∀ i j, hdr.deltas.partition i j ≠ 255

theorem updateProb_ne_zero_iff {delta prob : UInt8} (nonzero : prob ≠ 0) : updateProb delta prob ≠ 0 ↔ delta ≠ 255 :=
  (updateProb_eq_zero_iff nonzero).not

theorem updateMvProb_ne_zero {delta prob : UInt8} (nonzero : prob ≠ 0) : updateMvProb delta prob ≠ 0 := by
  unfold updateMvProb
  split_ifs with none
  · exact nonzero
  · exact none

/-- The forward update entry by entry: which condition applies which delta. -/
private theorem fwUpdateProbs_eq (probs : FrameContext) (hdr : CompressedHdr) (frame : Frame) :
    fwUpdateProbs probs hdr frame =
      { tx8 := fun i j =>
          if hdr.txMode = txModeSelect then updateProb (hdr.deltas.tx8 i j) (probs.tx8 i j) else probs.tx8 i j
        tx16 := fun i j =>
          if hdr.txMode = txModeSelect then updateProb (hdr.deltas.tx16 i j) (probs.tx16 i j) else probs.tx16 i j
        tx32 := fun i j =>
          if hdr.txMode = txModeSelect then updateProb (hdr.deltas.tx32 i j) (probs.tx32 i j) else probs.tx32 i j
        coef := fun i j k =>
          if i.val ≤ hdr.txMode then updateCoeff (hdr.deltas.coef i j k) (probs.coef i j k) else probs.coef i j k
        skip := fun i => updateProb (hdr.deltas.skip i) (probs.skip i)
        interMode := fun i j =>
          if frame.isIntra = false then updateProb (hdr.deltas.interMode i j) (probs.interMode i j)
          else probs.interMode i j
        interpFilter := fun i j =>
          if frame.isIntra = false ∧ frame.interpolationFilter = .switchable then
            updateProb (hdr.deltas.interpFilter i j) (probs.interpFilter i j)
          else probs.interpFilter i j
        isInter := fun i =>
          if frame.isIntra = false then updateProb (hdr.deltas.isInter i) (probs.isInter i) else probs.isInter i
        compMode := fun i =>
          if frame.isIntra = false ∧ frame.referenceMode = .select then
            updateProb (hdr.deltas.compMode i) (probs.compMode i)
          else probs.compMode i
        singleRef := fun i j =>
          if frame.isIntra = false ∧ frame.referenceMode ≠ .compoundReference then
            updateProb (hdr.deltas.singleRef i j) (probs.singleRef i j)
          else probs.singleRef i j
        compRef := fun i =>
          if frame.isIntra = false ∧ frame.referenceMode ≠ .singleReference then
            updateProb (hdr.deltas.compRef i) (probs.compRef i)
          else probs.compRef i
        yMode := fun i j =>
          if frame.isIntra = false then updateProb (hdr.deltas.yMode i j) (probs.yMode i j) else probs.yMode i j
        uvMode := probs.uvMode
        partition := fun i j =>
          if frame.isIntra = false then updateProb (hdr.deltas.partition i j) (probs.partition i j)
          else probs.partition i j
        mv :=
          if frame.isIntra = false then (updateMvProbs probs hdr frame.allowHighPrecMv).mv else probs.mv } := by
  by_cases select : hdr.txMode = txModeSelect
  all_goals by_cases switchable : frame.interpolationFilter = .switchable
  all_goals
    cases intra : frame.isIntra <;>
      simp [fwUpdateProbs, select, switchable, intra, updateTxProbs, updateCoefProbs, updateSkipProbs,
        updateInterModeProbs, updateInterpFilterProbs, updateIsInterProbs, updateFrameReferenceModeProbs,
        updateYModeProbs, updatePartitionProbs, updateMvProbs]

theorem updateMvProbs_nonzero {probs : FrameContext} (nonzero : probs.mv.Nonzero) (hdr : CompressedHdr)
    (allowHighPrecMv : Bool) : (updateMvProbs probs hdr allowHighPrecMv).mv.Nonzero := by
  constructor
  case class0Hp =>
    intro i
    cases allowHighPrecMv
    · exact nonzero.class0Hp i
    · exact updateMvProb_ne_zero (nonzero.class0Hp i)
  case hp =>
    intro i
    cases allowHighPrecMv
    · exact nonzero.hp i
    · exact updateMvProb_ne_zero (nonzero.hp i)
  all_goals
    intros
    apply updateMvProb_ne_zero
    first
      | apply nonzero.joint
      | apply nonzero.sign
      | apply nonzero.classes
      | apply nonzero.class0Bit
      | apply nonzero.bits
      | apply nonzero.class0Fr
      | apply nonzero.fr

/-- An entry updated under a condition. -/
private theorem updated_ne_zero_iff {condition : Prop} [Decidable condition] {delta prob : UInt8} (nonzero : prob ≠ 0) :
    (if condition then updateProb delta prob else prob) ≠ 0 ↔ (condition → delta ≠ 255) := by
  split_ifs with applied
  · simpa [applied] using updateProb_ne_zero_iff nonzero
  · simpa [applied] using nonzero

/-- From nonzero probabilities, the forward update stays at nonzero ones exactly when the deltas are in range. -/
theorem fwUpdateProbs_nonzero_iff {probs : FrameContext} (nonzero : probs.Nonzero) (hdr : CompressedHdr)
    (frame : Frame) : (fwUpdateProbs probs hdr frame).Nonzero ↔ hdr.InRange frame := by
  rw [fwUpdateProbs_eq]
  have coef (i j k l m n) (used : m.val < band6 l) :
      (if i.val ≤ hdr.txMode then updateCoeff (hdr.deltas.coef i j k) (probs.coef i j k)
        else probs.coef i j k) l m n ≠ 0 ↔ (i.val ≤ hdr.txMode → hdr.deltas.coef i j k l m n ≠ 255) := by
    rw [← updated_ne_zero_iff (nonzero.coef i j k l m n used)]
    split_ifs with applied
    · simp [updateCoeff, used]
    · rfl
  constructor
  · intro updated
    exact
      { tx8 := fun applied i j => (updated_ne_zero_iff (nonzero.tx8 i j)).mp (updated.tx8 i j) applied
        tx16 := fun applied i j => (updated_ne_zero_iff (nonzero.tx16 i j)).mp (updated.tx16 i j) applied
        tx32 := fun applied i j => (updated_ne_zero_iff (nonzero.tx32 i j)).mp (updated.tx32 i j) applied
        coef := fun i j k l m n applied used => (coef i j k l m n used).mp (updated.coef i j k l m n used) applied
        skip := fun i => (updateProb_ne_zero_iff (nonzero.skip i)).mp (updated.skip i)
        interMode := fun inter i j =>
          (updated_ne_zero_iff (nonzero.interMode i j)).mp (updated.interMode i j) inter
        interpFilter := fun inter switchable i j =>
          (updated_ne_zero_iff (nonzero.interpFilter i j)).mp (updated.interpFilter i j) ⟨inter, switchable⟩
        isInter := fun inter i => (updated_ne_zero_iff (nonzero.isInter i)).mp (updated.isInter i) inter
        compMode := fun inter select i =>
          (updated_ne_zero_iff (nonzero.compMode i)).mp (updated.compMode i) ⟨inter, select⟩
        singleRef := fun inter single i j =>
          (updated_ne_zero_iff (nonzero.singleRef i j)).mp (updated.singleRef i j) ⟨inter, single⟩
        compRef := fun inter compound i =>
          (updated_ne_zero_iff (nonzero.compRef i)).mp (updated.compRef i) ⟨inter, compound⟩
        yMode := fun inter i j => (updated_ne_zero_iff (nonzero.yMode i j)).mp (updated.yMode i j) inter
        partition := fun inter i j =>
          (updated_ne_zero_iff (nonzero.partition i j)).mp (updated.partition i j) inter }
  · intro inRange
    exact
      { tx8 := fun i j => (updated_ne_zero_iff (nonzero.tx8 i j)).mpr (inRange.tx8 · i j)
        tx16 := fun i j => (updated_ne_zero_iff (nonzero.tx16 i j)).mpr (inRange.tx16 · i j)
        tx32 := fun i j => (updated_ne_zero_iff (nonzero.tx32 i j)).mpr (inRange.tx32 · i j)
        coef := fun i j k l m n used => (coef i j k l m n used).mpr (inRange.coef i j k l m n · used)
        skip := fun i => (updateProb_ne_zero_iff (nonzero.skip i)).mpr (inRange.skip i)
        interMode := fun i j => (updated_ne_zero_iff (nonzero.interMode i j)).mpr (inRange.interMode · i j)
        interpFilter := fun i j =>
          (updated_ne_zero_iff (nonzero.interpFilter i j)).mpr fun applied =>
            inRange.interpFilter applied.1 applied.2 i j
        isInter := fun i => (updated_ne_zero_iff (nonzero.isInter i)).mpr (inRange.isInter · i)
        compMode := fun i =>
          (updated_ne_zero_iff (nonzero.compMode i)).mpr fun applied => inRange.compMode applied.1 applied.2 i
        singleRef := fun i j =>
          (updated_ne_zero_iff (nonzero.singleRef i j)).mpr fun applied =>
            inRange.singleRef applied.1 applied.2 i j
        compRef := fun i =>
          (updated_ne_zero_iff (nonzero.compRef i)).mpr fun applied => inRange.compRef applied.1 applied.2 i
        yMode := fun i j => (updated_ne_zero_iff (nonzero.yMode i j)).mpr (inRange.yMode · i j)
        uvMode := nonzero.uvMode
        partition := fun i j => (updated_ne_zero_iff (nonzero.partition i j)).mpr (inRange.partition · i j)
        mv := by
          dsimp only
          split_ifs
          · exact updateMvProbs_nonzero nonzero.mv hdr frame.allowHighPrecMv
          · exact nonzero.mv }

theorem noncoefMergeProb_ne_zero {prob : UInt8} {ct0 ct1 : UInt32} (nonzero : prob ≠ 0) :
    noncoefMergeProb prob ct0 ct1 ≠ 0 :=
  mergeProb_ne_zero (by decide) (by decide) (by decide) nonzero

theorem mergeTree_ne_zero {m : ℕ} {ν : Type} [DecidableEq ν] (tree : Spec.SymbolTree (Fin m) ν) {p : ν → UInt8}
    (c : Fin m → UInt32) (nonzero : ∀ i, p i ≠ 0) (i : ν) : mergeTree tree p c i ≠ 0 :=
  mergeAll_forall c noncoefMergeProb (· ≠ 0) noncoefMergeProb_ne_zero tree nonzero i

theorem adaptCoeff_ne_zero {p : Fin 3 → UInt8} {coeff : Fin 3 → UInt32} {eob : Fin 2 → UInt32} {factor : UInt32}
    (most : factor.toNat ≤ 256) (nonzero : ∀ i, p i ≠ 0) (i : Fin 3) : adaptCoeff p coeff eob factor i ≠ 0 := by
  have kept {prob : UInt8} {ct0 ct1 : UInt32} (nonzero : prob ≠ 0) : mergeProb prob ct0 ct1 24 factor ≠ 0 :=
    mergeProb_ne_zero (by decide) (by decide) most nonzero
  rw [adaptCoeff_eq]
  exact mergeAll_forall _ _ (· ≠ 0) kept _ (mergeAll_forall _ _ (· ≠ 0) kept _ nonzero) i

theorem adaptCoefProbs_nonzero {probs : FrameContext} (nonzero : probs.Nonzero) (counts : SymbolCounts)
    (use128 frameIsIntra : Bool) : (adaptCoefProbs probs counts use128 frameIsIntra).Nonzero := by
  have byFactor : ∃ factor : UInt32, factor.toNat ≤ 256 ∧
      adaptCoefProbs probs counts use128 frameIsIntra = adaptCoefProbsBy probs counts factor := by
    cases frameIsIntra
    · cases use128
      · exact ⟨112, by decide, rfl⟩
      · exact ⟨128, by decide, rfl⟩
    · exact ⟨112, by decide, rfl⟩
  obtain ⟨factor, most, same⟩ := byFactor
  rw [same]
  refine { nonzero with coef := fun i j k l m n used => ?_ }
  simp only [adaptCoefProbsBy, if_pos used]
  exact adaptCoeff_ne_zero most (fun n => nonzero.coef i j k l m n used) n

theorem adaptNoncoefProbs_nonzero {probs : FrameContext} (nonzero : probs.Nonzero) (counts : SymbolCounts)
    (referenceMode : ReferenceMode) (interpolationFilter : InterpFilter) (txMode : ℕ) (allowHighPrecMv : Bool) :
    (adaptNoncoefProbs probs counts referenceMode interpolationFilter txMode allowHighPrecMv).Nonzero := by
  have one {prob : UInt8} (c : Fin 2 → UInt32) (nonzero : prob ≠ 0) : adaptProb prob c ≠ 0 :=
    noncoefMergeProb_ne_zero nonzero
  have fourWay {p : Fin 3 → UInt8} (c : Fin 4 → UInt32) (nonzero : ∀ i, p i ≠ 0) (i : Fin 3) :
      mergeProbsVariantE p c i ≠ 0 := by
    rw [variantE_eq]
    exact mergeTree_ne_zero _ c nonzero i
  have modes {p : Fin 9 → UInt8} (c : Fin 10 → UInt32) (nonzero : ∀ i, p i ≠ 0) (i : Fin 9) :
      mergeProbsVariantD p c i ≠ 0 := by
    rw [variantD_eq]
    exact mergeTree_ne_zero _ c nonzero i
  have threeWay {p : Fin 2 → UInt8} (c0 c1 c2 : UInt32) (nonzero : ∀ i, p i ≠ 0) (i : Fin 2) :
      mergeProbsVariantF p c0 c1 c2 i ≠ 0 := by
    rcases Fin.exists_fin_two.mp ⟨i, rfl⟩ with rfl | rfl
    · exact noncoefMergeProb_ne_zero (nonzero 0)
    · exact noncoefMergeProb_ne_zero (nonzero 1)
  have mv := nonzero.mv
  constructor
  case tx8 =>
    intro i j
    simp only [adaptNoncoefProbs]
    split_ifs
    · exact one _ (nonzero.tx8 i j)
    · exact nonzero.tx8 i j
  case tx16 =>
    intro i j
    simp only [adaptNoncoefProbs]
    split_ifs
    · exact threeWay _ _ _ (nonzero.tx16 i) j
    · exact nonzero.tx16 i j
  case tx32 =>
    intro i j
    simp only [adaptNoncoefProbs]
    split_ifs
    · exact fourWay _ (nonzero.tx32 i) j
    · exact nonzero.tx32 i j
  case singleRef =>
    intro i j
    simp only [adaptNoncoefProbs]
    split_ifs
    · exact one _ (nonzero.singleRef i j)
    · exact nonzero.singleRef i j
  case interpFilter =>
    intro i j
    simp only [adaptNoncoefProbs]
    split_ifs
    · exact threeWay _ _ _ (nonzero.interpFilter i) j
    · exact nonzero.interpFilter i j
  case interMode =>
    intro i j
    simp only [adaptNoncoefProbs, variantC_eq]
    exact mergeTree_ne_zero _ _ (nonzero.interMode i) j
  case coef => exact nonzero.coef
  case skip => exact fun i => one _ (nonzero.skip i)
  case isInter => exact fun i => one _ (nonzero.isInter i)
  case compMode => exact fun i => one _ (nonzero.compMode i)
  case compRef => exact fun i => one _ (nonzero.compRef i)
  case yMode => exact fun i => modes _ (nonzero.yMode i)
  case uvMode => exact fun i => modes _ (nonzero.uvMode i)
  case partition => exact fun i => fourWay _ (nonzero.partition i)
  case mv =>
    constructor
    case joint => exact fourWay _ mv.joint
    case sign => exact fun i => one _ (mv.sign i)
    case classes =>
      intro i j
      simp only [adaptNoncoefProbs, variantG_eq]
      exact mergeTree_ne_zero _ _ (mv.classes i) j
    case class0Bit => exact fun i => one _ (mv.class0Bit i)
    case bits => exact fun i j => one _ (mv.bits i j)
    case class0Fr => exact fun i j => fourWay _ (mv.class0Fr i j)
    case fr => exact fun i => fourWay _ (mv.fr i)
    case class0Hp =>
      intro i
      simp only [adaptNoncoefProbs]
      split_ifs
      · exact one _ (mv.class0Hp i)
      · exact mv.class0Hp i
    case hp =>
      intro i
      simp only [adaptNoncoefProbs]
      split_ifs
      · exact one _ (mv.hp i)
      · exact mv.hp i

/-- Every saved context is nonzero. -/
def Store.Nonzero {size : ℕ} (store : Store size) : Prop := ∀ i, (store.frameContext i).Nonzero

variable {size : ℕ}

/-- The tables a job hands to the hardware are nonzero exactly when its deltas are in range. -/
theorem Store.configure_nonzero {store : Store size} {defaults : FrameContext} (valid : defaults.Nonzero)
    (nonzero : store.Nonzero) (frame : Frame) (hdr : CompressedHdr) :
    (store.configure defaults frame hdr).Nonzero ∧
      ((store.configure defaults frame hdr).probabilityTables.Nonzero ↔ hdr.InRange frame) := by
  obtain ⟨-, contexts, tables⟩ := store.configure_entropy defaults frame hdr
  have saved : (store.configure defaults frame hdr).Nonzero := by
    intro i
    rw [contexts]
    dsimp only
    split_ifs
    · exact valid
    · exact nonzero i
  refine ⟨saved, ?_⟩
  rw [tables]
  exact fwUpdateProbs_nonzero_iff (saved _) hdr frame

theorem Store.adapted_nonzero {store : Store size} (nonzero : store.Nonzero)
    (tables : store.probabilityTables.Nonzero) (frame : Frame) (hdr : CompressedHdr) (hw : HwCounts) :
    (store.adapted frame hdr hw).Nonzero := by
  have saved := nonzero store.frameContextIdx
  simp only [Store.adapted]
  split_ifs
  · apply adaptCoefProbs_nonzero
    exact { saved with tx8 := tables.tx8, tx16 := tables.tx16, tx32 := tables.tx32, skip := tables.skip }
  · exact adaptNoncoefProbs_nonzero (adaptCoefProbs_nonzero saved _ _ _) _ _ _ _ _

/-- A job keeps the saved contexts nonzero, when its deltas are in range if it was programmed. -/
theorem Store.after_nonzero {store : Store size} {defaults : FrameContext} (valid : defaults.Nonzero)
    {entry : Finished size} (nonzero : store.Nonzero) (started : entry.programmed = false → entry.output = none)
    (inRange : entry.programmed → entry.job.compressedHdr.InRange entry.job.frame) :
    (store.after defaults entry).Nonzero := by
  simp only [Store.after]
  cases programmed : entry.programmed with
  | false =>
    rw [started programmed]
    exact nonzero
  | true =>
    obtain ⟨saved, tables⟩ := Store.configure_nonzero valid nonzero entry.job.frame entry.job.compressedHdr
    have tables := tables.mpr (inRange programmed)
    simp only [↓reduceIte]
    cases entry.output with
    | none => exact saved
    | some output =>
      intro i
      rw [Store.finish_frameContext]
      split_ifs
      · by_cases selected : i = (store.configure defaults entry.job.frame entry.job.compressedHdr).frameContextIdx
        · rw [selected, Function.update_self]
          exact tables
        · rw [Function.update_of_ne selected]
          exact saved i
      · by_cases selected : i = (store.configure defaults entry.job.frame entry.job.compressedHdr).frameContextIdx
        · rw [selected, Function.update_self]
          exact Store.adapted_nonzero saved tables entry.job.frame entry.job.compressedHdr output.counts
        · rw [Function.update_of_ne selected]
          exact saved i
      · exact saved i

/-- In a run whose programmed jobs keep their deltas in range, every saved probability is nonzero, and the next job
hands a zero to the hardware exactly when a delta it applies is 255. -/
theorem probabilities_stay_nonzero (config : Config) (valid : config.defaults.Nonzero) (events : List (Event size))
    (s : Traced size) (reached : run (Traced.step config) (.initial config) events = some s)
    (inRange : ∀ entry ∈ s.jobs, entry.programmed → entry.job.compressedHdr.InRange entry.job.frame) :
    s.dec.store.Nonzero ∧ ∀ frame hdr,
      ((s.dec.store.configure config.defaults frame hdr).probabilityTables.Nonzero ↔ hdr.InRange frame) := by
  have saved : (∀ entry ∈ s.jobs, entry.programmed → entry.job.compressedHdr.InRange entry.job.frame) →
      s.dec.store.Nonzero := by
    refine run_preserves (fun s : Traced size =>
      (∀ entry ∈ s.jobs, entry.programmed → entry.job.compressedHdr.InRange entry.job.frame) →
        s.dec.store.Nonzero) ?_ (fun _ _ => valid) reached
    intro s event next nonzero taken
    cases event with
    | queueBuffer buffer =>
      obtain rfl := Option.some.inj taken
      exact nonzero
    | runJob job outcome =>
      obtain rfl := Option.some.inj taken
      intro inRange
      change (s.dec.runJob config job outcome).store.Nonzero
      rw [Decoder.runJob_store]
      apply Store.after_nonzero valid
        (nonzero fun entry member => inRange entry (List.mem_cons_of_mem _ member))
      · intro refused
        cases written : (s.dec.finished config job outcome).output with
        | none => rfl
        | some output => simp [Decoder.finished_programmed written] at refused
      · exact inRange _ List.mem_cons_self
  exact ⟨saved inRange, fun frame hdr => (Store.configure_nonzero valid (saved inRange) frame hdr).2⟩

/-- Every symbol as likely as its alternative. -/
def evenContext : FrameContext where
  tx8 _ _ := 128
  tx16 _ _ := 128
  tx32 _ _ := 128
  coef _ _ _ _ _ _ := 128
  skip _ := 128
  interMode _ _ := 128
  interpFilter _ _ := 128
  isInter _ := 128
  compMode _ := 128
  singleRef _ _ := 128
  compRef _ := 128
  yMode _ _ := 128
  uvMode _ _ := 128
  partition _ _ := 128
  mv :=
    { joint := fun _ => 128
      sign := fun _ => 128
      classes := fun _ _ => 128
      class0Bit := fun _ => 128
      bits := fun _ _ => 128
      class0Fr := fun _ _ _ => 128
      fr := fun _ _ => 128
      class0Hp := fun _ => 128
      hp := fun _ => 128 }

private theorem evenContext_nonzero : evenContext.Nonzero := by
  have even : (128 : UInt8) ≠ 0 := by decide
  constructor
  case mv => constructor <;> intros <;> exact even
  all_goals intros; exact even

private theorem stdInit_inRange (frame : Frame) : CompressedHdr.stdInit.InRange frame := by
  have unchanged : (0 : UInt8) ≠ 255 := by decide
  constructor <;> intros <;> exact unchanged

/-- After a first key frame: a delta of 255 in the next frame would be a zero for the hardware. -/
theorem probabilities_stay_nonzero_key_frame :
    ∃ s : Traced 0, run (Traced.step (smallConfig evenContext)) (.initial (smallConfig evenContext))
        [adaptingKeyFrame] = some s ∧ s.dec.store.Nonzero ∧ (s.dec.store.frameContext 0).coef 0 0 0 0 0 1 = 184 ∧
      ¬ (s.dec.store.configure evenContext .stdInit
          { CompressedHdr.stdInit with
            deltas := { FrameContext.zero with skip := fun _ => 255 } }).probabilityTables.Nonzero := by
  have kept := probabilities_stay_nonzero (smallConfig evenContext) evenContext_nonzero [adaptingKeyFrame] _ rfl
    (by
      intro entry member _
      obtain rfl := List.mem_singleton.mp member
      exact stdInit_inRange _)
  refine ⟨_, rfl, kept.1, by decide, ?_⟩
  intro nonzero
  exact ((kept.2 _ _).mp nonzero).skip 0 rfl

end H618Vpu.Vp9
