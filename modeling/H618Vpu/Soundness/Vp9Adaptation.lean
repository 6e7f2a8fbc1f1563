import H618Vpu.Math.Reciprocal
import H618Vpu.Model.Vp9Decoder
import H618Vpu.Spec.Vp9Adaptation

/-! # The backward adaptation is the process of the specification -/

namespace H618Vpu.Vp9

open Math Spec.SymbolTree

theorem fastdiv_toNat {dividend : UInt32} {divisor : UInt16} (two : 2 ≤ divisor.toNat) (inside : divisor.toNat ≤ 256)
    (small : dividend.toNat * (divisor.toNat - 1) < 2 ^ 32) :
    (fastdiv dividend divisor).toNat = dividend.toNat / divisor.toNat := by
  have nonzero : divisor ≠ 0 := by rintro rfl; simp at two
  have notOne : divisor ≠ 1 := by rintro rfl; simp at two
  have inTable : ¬ 255 ≤ divisor.toNat - 2 := by omega
  have narrow : reciprocal (2 ^ 32) divisor.toNat < 2 ^ 32 := by
    obtain ⟨-, tight⟩ := reciprocal_mul (2 ^ 32) (by omega : 0 < divisor.toNat)
    by_contra wide
    have double := Nat.mul_le_mul (not_lt.mp wide) two
    omega
  have quotient := mul_reciprocal_div (by omega) small
  simp only [fastdiv, if_neg nonzero, if_neg notOne, if_neg inTable]
  change (UInt32.ofNat (dividend.toNat * (reciprocal (2 ^ 32) divisor.toNat % 2 ^ 32) / 2 ^ 32)).toNat = _
  rw [Nat.mod_eq_of_lt narrow, quotient, UInt32.toNat_ofNat']
  exact Nat.mod_eq_of_lt ((Nat.div_le_self _ _).trans_lt dividend.toNat_lt)

/-- The counts of one branch do not overflow the 32 bits of the estimate. -/
def Fits (total : ℕ) : Prop := 256 * total + total / 2 < 2 ^ 32

instance (total : ℕ) : Decidable (Fits total) := inferInstanceAs (Decidable (_ < _))

theorem Fits.mono {small large : ℕ} (fits : Fits large) (le : small ≤ large) : Fits small := by
  unfold Fits at *
  omega

theorem Fits.toNat_add {ct0 ct1 : UInt32} (fits : Fits (ct0.toNat + ct1.toNat)) :
    (ct0 + ct1).toNat = ct0.toNat + ct1.toNat := by
  unfold Fits at fits
  rw [UInt32.toNat_add]
  omega

/-- The clamped estimate of the probability. -/
private theorem estimate_toNat {ct0 ct1 : UInt32} (fits : Fits (ct0.toNat + ct1.toNat)) :
    (max 1 (min (((ct0 <<< 8) + ((ct0 + ct1) >>> 1)) / (ct0 + ct1)) 255) : UInt32).toNat =
      max 1 (min 255 ((ct0.toNat * 256 + (ct0.toNat + ct1.toNat) / 2) / (ct0.toNat + ct1.toNat))) := by
  have quotient : (((ct0 <<< 8) + ((ct0 + ct1) >>> 1)) / (ct0 + ct1)).toNat =
      (ct0.toNat * 256 + (ct0.toNat + ct1.toNat) / 2) / (ct0.toNat + ct1.toNat) := by
    have sum := fits.toNat_add
    have shifted : (ct0 <<< 8).toNat = ct0.toNat * 256 := by
      rw [UInt32.toNat_shiftLeft]
      simp only [UInt32.reduceToNat, Nat.reduceMod, Nat.shiftLeft_eq]
      unfold Fits at fits
      omega
    have halved : ((ct0 + ct1) >>> 1).toNat = (ct0.toNat + ct1.toNat) / 2 := by
      rw [UInt32.toNat_shiftRight, sum]
      simp [Nat.shiftRight_eq_div_pow]
    rw [UInt32.toNat_div, UInt32.toNat_add, shifted, halved, sum, Nat.mod_eq_of_lt]
    unfold Fits at fits
    omega
  rw [UInt32.toNat_max, UInt32.toNat_min, quotient, Nat.min_comm]
  rfl

/-- The update by a factor of at most 256, in wrapping arithmetic. -/
private theorem interpolate_eq {preProb : UInt8} {prob factor : UInt32} (byte : prob.toNat ≤ 255)
    (most : factor.toNat ≤ 256) :
    (preProb.toUInt32 + (((prob - preProb.toUInt32) * factor + 128) >>> 8)).toUInt8 =
      UInt8.ofNat (Spec.Vp9.round2 (preProb.toNat * (256 - factor.toNat) + prob.toNat * factor.toNat) 8) := by
  have small := preProb.toNat_lt
  apply UInt8.toNat_inj.mp
  simp only [UInt32.toNat_toUInt8, UInt32.toNat_add, UInt32.toNat_shiftRight, UInt32.toNat_mul, UInt32.toNat_sub,
    UInt8.toNat_toUInt32, UInt32.reduceToNat, Nat.reduceMod, Nat.shiftRight_eq_div_pow, UInt8.toNat_ofNat',
    Spec.Vp9.round2]
  obtain ⟨rest, split⟩ := Nat.exists_eq_add_of_le most
  rw [split, Nat.add_sub_cancel_left]
  rcases Nat.lt_or_ge prob.toNat preProb.toNat with down | up
  · -- the difference is negative: it wraps, and the sum wraps back
    obtain ⟨d, moved⟩ := Nat.exists_eq_add_of_lt down
    have product : (d + 1) * factor.toNat ≤ 255 * 256 := Nat.mul_le_mul (by omega) most
    have weighted : (preProb.toNat * rest + prob.toNat * factor.toNat) + (d + 1) * factor.toNat =
        preProb.toNat * 256 := by
      rw [split, moved]
      ring
    have difference : (2 ^ 32 - preProb.toNat + prob.toNat) % 2 ^ 32 = 2 ^ 32 - (d + 1) := by omega
    have whole : (d + 1) * factor.toNat ≤ 2 ^ 32 * factor.toNat := Nat.mul_le_mul_right _ (by omega)
    rw [difference, Nat.sub_mul]
    generalize (d + 1) * factor.toNat = x at *
    generalize preProb.toNat * rest + prob.toNat * factor.toNat = y at *
    omega
  · obtain ⟨d, moved⟩ := Nat.exists_eq_add_of_le up
    have product : d * factor.toNat ≤ 255 * 256 := Nat.mul_le_mul (by omega) most
    have weighted : preProb.toNat * rest + (preProb.toNat + d) * factor.toNat =
        preProb.toNat * 256 + d * factor.toNat := by
      rw [split]
      ring
    have difference : (2 ^ 32 - preProb.toNat + prob.toNat) % 2 ^ 32 = d := by omega
    rw [difference, moved, weighted]
    generalize d * factor.toNat = x at *
    omega

section Merge

variable {preProb : UInt8} {ct0 ct1 : UInt32} {countSat : UInt16} {maxUpdateFactor : UInt32}

/-- The factor of an update, for the saturations and factors the reciprocals are precise enough for. -/
private theorem factor_toNat {den : UInt32} (two : 2 ≤ countSat.toNat) (inside : countSat.toNat ≤ 256)
    (most : maxUpdateFactor.toNat ≤ 256) :
    (fastdiv (maxUpdateFactor * min den countSat.toUInt32) countSat).toNat =
      maxUpdateFactor.toNat * min den.toNat countSat.toNat / countSat.toNat := by
  have count : (min den countSat.toUInt32).toNat = min den.toNat countSat.toNat := by
    rw [UInt32.toNat_min, UInt16.toNat_toUInt32]
  have bound : maxUpdateFactor.toNat * min den.toNat countSat.toNat ≤ 256 * 256 :=
    Nat.mul_le_mul most ((Nat.min_le_right ..).trans inside)
  have product : (maxUpdateFactor * min den countSat.toUInt32).toNat =
      maxUpdateFactor.toNat * min den.toNat countSat.toNat := by
    rw [UInt32.toNat_mul, count, Nat.mod_eq_of_lt (bound.trans_lt (by decide))]
  rw [fastdiv_toNat two inside, product]
  rw [product]
  exact (Nat.mul_le_mul bound (by omega : _ ≤ 255)).trans_lt (by decide)

private theorem factor_le (den : UInt32) (two : 2 ≤ countSat.toNat) (inside : countSat.toNat ≤ 256)
    (most : maxUpdateFactor.toNat ≤ 256) :
    (fastdiv (maxUpdateFactor * min den countSat.toUInt32) countSat).toNat ≤ 256 := by
  rw [factor_toNat two inside most]
  calc _ ≤ 256 * countSat.toNat / countSat.toNat := Nat.div_le_div_right (Nat.mul_le_mul most (Nat.min_le_right ..))
    _ = 256 := Nat.mul_div_cancel _ (by omega)

/-- `merge_prob` computes the process. -/
theorem mergeProb_eq (fits : Fits (ct0.toNat + ct1.toNat)) (two : 2 ≤ countSat.toNat) (inside : countSat.toNat ≤ 256)
    (most : maxUpdateFactor.toNat ≤ 256) :
    mergeProb preProb ct0 ct1 countSat maxUpdateFactor =
      UInt8.ofNat (Spec.Vp9.mergeProb preProb.toNat ct0.toNat ct1.toNat countSat.toNat maxUpdateFactor.toNat) := by
  have sum := fits.toNat_add
  by_cases none : ct0 + ct1 = 0
  · have zero : ct0.toNat + ct1.toNat = 0 := by rw [← sum, none]; rfl
    have kept : (preProb.toNat * 256 + 128) / 256 = preProb.toNat := by omega
    simp [mergeProb, none, Spec.Vp9.mergeProb, zero, Spec.Vp9.round2, kept]
  · have some : ct0.toNat + ct1.toNat ≠ 0 := fun zero => none (UInt32.toNat_inj.mp (sum.trans zero))
    have byte := estimate_toNat fits
    simp only [mergeProb, if_neg none]
    rw [interpolate_eq (by rw [byte]; omega) (factor_le _ two inside most), factor_toNat two inside most, byte, sum]
    simp only [Spec.Vp9.mergeProb, if_neg some]

/-- No counts take a probability to zero, not even counts that overflow. -/
theorem mergeProb_ne_zero (two : 2 ≤ countSat.toNat) (inside : countSat.toNat ≤ 256)
    (most : maxUpdateFactor.toNat ≤ 256) (nonzero : preProb ≠ 0) :
    mergeProb preProb ct0 ct1 countSat maxUpdateFactor ≠ 0 := by
  by_cases none : ct0 + ct1 = 0
  · simpa [mergeProb, none] using nonzero
  · simp only [mergeProb, if_neg none]
    have clamped (q : UInt32) : (max 1 (min q 255)).toNat = max 1 (min q.toNat 255) := by
      rw [UInt32.toNat_max, UInt32.toNat_min]
      rfl
    have bound := factor_le (ct0 + ct1) two inside most
    rw [interpolate_eq (by rw [clamped]; omega) bound, clamped]
    have low : 1 ≤ preProb.toNat := Nat.pos_of_ne_zero fun zero => nonzero (UInt8.toNat_inj.mp zero)
    have high : preProb.toNat ≤ 255 := Nat.le_of_lt_succ preProb.toNat_lt
    generalize (fastdiv _ _).toNat = factor at *
    generalize estimate : max 1 (min _ 255) = prob
    have probLow : 1 ≤ prob := by omega
    have probHigh : prob ≤ 255 := by omega
    obtain ⟨rest, split⟩ := Nat.exists_eq_add_of_le bound
    have least := Nat.add_le_add (Nat.mul_le_mul_right rest low) (Nat.mul_le_mul_right factor probLow)
    have greatest := Nat.add_le_add (Nat.mul_le_mul_right rest high) (Nat.mul_le_mul_right factor probHigh)
    intro zero
    have value := congrArg UInt8.toNat zero
    rw [split, Nat.add_sub_cancel_left, UInt8.toNat_ofNat'] at value
    simp only [Spec.Vp9.round2, UInt8.toNat_zero] at value
    omega

end Merge

section Series

open Spec.Vp9

variable {m : ℕ} {ν : Type} [DecidableEq ν]

/-- `merge_probs` with the update of the modes and motion vectors, in wrapping arithmetic. -/
def mergeTree (tree : Spec.SymbolTree (Fin m) ν) (p : ν → UInt8) (c : Fin m → UInt32) : ν → UInt8 :=
  (tree.mergeAll c noncoefMergeProb p).1

theorem variantC_eq (p : Fin 3 → UInt8) (c : Fin 4 → UInt32) :
    mergeProbsVariantC p c = mergeTree interModeTree p c := by
  funext i
  fin_cases i
  all_goals
    symm
    apply mergeAll_of_mem c noncoefMergeProb (by decide)
    simp [branches, interModeTree, chain, pair, total]
  all_goals abel

theorem variantD_eq (p : Fin 9 → UInt8) (c : Fin 10 → UInt32) :
    mergeProbsVariantD p c = mergeTree intraModeTree p c := by
  funext i
  fin_cases i
  all_goals
    symm
    apply mergeAll_of_mem c noncoefMergeProb (by decide)
    simp [branches, intraModeTree, chain, pair, total]
  all_goals and_intros <;> abel

theorem variantE_eq (p : Fin 3 → UInt8) (c : Fin 4 → UInt32) :
    mergeProbsVariantE p c = mergeTree fourWayTree p c := by
  funext i
  fin_cases i
  all_goals
    symm
    apply mergeAll_of_mem c noncoefMergeProb (by decide)
    simp [branches, fourWayTree, chain, pair, total]
  all_goals abel

theorem variantF_eq (p : Fin 2 → UInt8) (c : Fin 3 → UInt32) :
    mergeProbsVariantF p (c 0) (c 1) (c 2) = mergeTree threeWayTree p c := by
  funext i
  fin_cases i
  all_goals
    symm
    apply mergeAll_of_mem c noncoefMergeProb (by decide)
    simp [branches, threeWayTree, chain, pair, total]

theorem variantG_eq (p : Fin 10 → UInt8) (c : Fin 11 → UInt32) :
    mergeProbsVariantG p c = mergeTree mvClassTree p c := by
  funext i
  fin_cases i
  all_goals
    symm
    apply mergeAll_of_mem c noncoefMergeProb (by decide)
    simp [branches, mvClassTree, chain, pair, total]
  all_goals abel

/-- Variants A and B of the coefficients: the tokens behind the first, and whether there are more. -/
theorem adaptCoeff_eq (p : Fin 3 → UInt8) (coeff : Fin 3 → UInt32) (eob : Fin 2 → UInt32) (factor : UInt32) :
    adaptCoeff p coeff eob factor =
      (moreCoefsTree.mergeAll (fun s => if s = 0 then eob 1 else eob 0 - eob 1)
        (fun pre ct0 ct1 => mergeProb pre ct0 ct1 24 factor)
        (smallTokenTree.mergeAll coeff (fun pre ct0 ct1 => mergeProb pre ct0 ct1 24 factor) p).1).1 := by
  funext i
  fin_cases i <;>
    simp [adaptCoeff, mergeProbsVariantA, mergeAll, moreCoefsTree, binaryTree, smallTokenTree, chain, pair,
      Function.update]

end Series

section Process

open Spec.Vp9

variable {m : ℕ} {ν : Type} [DecidableEq ν]

/-- `merge_prob` on a byte of a table. -/
def mergeByte (countSat maxUpdateFactor : ℕ) (preProb : UInt8) (ct0 ct1 : ℕ) : UInt8 :=
  UInt8.ofNat (Spec.Vp9.mergeProb preProb.toNat ct0 ct1 countSat maxUpdateFactor)

/-- `merge_probs` over a tree. -/
def processTree (countSat maxUpdateFactor : ℕ) (tree : Spec.SymbolTree (Fin m) ν) (p : ν → UInt8) (c : Fin m → ℕ) :
    ν → UInt8 :=
  (tree.mergeAll c (mergeByte countSat maxUpdateFactor) p).1

/-- The counts of a tree fit. -/
def TreeFits (tree : Spec.SymbolTree (Fin m) ν) (c : Fin m → UInt32) : Prop := Fits (tree.total fun s => (c s).toNat)

/-- The recursion in wrapping arithmetic is the one on numbers when the counts fit. -/
theorem mergeAll_eq_process {tree : Spec.SymbolTree (Fin m) ν} {c : Fin m → UInt32} {countSat : UInt16}
    {maxUpdateFactor : UInt32} (fits : TreeFits tree c) (two : 2 ≤ countSat.toNat) (inside : countSat.toNat ≤ 256)
    (most : maxUpdateFactor.toNat ≤ 256) (p : ν → UInt8) :
    (tree.mergeAll c (fun pre ct0 ct1 => mergeProb pre ct0 ct1 countSat maxUpdateFactor) p).1 =
      processTree countSat.toNat maxUpdateFactor.toNat tree p fun s => (c s).toNat := by
  apply mergeAll_map UInt32.toNat Fits
  · intro a b sum
    exact ⟨sum.mono (Nat.le_add_right ..), sum.mono (Nat.le_add_left ..)⟩
  · intro a b sum
    exact sum.toNat_add
  · intro value a b sum
    exact mergeProb_eq sum two inside most
  · exact fits

/-- `adapt_probs` -/
def processProbs (tree : Spec.SymbolTree (Fin m) ν) (p : ν → UInt8) (c : Fin m → UInt32) : ν → UInt8 :=
  processTree modeMvCountSat modeMvMaxUpdateFactor tree p fun s => (c s).toNat

/-- `adapt_prob` -/
def processProb (prob : UInt8) (c : Fin 2 → UInt32) : UInt8 := processProbs (binaryTree ()) (fun _ => prob) c ()

theorem mergeTree_eq_process {tree : Spec.SymbolTree (Fin m) ν} {c : Fin m → UInt32} (fits : TreeFits tree c)
    (p : ν → UInt8) : mergeTree tree p c = processProbs tree p c :=
  mergeAll_eq_process fits (by decide) (by decide) (by decide) p

theorem adaptProb_eq_process {c : Fin 2 → UInt32} (fits : TreeFits (binaryTree ()) c) (prob : UInt8) :
    adaptProb prob c = processProb prob c :=
  congrFun (mergeTree_eq_process fits fun _ => prob) ()

/-- How often the frame coded that there is no coefficient left, and that there is another one. -/
def moreCoefs (eob : Fin 2 → UInt32) (s : Fin 2) : ℕ :=
  if s = 0 then (eob 1).toNat else (eob 0).toNat - (eob 1).toNat

/-- The adaptation of one context of the coefficients. -/
def processCoeff (factor : ℕ) (p : Fin 3 → UInt8) (coeff : Fin 3 → UInt32) (eob : Fin 2 → UInt32) : Fin 3 → UInt8 :=
  let tokens := processTree coefCountSat factor smallTokenTree p fun s => (coeff s).toNat
  processTree coefCountSat factor moreCoefsTree tokens (moreCoefs eob)

/-- What the hardware counted fits: the checks for a further coefficient include those that found none. -/
structure CoeffFits (coeff : Fin 3 → UInt32) (eob : Fin 2 → UInt32) : Prop where
  tokens : TreeFits smallTokenTree coeff
  checks : Fits (eob 0).toNat
  ends : (eob 1).toNat ≤ (eob 0).toNat

theorem adaptCoeff_eq_process {coeff : Fin 3 → UInt32} {eob : Fin 2 → UInt32} (fits : CoeffFits coeff eob)
    {factor : UInt32} (most : factor.toNat ≤ 256) (p : Fin 3 → UInt8) :
    adaptCoeff p coeff eob factor = processCoeff factor.toNat p coeff eob := by
  have others : (eob 0 - eob 1).toNat = (eob 0).toNat - (eob 1).toNat :=
    UInt32.toNat_sub_of_le _ _ (UInt32.le_iff_toNat_le.mpr fits.ends)
  have counts : (fun s : Fin 2 => (if s = 0 then eob 1 else eob 0 - eob 1).toNat) = moreCoefs eob := by
    funext s
    by_cases first : s = 0
    · simp [moreCoefs, first]
    · simp [moreCoefs, first, others]
  have inside : TreeFits moreCoefsTree fun s => if s = 0 then eob 1 else eob 0 - eob 1 := by
    refine fits.checks.mono ?_
    simp only [moreCoefsTree, binaryTree, pair, total, ↓reduceIte, Fin.isValue, one_ne_zero, others]
    exact (Nat.add_sub_of_le fits.ends).le
  rw [adaptCoeff_eq, mergeAll_eq_process fits.tokens (by decide) (by decide) most,
    mergeAll_eq_process inside (by decide) (by decide) most, counts]
  rfl

/-- The coefficient probability adaptation process. -/
def coefProcess (factor : ℕ) (probs : FrameContext) (counts : SymbolCounts) : FrameContext :=
  { probs with
    coef := fun i j k l m =>
      if m.val < band6 l then
        processCoeff factor (probs.coef i j k l m) (counts.coeff i j k l m) (counts.eob i j k l m)
      else probs.coef i j k l m }

/-- The non coefficient probability adaptation process. -/
def noncoefProcess (probs : FrameContext) (counts : SymbolCounts) (referenceMode : ReferenceMode)
    (interpolationFilter : InterpFilter) (txMode : ℕ) (allowHighPrecMv : Bool) : FrameContext where
  coef := probs.coef
  isInter i := processProb (probs.isInter i) (counts.intraInter i)
  compMode i := processProb (probs.compMode i) (counts.comp i)
  compRef i := processProb (probs.compRef i) (counts.compRef i)
  singleRef i j :=
    if referenceMode ≠ .compoundReference then processProb (probs.singleRef i j) (counts.singleRef i j)
    else probs.singleRef i j
  interMode i := processProbs interModeTree (probs.interMode i) (counts.mvMode i)
  yMode i := processProbs intraModeTree (probs.yMode i) (counts.yMode i)
  uvMode i := processProbs intraModeTree (probs.uvMode i) (counts.uvMode i)
  partition i := processProbs fourWayTree (probs.partition i) (counts.partition i)
  skip i := processProb (probs.skip i) (counts.skip i)
  interpFilter i :=
    if interpolationFilter = .switchable then processProbs threeWayTree (probs.interpFilter i) (counts.filter i)
    else probs.interpFilter i
  tx8 i j := if txMode = txModeSelect then processProb (probs.tx8 i j) (counts.tx8p i) else probs.tx8 i j
  tx16 i :=
    if txMode = txModeSelect then
      processProbs threeWayTree (probs.tx16 i) fun s => counts.tx16p i s.castSucc
    else probs.tx16 i
  tx32 i := if txMode = txModeSelect then processProbs fourWayTree (probs.tx32 i) (counts.tx32p i) else probs.tx32 i
  mv :=
    { joint := processProbs fourWayTree probs.mv.joint counts.mvJoint
      sign := fun i => processProb (probs.mv.sign i) (counts.sign i)
      classes := fun i => processProbs mvClassTree (probs.mv.classes i) (counts.classes i)
      class0Bit := fun i => processProb (probs.mv.class0Bit i) (counts.class0 i)
      bits := fun i j => processProb (probs.mv.bits i j) (counts.bits i j)
      class0Fr := fun i j => processProbs fourWayTree (probs.mv.class0Fr i j) (counts.class0Fp i j)
      fr := fun i => processProbs fourWayTree (probs.mv.fr i) (counts.fp i)
      class0Hp := fun i =>
        if allowHighPrecMv then processProb (probs.mv.class0Hp i) (counts.class0Hp i) else probs.mv.class0Hp i
      hp := fun i => if allowHighPrecMv then processProb (probs.mv.hp i) (counts.hp i) else probs.mv.hp i }

/-- No counter of the frame overflows its branch. -/
structure SymbolCounts.Fit (counts : SymbolCounts) : Prop where
  coeff : ∀ i j k l m, CoeffFits (counts.coeff i j k l m) (counts.eob i j k l m)
  intraInter : ∀ i, TreeFits (binaryTree ()) (counts.intraInter i)
  comp : ∀ i, TreeFits (binaryTree ()) (counts.comp i)
  compRef : ∀ i, TreeFits (binaryTree ()) (counts.compRef i)
  singleRef : ∀ i j, TreeFits (binaryTree ()) (counts.singleRef i j)
  mvMode : ∀ i, TreeFits interModeTree (counts.mvMode i)
  yMode : ∀ i, TreeFits intraModeTree (counts.yMode i)
  uvMode : ∀ i, TreeFits intraModeTree (counts.uvMode i)
  partition : ∀ i, TreeFits fourWayTree (counts.partition i)
  skip : ∀ i, TreeFits (binaryTree ()) (counts.skip i)
  filter : ∀ i, TreeFits threeWayTree (counts.filter i)
  tx8p : ∀ i, TreeFits (binaryTree ()) (counts.tx8p i)
  tx16p : ∀ i, TreeFits threeWayTree fun s => counts.tx16p i s.castSucc
  tx32p : ∀ i, TreeFits fourWayTree (counts.tx32p i)
  mvJoint : TreeFits fourWayTree counts.mvJoint
  sign : ∀ i, TreeFits (binaryTree ()) (counts.sign i)
  classes : ∀ i, TreeFits mvClassTree (counts.classes i)
  class0 : ∀ i, TreeFits (binaryTree ()) (counts.class0 i)
  bits : ∀ i j, TreeFits (binaryTree ()) (counts.bits i j)
  class0Fp : ∀ i j, TreeFits fourWayTree (counts.class0Fp i j)
  fp : ∀ i, TreeFits fourWayTree (counts.fp i)
  class0Hp : ∀ i, TreeFits (binaryTree ()) (counts.class0Hp i)
  hp : ∀ i, TreeFits (binaryTree ()) (counts.hp i)

variable {counts : SymbolCounts}

theorem adaptCoefProbsBy_eq_process (fit : counts.Fit) {factor : UInt32} (most : factor.toNat ≤ 256)
    (probs : FrameContext) : adaptCoefProbsBy probs counts factor = coefProcess factor.toNat probs counts := by
  simp only [adaptCoefProbsBy, coefProcess, adaptCoeff_eq_process (fit.coeff _ _ _ _ _) most]

theorem adaptNoncoefProbs_eq_process (fit : counts.Fit) (probs : FrameContext) (referenceMode : ReferenceMode)
    (interpolationFilter : InterpFilter) (txMode : ℕ) (allowHighPrecMv : Bool) :
    adaptNoncoefProbs probs counts referenceMode interpolationFilter txMode allowHighPrecMv =
      noncoefProcess probs counts referenceMode interpolationFilter txMode allowHighPrecMv := by
  have tx16 (i : Fin 2) : mergeProbsVariantF (probs.tx16 i) (counts.tx16p i 0) (counts.tx16p i 1) (counts.tx16p i 2) =
      processProbs threeWayTree (probs.tx16 i) fun s => counts.tx16p i s.castSucc :=
    (variantF_eq (probs.tx16 i) fun s => counts.tx16p i s.castSucc).trans (mergeTree_eq_process (fit.tx16p i) _)
  have filter (i : Fin 4) :
      mergeProbsVariantF (probs.interpFilter i) (counts.filter i 0) (counts.filter i 1) (counts.filter i 2) =
        processProbs threeWayTree (probs.interpFilter i) (counts.filter i) :=
    (variantF_eq _ (counts.filter i)).trans (mergeTree_eq_process (fit.filter i) _)
  simp only [adaptNoncoefProbs, noncoefProcess, variantC_eq, variantD_eq, variantE_eq, tx16, filter, variantG_eq,
    adaptProb_eq_process, mergeTree_eq_process, fit.intraInter, fit.comp, fit.compRef, fit.singleRef, fit.mvMode,
    fit.yMode, fit.uvMode, fit.partition, fit.skip, fit.tx8p, fit.tx32p, fit.mvJoint, fit.sign, fit.classes,
    fit.class0, fit.bits, fit.class0Fp, fit.fp, fit.class0Hp, fit.hp]

/-- The update factor of the coefficients. -/
def coefFactor (freshOrKey isIntra : Bool) : ℕ := if freshOrKey && !isIntra then 128 else 112

/-- The backward adaptation of a frame: from the saved context, with the transform and skip probabilities the frame
was decoded with when it is an intra frame. -/
def adaptationProcess (freshOrKey : Bool) (frame : Frame) (txMode : ℕ) (saved decoded : FrameContext)
    (counts : SymbolCounts) : FrameContext :=
  if frame.isIntra then coefProcess (coefFactor freshOrKey true) (saved.keepTxSkip decoded) counts
  else
    noncoefProcess (coefProcess (coefFactor freshOrKey false) saved counts) counts frame.referenceMode
      frame.interpolationFilter txMode frame.allowHighPrecMv

/-- What the driver saves after a frame is what the recursive processes of the specification compute. -/
theorem adapted_eq_process {size : ℕ} (store : Store size) (frame : Frame) (compressedHdr : CompressedHdr)
    (hw : HwCounts) (fit : hw.symbolCounts.Fit) :
    store.adapted frame compressedHdr hw =
      adaptationProcess (!store.previousValid || store.previousKeyFrame) frame compressedHdr.txMode
        (store.frameContext store.frameContextIdx) store.probabilityTables hw.symbolCounts := by
  have by112 (probs : FrameContext) :
      adaptCoefProbsBy probs hw.symbolCounts 112 = coefProcess 112 probs hw.symbolCounts :=
    adaptCoefProbsBy_eq_process fit (by decide) probs
  have by128 (probs : FrameContext) :
      adaptCoefProbsBy probs hw.symbolCounts 128 = coefProcess 128 probs hw.symbolCounts :=
    adaptCoefProbsBy_eq_process fit (by decide) probs
  simp only [Store.adapted, adaptCoefProbs, adaptationProcess, coefFactor, by112, by128,
    adaptNoncoefProbs_eq_process fit]
  cases frame.isIntra with
  | true => simp
  | false => cases store.previousValid <;> cases store.previousKeyFrame <;> simp

/-- A frame in which every block was predicted from its mean, twenty of them in each context. -/
def meanBlocks : HwCounts := { HwCounts.zero with yMode := fun _ s => if s.val = 0 then 20 else 0 }

/-- A context in which all prediction modes are as likely as the others. -/
def evenModes : FrameContext := { FrameContext.zero with yMode := fun _ _ => 128 }

omit [DecidableEq ν] in
private theorem treeFits_zero (tree : Spec.SymbolTree (Fin m) ν) : TreeFits tree fun _ => 0 := by
  have zero : tree.total (fun _ => UInt32.toNat 0) = 0 := by
    induction tree with
    | leaf symbol => rfl
    | branch index left right ihLeft ihRight => rw [total, ihLeft, ihRight]
  rw [TreeFits, zero]
  decide

private theorem meanBlocks_fit : meanBlocks.symbolCounts.Fit := by
  constructor
  case coeff => exact fun _ _ _ _ _ => ⟨treeFits_zero _, (by decide : Fits 0), le_rfl⟩
  case yMode => exact fun _ => (by decide : Fits 20)
  all_goals
    intros
    simp [HwCounts.symbolCounts, meanBlocks, HwCounts.zero, ofComponents, treeFits_zero]

theorem adapted_eq_process_mean_blocks :
    let store : Store 0 := .initial evenModes
    (store.adapted .stdInit .stdInit meanBlocks).yMode 0 0 = 192 ∧
      store.adapted .stdInit .stdInit meanBlocks =
        adaptationProcess true .stdInit 0 evenModes .zero meanBlocks.symbolCounts :=
  ⟨by decide, adapted_eq_process _ _ _ _ meanBlocks_fit⟩

end Process

end H618Vpu.Vp9
