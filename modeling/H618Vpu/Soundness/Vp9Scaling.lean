import H618Vpu.Bits.Words
import H618Vpu.Model.Vp9Program
import H618Vpu.Spec.Vp9Process

/-! # The scale registers of VP9 references

A reference is at most twice and at least a sixteenth as large as the frame, so its scale has one bit more than
the fraction and its step is at most 32. Both layouts of the registers have room for the two extremes.
-/

namespace H618Vpu.Vp9

open Bits Spec.Vp9

variable {reference current id : ℕ}

/-- The factor and the step fit, 32 bits suffice to compute them, and the registers show them exactly. -/
structure ScaleDecodes (reference current : ℕ) : Prop where
  factor : 2 ^ 10 ≤ scaleFactor reference current ∧ scaleFactor reference current ≤ 2 ^ 15
  step : 1 ≤ scaleStep reference current ∧ scaleStep reference current ≤ 32
  shifted : (UInt32.ofNat reference <<< 14).toNat = reference * 2 ^ 14
  register : ∀ id < 8, (scale (.ofNat reference) (.ofNat current) (.ofNat id)).toNat =
    (scaleStep reference current - 1) + scaleFactor reference current * 2 ^ 5 + id * 2 ^ 28
  registerFields : ∀ id < 8,
    wordField (scale (.ofNat reference) (.ofNat current) (.ofNat id)) 0 5 + 1 = scaleStep reference current ∧
      wordField (scale (.ofNat reference) (.ofNat current) (.ofNat id)) 5 16 = scaleFactor reference current ∧
      wordField (scale (.ofNat reference) (.ofNat current) (.ofNat id)) 28 3 = id
  golden : (goldenScale1 (.ofNat reference) (.ofNat current)).toNat =
    (scaleStep reference current - 1) + scaleFactor reference current * 2 ^ 16
  goldenFields :
    wordField (goldenScale1 (.ofNat reference) (.ofNat current)) 0 5 + 1 = scaleStep reference current ∧
      wordField (goldenScale1 (.ofNat reference) (.ofNat current)) 16 16 = scaleFactor reference current

theorem scaleStep_eq : scaleStep reference current = scaleFactor reference current / 2 ^ 10 := by
  rw [scaleStep]
  omega

/-- The bounds on the sizes are those of the factor. -/
theorem scaleFactor_bounds (positive : 0 < current) (twice : reference ≤ 2 * current)
    (sixteenth : current ≤ 16 * reference) :
    2 ^ 10 ≤ scaleFactor reference current ∧ scaleFactor reference current ≤ 2 ^ 15 := by
  constructor
  · apply (Nat.le_div_iff_mul_le positive).mpr
    omega
  · apply Nat.div_le_of_le_mul
    omega

theorem toNat_factor (small : reference ≤ 2 ^ 16) (bound : current ≤ 2 ^ 16) :
    (UInt32.ofNat reference <<< 14).toNat = reference * 2 ^ 14 ∧
      ((UInt32.ofNat reference <<< 14) / UInt32.ofNat current).toNat = scaleFactor reference current := by
  have ref : (UInt32.ofNat reference).toNat = reference :=
    UInt32.toNat_ofNat_of_lt' (small.trans_lt (by decide))
  have cur : (UInt32.ofNat current).toNat = current := UInt32.toNat_ofNat_of_lt' (bound.trans_lt (by decide))
  have fits : (UInt32.ofNat reference).toNat * 2 ^ 14 < 2 ^ 32 := by
    rw [ref]
    omega
  have shifted : (UInt32.ofNat reference <<< 14).toNat = reference * 2 ^ 14 :=
    (toNat_shiftLeft (by decide) fits).trans (congrArg (· * 2 ^ 14) ref)
  exact ⟨shifted, by rw [UInt32.toNat_div, shifted, cur, scaleFactor]⟩

section Layouts

variable {factor referenceId : UInt32} (low : 2 ^ 10 ≤ factor.toNat) (high : factor.toNat ≤ 2 ^ 15)

include low high

/-- The step is masked to its five bits after one is taken off. -/
theorem toNat_stepField : (((factor >>> 10) - 1) &&& 0x1f).toNat = factor.toNat / 2 ^ 10 - 1 := by
  have step : (factor >>> 10).toNat = factor.toNat / 2 ^ 10 := by
    rw [UInt32.toNat_shiftRight, Nat.shiftRight_eq_div_pow]
    rfl
  have positive : (1 : UInt32) ≤ factor >>> 10 := by
    rw [UInt32.le_iff_toNat_le, step]
    exact (Nat.le_div_iff_mul_le (by decide)).mpr low
  have one : (1 : UInt32).toNat = 1 := rfl
  rw [UInt32.toNat_and, UInt32.toNat_sub_of_le _ _ positive, step, one]
  exact (Nat.and_two_pow_sub_one_eq_mod _ 5).trans (Nat.mod_eq_of_lt (by omega))

theorem toNat_scaleLayout (few : referenceId.toNat < 8) :
    ((referenceId <<< 28) ||| (factor <<< 5) ||| (((factor >>> 10) - 1) &&& 0x1f)).toNat =
      (factor.toNat / 2 ^ 10 - 1) + factor.toNat * 2 ^ 5 + referenceId.toNat * 2 ^ 28 := by
  have field := toNat_stepField low high
  have lower : ((factor <<< 5) ||| (((factor >>> 10) - 1) &&& 0x1f)).toNat =
      (factor.toNat / 2 ^ 10 - 1) + factor.toNat * 2 ^ 5 := by
    have below : (((factor >>> 10) - 1) &&& 0x1f).toNat < 2 ^ 5 := by omega
    have fits : factor.toNat * 2 ^ 5 < 2 ^ 32 := by omega
    rw [← field]
    exact toNat_shiftLeft_or below (by decide) fits
  have below : ((factor <<< 5) ||| (((factor >>> 10) - 1) &&& 0x1f)).toNat < 2 ^ 28 := by omega
  have fits : referenceId.toNat * 2 ^ 28 < 2 ^ 32 := by omega
  rw [UInt32.or_assoc, ← lower]
  exact toNat_shiftLeft_or below (by decide) fits

theorem toNat_goldenLayout : ((factor <<< 16) ||| (((factor >>> 10) - 1) &&& 0x1f)).toNat =
    (factor.toNat / 2 ^ 10 - 1) + factor.toNat * 2 ^ 16 := by
  have field := toNat_stepField low high
  have below : (((factor >>> 10) - 1) &&& 0x1f).toNat < 2 ^ 16 := by omega
  have fits : factor.toNat * 2 ^ 16 < 2 ^ 32 := by omega
  rw [← field]
  exact toNat_shiftLeft_or below (by decide) fits

end Layouts

/-- The registers decode for every pair of sizes within the bounds. -/
theorem scaleDecodes (small : reference ≤ 2 ^ 16) (positive : 0 < current) (bound : current ≤ 2 ^ 16)
    (twice : reference ≤ 2 * current) (sixteenth : current ≤ 16 * reference) : ScaleDecodes reference current := by
  obtain ⟨shifted, factor⟩ := toNat_factor small bound
  obtain ⟨low, high⟩ := scaleFactor_bounds positive twice sixteenth
  have register : ∀ id < 8, (scale (.ofNat reference) (.ofNat current) (.ofNat id)).toNat =
      (scaleStep reference current - 1) + scaleFactor reference current * 2 ^ 5 + id * 2 ^ 28 := by
    intro id few
    have number : (UInt32.ofNat id).toNat = id := UInt32.toNat_ofNat_of_lt' (few.trans (by decide))
    have layout := toNat_scaleLayout (factor ▸ low) (factor ▸ high) (number.symm ▸ few : (UInt32.ofNat id).toNat < 8)
    rw [scale, layout, factor, number, scaleStep_eq]
  have golden : (goldenScale1 (.ofNat reference) (.ofNat current)).toNat =
      (scaleStep reference current - 1) + scaleFactor reference current * 2 ^ 16 := by
    rw [goldenScale1, toNat_goldenLayout (factor ▸ low) (factor ▸ high), factor, scaleStep_eq]
  have steps : 1 ≤ scaleStep reference current ∧ scaleStep reference current ≤ 32 := by
    rw [scaleStep_eq]
    omega
  constructor
  case factor => exact ⟨low, high⟩
  case step => exact steps
  case shifted => exact shifted
  case register => exact register
  case golden => exact golden
  case registerFields =>
    intro id few
    simp only [wordField, register id few]
    omega
  case goldenFields =>
    simp only [wordField, golden]
    omega

theorem scales_decode {refWidth refHeight width height : ℕ}
    (valid : validReferenceSize refWidth refHeight width height = true)
    (sizes : ∀ size ∈ [refWidth, refHeight, width, height], 1 ≤ size ∧ size ≤ 65536) :
    ScaleDecodes refWidth width ∧ ScaleDecodes refHeight height := by
  simp only [List.forall_mem_cons, List.not_mem_nil, false_implies, implies_true, and_true] at sizes
  obtain ⟨refWidths, refHeights, widths, heights⟩ := sizes
  obtain ⟨twiceWidth, twiceHeight, sixteenthWidth, sixteenthHeight⟩ := of_decide_eq_true valid
  exact ⟨scaleDecodes refWidths.2 widths.1 widths.2 twiceWidth sixteenthWidth,
    scaleDecodes refHeights.2 heights.1 heights.2 twiceHeight sixteenthHeight⟩

/-- Both extremes at once: twice as wide and a sixteenth as high. -/
theorem scales_decode_extreme : ScaleDecodes 65536 32768 ∧ ScaleDecodes 4096 65536 :=
  scales_decode (by decide) (by decide)

end H618Vpu.Vp9
