import H618Vpu.Model.Selection
import H618Vpu.Soundness.FormatConstraints
import H618Vpu.Soundness.H264Headers

/-! # The rectangle that `S_SELECTION` stores

The offsets are rounded to even ones, the sizes are only clamped to the rest of the picture. So an odd size stays odd
unless it is clamped, and an offset outside the picture is stored as it is.
-/

namespace H618Vpu.Formats

open Math

/-- An offset and a size along one side of the picture: even, the size at least two, and inside. -/
def Fits (side : ℕ) (offset : Int32) (extent : UInt32) : Prop :=
  (0 ≤ offset.toInt ∧ 2 ∣ offset.toInt) ∧ (2 ≤ extent.toNat ∧ 2 ∣ extent.toNat) ∧
    offset.toInt + extent.toNat ≤ side

/-- A request along one side that ends in a fitting one: it starts inside, and its size is even, or is clamped. -/
def Fitting (side : ℕ) (offset : Int32) (extent : UInt32) : Prop :=
  -1 ≤ offset.toInt ∧ offset.toInt + 2 ≤ side ∧
    (2 ∣ extent.toNat ∨ extent.toNat < 2 ∨ side ≤ offset.toInt + offset.toInt % 2 + extent.toNat)

theorem toInt_cases (x : Int32) :
    x.toUInt32.toNat < 2 ^ 31 ∧ x.toInt = x.toUInt32.toNat ∨
      2 ^ 31 ≤ x.toUInt32.toNat ∧ x.toInt = x.toUInt32.toNat - 2 ^ 32 := by
  have cases := BitVec.toInt_eq_toNat_cond x.toBitVec
  have unsigned : x.toUInt32.toNat = x.toBitVec.toNat := rfl
  rw [unsigned, Int32.toInt, cases]
  split <;> omega

theorem or_one (n : ℕ) : n ||| 1 = n / 2 * 2 + 1 := by
  have half : (n ||| 1) / 2 = n / 2 := Nat.or_div_two.trans (Nat.or_zero _)
  have odd : (n ||| 1) % 2 = 1 := Nat.or_mod_two_eq_one.mpr (Or.inr rfl)
  omega

/-- Rounding wraps at the largest offset only. -/
theorem toNat_roundUp (x : Int32) : (roundUp x 2).toUInt32.toNat = (x.toUInt32.toNat + 1) / 2 * 2 % 2 ^ 32 := by
  have small := x.toUInt32.toNat_lt
  have back : (x.toUInt32 - 1).toNat = (2 ^ 32 - 1 + x.toUInt32.toNat) % 2 ^ 32 := UInt32.toNat_sub _ _
  have words : (roundUp x 2).toUInt32 = ((x.toUInt32 - 1) ||| 1) + 1 := by
    rw [roundUp, Int32.toUInt32_add, Int32.toUInt32_or, Int32.toUInt32_sub]
    rfl
  rw [words, UInt32.toNat_add, UInt32.toNat_or, back, UInt32.toNat_one, or_one]
  omega

theorem toNat_clamp (val lo hi : UInt32) : (clamp val lo hi).toNat = min (max val.toNat lo.toNat) hi.toNat := by
  rw [clamp, UInt32.toNat_min, UInt32.toNat_max]

/-- What is stored along one side fits exactly when the request was fitting. -/
theorem fits_iff {side : ℕ} (even : 2 ∣ side) (positive : 0 < side) (small : side < 2 ^ 31) (offset : Int32)
    (extent : UInt32) :
    Fits side (roundUp offset 2) (clamp extent 2 (UInt32.ofNat side - (roundUp offset 2).toUInt32)) ↔
      Fitting side offset extent := by
  have rounded := toNat_roundUp offset
  have below := offset.toUInt32.toNat_lt
  have rest : (UInt32.ofNat side - (roundUp offset 2).toUInt32).toNat =
      (2 ^ 32 - (roundUp offset 2).toUInt32.toNat + side) % 2 ^ 32 := by
    rw [UInt32.toNat_sub, UInt32.toNat_ofNat_of_lt' (show side < 2 ^ 32 by omega)]
  have signed := toInt_cases offset
  have signed' := toInt_cases (roundUp offset 2)
  simp only [Fits, Fitting, toNat_clamp, rest, UInt32.reduceToNat]
  by_cases inside : -1 ≤ offset.toInt ∧ offset.toInt + 2 ≤ side
  · have start : (roundUp offset 2).toInt = offset.toInt + offset.toInt % 2 := by omega
    have room : (((2 ^ 32 - (roundUp offset 2).toUInt32.toNat + side) % 2 ^ 32 : ℕ) : ℤ) =
        side - (roundUp offset 2).toInt := by
      omega
    clear rounded signed signed' rest
    rw [start] at room ⊢
    constructor
    · rintro ⟨-, ⟨-, evenExtent⟩, -⟩
      exact ⟨inside.1, inside.2, by omega⟩
    · rintro ⟨-, -, shape⟩
      exact ⟨by omega, by omega, by omega⟩
  · -- Outside, the rounded offset leaves no two samples, or it is negative and the difference wraps.
    constructor
    · rintro ⟨⟨nonneg, -⟩, ⟨two, -⟩, ends⟩
      omega
    · rintro ⟨low, high, -⟩
      exact absurd ⟨low, high⟩ inside

/-- A crop that the encoder can use. -/
def V4l2Rect.Usable (rect : V4l2Rect) (pixFormat : PixFormat) : Prop :=
  Fits pixFormat.width rect.left rect.width ∧ Fits pixFormat.height rect.top rect.height

/-- The offsets of the SPS, in pairs of samples, leave the rectangle of the coded size: none wraps and none loses
an odd sample. -/
def V4l2Rect.CropExact (rect : V4l2Rect) (pixFormat : PixFormat) : Prop :=
  let codedWidth := divRoundUp pixFormat.width 16 * 16
  let codedHeight := divRoundUp pixFormat.height 16 * 16
  ∀ left right top bottom : UInt32,
    rect.input.frameCrop (.ofNat codedWidth) (.ofNat codedHeight) = some (left, right, top, bottom) →
    (2 * left.toNat = rect.left.toInt ∧ rect.left.toInt + rect.width.toNat + 2 * right.toNat = codedWidth) ∧
      2 * top.toNat = rect.top.toInt ∧ rect.top.toInt + rect.height.toNat + 2 * bottom.toNat = codedHeight

/-- The two offsets along one side of a fitting rectangle. -/
theorem Fits.offsets {side : ℕ} {offset : Int32} {extent : UInt32} (fits : Fits side offset extent)
    (small : side < 2 ^ 31) :
    2 * (offset.toUInt32 / 2).toNat = offset.toInt ∧
      offset.toInt + extent.toNat +
          2 * ((UInt32.ofNat (divRoundUp side 16 * 16) - extent - offset.toUInt32) / 2).toNat =
        divRoundUp side 16 * 16 := by
  obtain ⟨⟨nonneg, even⟩, ⟨-, evenExtent⟩, inside⟩ := fits
  have bound : divRoundUp side 16 * 16 < 2 ^ 32 := by
    rw [divRoundUp]
    omega
  have coded : (UInt32.ofNat (divRoundUp side 16 * 16)).toNat = divRoundUp side 16 * 16 :=
    UInt32.toNat_ofNat_of_lt' bound
  have below := offset.toUInt32.toNat_lt
  have around : side ≤ divRoundUp side 16 * 16 := le_align side (by decide)
  have signed := toInt_cases offset
  have half : (offset.toUInt32 / 2).toNat = offset.toUInt32.toNat / 2 := UInt32.toNat_div _ _
  rw [half, H264.toNat_cropOffset (by rw [coded]; omega), coded]
  omega

theorem V4l2Rect.Usable.cropExact {rect : V4l2Rect} {pixFormat : PixFormat} (usable : rect.Usable pixFormat)
    (wide : pixFormat.width < 2 ^ 31) (high : pixFormat.height < 2 ^ 31) : rect.CropExact pixFormat := by
  intro left right top bottom cropped
  rw [H264.Input.frameCrop] at cropped
  split at cropped
  · obtain ⟨rfl, rfl, rfl, rfl⟩ : _ ∧ _ ∧ _ ∧ _ := by simpa only [Option.some.injEq, Prod.mk.injEq] using cropped
    exact ⟨usable.1.offsets wide, usable.2.offsets high⟩
  · cases cropped

/-- The sizes an encoder takes for a picture. -/
theorem picture_size {engine : Engine} {request pixFormat : PixFormat} (encoder : engine ∈ encProc.engines)
    (accepted : encPicturePrepare engine request = .ok pixFormat) :
    (2 ∣ pixFormat.width ∧ 0 < pixFormat.width ∧ pixFormat.width < 2 ^ 31) ∧
      2 ∣ pixFormat.height ∧ 0 < pixFormat.height ∧ pixFormat.height < 2 ^ 31 := by
  obtain ⟨⟨low, high, step⟩, low', high', step'⟩ := admits_of_encPicturePrepare accepted
  simp only [encProc, List.mem_cons, List.not_mem_nil, or_false] at encoder
  rcases encoder with rfl | rfl <;> simp only [Engine.frmsize] at low high step low' high' step' <;> omega

theorem selection_usable_iff (proc : Proc) (engine : Engine) (request pixFormat : PixFormat) (selection : Selection)
    (rect : V4l2Rect) (encoder : engine ∈ encProc.engines)
    (accepted : encPicturePrepare engine request = .ok pixFormat)
    (stored : proc.sSelection pixFormat selection = .ok rect) :
    rect.Usable pixFormat ∧ rect.CropExact pixFormat ↔
      Fitting pixFormat.width selection.r.left selection.r.width ∧
        Fitting pixFormat.height selection.r.top selection.r.height := by
  obtain ⟨⟨evenWidth, width, wide⟩, evenHeight, height, high⟩ := picture_size encoder accepted
  obtain ⟨type, target, left, top, reqWidth, reqHeight⟩ := selection
  have same : rect.Usable pixFormat ↔
      Fitting pixFormat.width left reqWidth ∧ Fitting pixFormat.height top reqHeight := by
    unfold Proc.sSelection at stored
    split at stored
    · cases stored
    · cases target with
      | crop =>
        cases stored
        exact and_congr (fits_iff evenWidth width wide left reqWidth) (fits_iff evenHeight height high top reqHeight)
      | cropDefault | cropBounds | other => cases stored
  exact ⟨fun usable => same.mp usable.1, fun fitting =>
    have usable := same.mpr fitting
    ⟨usable, usable.cropExact wide high⟩⟩

/-- The format of a picture in high definition. -/
def fullHd : PixFormat where
  pixelformat := .nv12
  width := 1920
  height := 1080
  bytesperline := 1920
  sizeimage := 3110400
  field := fieldNone

/-- The lower right quarter. -/
theorem selection_usable_quarter :
    (⟨960, 540, 960, 540⟩ : V4l2Rect).Usable fullHd ∧ (⟨960, 540, 960, 540⟩ : V4l2Rect).CropExact fullHd ↔
      Fitting 1920 959 1000 ∧ Fitting 1080 540 540 :=
  selection_usable_iff encProc .encH264 fullHd fullHd ⟨.output, .crop, 959, 540, 1000, 540⟩ _ (by decide) rfl rfl

/-- An odd width is stored as it is. -/
theorem selection_not_usable :
    ¬ ∀ (proc : Proc) (engine : Engine) (request pixFormat : PixFormat) (selection : Selection) (rect : V4l2Rect),
      engine ∈ encProc.engines → encPicturePrepare engine request = .ok pixFormat →
      proc.sSelection pixFormat selection = .ok rect → rect.Usable pixFormat := by
  intro claim
  have usable := claim encProc .encH264 fullHd fullHd ⟨.output, .crop, 0, 0, 641, 480⟩ _ (by decide) rfl rfl
  exact absurd usable.1.2.1.2 (by decide)

end H618Vpu.Formats
