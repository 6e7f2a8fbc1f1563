import H618Vpu.Model.Vp9Program
import H618Vpu.Soundness.FormatConstraints

/-! # VP9 pictures in the buffers of `S_FMT`

The format is sized for the height as it was asked for, and the chroma stands behind as many rows. The decoder
writes rows in multiples of 16, so both planes fit exactly when the height is such a multiple.
-/

namespace H618Vpu.Vp9

open Math Formats

/-- The engine reaches the whole buffer, which starts at a page. -/
structure Config.Reaches (config : Config) (buffer sizeimage : ℕ) : Prop where
  above : config.dmaOffset ≤ config.planeDma buffer
  below : config.planeDma buffer + sizeimage ≤ config.dmaOffset + 2 ^ 32
  page : 4096 ∣ config.planeDma buffer - config.dmaOffset

/-- The bytes of chroma of a frame, of which the register has the half that each component takes. -/
def chromaLength (frame : Frame) : ℕ := align frame.width 16 * align frame.height 16 / 2

theorem outputWrites_chromaLength (frame : Frame) (width : frame.width ≤ 4096) (height : frame.height ≤ 4096) :
    (outputWrites frame).head? = some (.primaryChromaBufLen, UInt32.ofNat (chromaLength frame / 2)) := by
  have wide : align frame.width 16 ≤ 4096 := align_le (by decide) width (by decide)
  have high : align frame.height 16 ≤ 4096 := align_le (by decide) height (by decide)
  have small : align frame.width 16 * align frame.height 16 ≤ 4096 * 4096 := Nat.mul_le_mul wide high
  have quarter : chromaLength frame / 2 = align frame.width 16 * align frame.height 16 / 4 :=
    Nat.div_div_eq_div_mul _ 2 2
  have words : UInt32.ofNat (align frame.width 16) * UInt32.ofNat (align frame.height 16) / 4 =
      UInt32.ofNat (align frame.width 16 * align frame.height 16 / 4) := by
    rw [← UInt32.ofNat_mul, UInt32.ofNat_div (show _ < 2 ^ 32 by omega) (by decide)]
    rfl
  rw [quarter, ← words]
  rfl

/-- The frame lies in its buffer: the chroma passes the check of its address, the luma ends before it, and it
ends before the buffer does. -/
structure LayoutFits (config : Config) (buffer : ℕ) (frame : Frame) (sizeimage : ℕ) : Prop where
  accepted : config.dmaAddr (config.pictureDma buffer).2 ≠ 0 ∧ config.dmaAddr (config.pictureDma buffer).2 % 256 = 0
  luma : (config.pictureDma buffer).1 + align frame.width 16 * align frame.height 16 ≤ (config.pictureDma buffer).2
  chroma : (config.pictureDma buffer).2 + chromaLength frame ≤ (config.pictureDma buffer).1 + sizeimage

theorem align_le_iff (height : ℕ) : align height 16 ≤ height ↔ 16 ∣ height := by
  simp only [align]
  omega

/-- The layout of a VP9 picture. -/
theorem decPicturePrepare_nv12 {coded request picture : PixFormat} (nv12 : request.pixelformat = .nv12)
    (prepared : decPicturePrepare coded request = .ok picture) :
    picture.bytesperline = align coded.width 16 ∧ picture.height = coded.height ∧
      picture.sizeimage = align coded.width 16 * coded.height + align coded.width 16 * coded.height / 2 := by
  simp only [decPicturePrepare, nv12, decPictureLayout] at prepared
  cases prepared
  exact ⟨rfl, rfl, rfl⟩

/-- Rows of so many macroblocks reach as far as the lines do only if there is no line between. -/
theorem layout_iff {width height : ℕ} (positive : 0 < width) :
    (align width 16 * align height 16 ≤ align width 16 * height ↔ 16 ∣ height) ∧
      (align width 16 * height + align width 16 * align height 16 / 2 ≤
          align width 16 * height + align width 16 * height / 2 ↔ 16 ∣ height) := by
  obtain ⟨mbs, same⟩ : ∃ mbs, align width 16 = 2 * mbs := ⟨(width + 16 - 1) / 16 * 8, by rw [align]; omega⟩
  have wide : 0 < mbs := by
    have around := le_align width (show 0 < 16 by decide)
    omega
  have half (lines : ℕ) : 2 * mbs * lines / 2 = mbs * lines := by
    rw [Nat.mul_assoc, Nat.mul_div_cancel_left _ Nat.two_pos]
  rw [same, half, half, Nat.add_le_add_iff_left, Nat.mul_le_mul_left_iff (show 0 < 2 * mbs by omega),
    Nat.mul_le_mul_left_iff wide, and_self]
  exact align_le_iff height

/-- The chroma of whole macroblocks starts where the engine can be given it. -/
theorem dmaAddr_chroma {config : Config} {buffer width height sizeimage : ℕ} (reached : config.Reaches buffer sizeimage)
    (size : sizeimage = align (width + 1) 16 * (height + 1) + align (width + 1) 16 * (height + 1) / 2)
    (whole : 16 ∣ height + 1) :
    config.dmaAddr (config.planeDma buffer + align (width + 1) 16 * (height + 1)) ≠ 0 ∧
      config.dmaAddr (config.planeDma buffer + align (width + 1) 16 * (height + 1)) % 256 = 0 := by
  obtain ⟨above, below, page⟩ := reached
  obtain ⟨mbs, wide⟩ := dvd_align (width + 1) 16
  obtain ⟨rows, high⟩ := whole
  have area : align (width + 1) 16 * (height + 1) = 256 * (mbs * rows) := by
    rw [wide, high]
    ring
  have some : 0 < align (width + 1) 16 * (height + 1) :=
    Nat.mul_pos ((Nat.succ_pos width).trans_le (le_align _ (by decide))) (Nat.succ_pos height)
  have reachable : ¬ (config.planeDma buffer + align (width + 1) 16 * (height + 1) = 0 ∨
      config.planeDma buffer + align (width + 1) 16 * (height + 1) < config.dmaOffset ∨
      2 ^ 32 ≤ config.planeDma buffer + align (width + 1) 16 * (height + 1) - config.dmaOffset) := by
    omega
  rw [Config.dmaAddr, if_neg reachable]
  omega

theorem layout_fits_iff (codedRequest request picture : PixFormat) (config : Config) (buffer : ℕ) (frame : Frame)
    (nv12 : request.pixelformat = .nv12)
    (prepared : decPicturePrepare (decCodedPrepare .decVp9 codedRequest) request = .ok picture)
    (formatted : config.bytesperline = picture.bytesperline ∧ config.pictureHeight = picture.height)
    (sized : frame.width = (decCodedPrepare .decVp9 codedRequest).width ∧
      frame.height = (decCodedPrepare .decVp9 codedRequest).height)
    (reached : config.Reaches buffer picture.sizeimage) :
    (outputWrites frame).head? = some (.primaryChromaBufLen, UInt32.ofNat (chromaLength frame / 2)) ∧
      (LayoutFits config buffer frame picture.sizeimage ↔ 16 ∣ frame.height) := by
  obtain ⟨bytesperline, height, sizeimage⟩ := decPicturePrepare_nv12 nv12 prepared
  rw [← sized.1] at bytesperline sizeimage
  rw [← sized.2] at height sizeimage
  have planes : config.pictureDma buffer =
      (config.planeDma buffer, config.planeDma buffer + align frame.width 16 * frame.height) := by
    rw [Config.pictureDma, formatted.1, formatted.2, bytesperline, height]
  have wideFrame : 0 < frame.width := Nat.succ_pos _
  obtain ⟨luma, chroma⟩ := @layout_iff frame.width frame.height wideFrame
  obtain ⟨⟨-, wide⟩, -, high⟩ :=
    Engine.admitted_bounds (Engine.decVp9.clamped_admitted codedRequest.width codedRequest.height)
  refine ⟨outputWrites_chromaLength frame (sized.1.trans_le wide) (sized.2.trans_le high), ?_, ?_⟩
  · intro fits
    have order := fits.luma
    rw [planes] at order
    exact luma.mp (Nat.le_of_add_le_add_left order)
  · intro whole
    refine ⟨?accepted, ?luma, ?chroma⟩
    case accepted =>
      rw [planes]
      exact dmaAddr_chroma reached sizeimage whole
    case luma =>
      rw [planes]
      exact Nat.add_le_add_left (luma.mpr whole) _
    case chroma =>
      rw [planes, sizeimage, chromaLength, Nat.add_assoc]
      exact Nat.add_le_add_left (chroma.mpr whole) _

/-- A picture buffer at the start of the second megabyte, for 1920 columns. -/
def vp9Config (height : ℕ) : Config where
  defaults := .zero
  dmaOffset := 0
  codedWidth := 1920
  codedHeight := height
  pictureNv12 := true
  bytesperline := 1920
  pictureHeight := height
  pictures := 1
  planeDma _ := 0x100000

def vp9Frame (height : ℕ) : Frame :=
  { Frame.stdInit with frameWidthMinus1 := 1919, frameHeightMinus1 := height - 1 }

theorem layout_fits_whole : LayoutFits (vp9Config 1088) 0 (vp9Frame 1088) 3133440 := by
  have fits := (layout_fits_iff { width := 1920, height := 1088 } { pixelformat := .nv12 } _ (vp9Config 1088) 0
    (vp9Frame 1088) rfl rfl ⟨rfl, rfl⟩ ⟨rfl, rfl⟩ ⟨by decide, by decide, by decide⟩).2
  exact fits.mpr (by decide)

/-- The luma of 1080 lines takes eight more. -/
theorem layout_not_fits :
    ¬ ∀ (codedRequest request picture : PixFormat) (config : Config) (buffer : ℕ) (frame : Frame),
      request.pixelformat = .nv12 → decPicturePrepare (decCodedPrepare .decVp9 codedRequest) request = .ok picture →
      config.bytesperline = picture.bytesperline ∧ config.pictureHeight = picture.height →
      frame.width = (decCodedPrepare .decVp9 codedRequest).width ∧
        frame.height = (decCodedPrepare .decVp9 codedRequest).height →
      config.Reaches buffer picture.sizeimage → LayoutFits config buffer frame picture.sizeimage := by
  intro claim
  have fits := claim { width := 1920, height := 1080 } { pixelformat := .nv12 } _ (vp9Config 1080) 0 (vp9Frame 1080)
    rfl rfl ⟨rfl, rfl⟩ ⟨rfl, rfl⟩ ⟨by decide, by decide, by decide⟩
  exact absurd fits.luma (by decide)

end H618Vpu.Vp9
