import H618Vpu.Model.H264Headers
import H618Vpu.Soundness.H264Order
import H618Vpu.Spec.H264SliceSyntax

/-! # Reading the headers that are written

A decoder reads from the bits of a sequence parameter set, a picture parameter set and a slice header the
elements that the encoder means by them, and reads exactly these bits. What it needs of a context is what
`cedrus_enc_h264_setup` and the jobs before leave in it.
-/

namespace H618Vpu.H264

open Bits (Reads Reader)
open Machine

/-- The bits of the counters, the counters under their limits, and at least one macroblock each way. -/
structure Context.Counted (ctx : Context) : Prop where
  eightBits : ctx.EightBits
  frameNum : ctx.frameNum < 2 ^ 8
  picOrderCntLsb : ctx.picOrderCntLsb < 2 ^ 8
  qpInit : 0 ≤ ctx.qpInit ∧ ctx.qpInit ≤ 51
  widthMbs : 1 ≤ ctx.widthMbs ∧ ctx.widthMbs * 16 < 2 ^ 32
  heightMbs : 1 ≤ ctx.heightMbs ∧ ctx.heightMbs * 16 < 2 ^ 32

/-- The controls are in their ranges too. -/
structure Context.Coherent (ctx : Context) : Prop extends ctx.Counted where
  ranges : ∀ ctrl : Ctrl, ctrl.InRange (ctx.latched ctrl)

/-- The selection lies inside the coded size, and is even. -/
structure Input.Selects (input : Input) (ctx : Context) : Prop where
  left : 2 ∣ input.left.toNat
  top : 2 ∣ input.top.toNat
  width : 2 ∣ input.width.toNat
  height : 2 ∣ input.height.toNat
  right : input.left.toNat + input.width.toNat ≤ ctx.widthMbs * 16
  bottom : input.top.toNat + input.height.toNat ≤ ctx.heightMbs * 16

/-- The selection as a cropping of the coded size, if it is not all of it. -/
def meantFrameCropping (ctx : Context) (input : Input) : Option Spec.H264.FrameCropping :=
  let width := ctx.widthMbs * 16
  let height := ctx.heightMbs * 16
  if input.left.toNat = 0 ∧ input.top.toNat = 0 ∧ input.width.toNat = width ∧ input.height.toNat = height then none
  else
    some
      { frameCropLeftOffset := input.left.toNat / 2
        frameCropRightOffset := (width - input.width.toNat - input.left.toNat) / 2
        frameCropTopOffset := input.top.toNat / 2
        frameCropBottomOffset := (height - input.height.toNat - input.top.toNat) / 2 }

/-- The sample aspect ratio the controls ask for. -/
def meantAspectRatio (ctx : Context) : Option Spec.H264.AspectRatio :=
  if ctx.latched .vuiSarEnable ≠ 0 then
    some
      { aspectRatioIdc := vuiSarIdcElement (ctx.latched .vuiSarIdc)
        sar :=
          if ctx.latched .vuiSarIdc = 17 then
            some ((ctx.latched .vuiExtSarWidth).toNat, (ctx.latched .vuiExtSarHeight).toNat)
          else none }
  else none

/-- 4:2:0 with eight bits. -/
def meantChromaFormat : Spec.H264.ChromaFormat where
  chromaFormatIdc := 1
  separateColourPlaneFlag := none
  bitDepthLumaMinus8 := 0
  bitDepthChromaMinus8 := 0
  qpprimeYZeroTransformBypassFlag := false
  seqScalingMatrix := none

/-- Two ticks a frame, and nothing else but the aspect ratio. -/
def meantVui (ctx : Context) (input : Input) : Spec.H264.VuiParameters where
  aspectRatio := meantAspectRatio ctx
  overscanAppropriateFlag := none
  videoSignalType := none
  chromaSampleLocType := none
  timingInfo :=
    some
      { numUnitsInTick := input.numerator.toNat
        timeScale := 2 * input.denominator.toNat
        fixedFrameRateFlag := true }
  nalHrdParameters := none
  vclHrdParameters := none
  lowDelayHrdFlag := none
  picStructPresentFlag := false
  bitstreamRestriction := none

def meantSps (ctx : Context) (input : Input) (job : Job) : Spec.H264.SeqParameterSet where
  profileIdc := job.profileIdc
  constraintSetFlags := job.constraintSetFlags / 4
  reservedZero2Bits := 0
  levelIdc := job.levelIdc
  seqParameterSetId := job.seqParameterSetId
  chromaFormat := if job.profileIdc ∈ Spec.H264.highProfiles then some meantChromaFormat else none
  log2MaxFrameNumMinus4 := ctx.log2MaxFrameNum - 4
  picOrderCntType := ctx.picOrderCntType
  log2MaxPicOrderCntLsbMinus4 := some (ctx.log2MaxPicOrderCntLsb - 4)
  picOrderCntCycle := none
  maxNumRefFrames := 1
  gapsInFrameNumValueAllowedFlag := false
  picWidthInMbsMinus1 := ctx.widthMbs - 1
  picHeightInMapUnitsMinus1 := ctx.heightMbs - 1
  frameMbsOnlyFlag := true
  mbAdaptiveFrameFieldFlag := none
  direct8x8InferenceFlag := false
  frameCropping := meantFrameCropping ctx input
  vuiParameters := some (meantVui ctx input)

def meantPps (ctx : Context) (job : Job) : Spec.H264.PicParameterSet where
  picParameterSetId := job.picParameterSetId
  seqParameterSetId := job.seqParameterSetId
  entropyCodingModeFlag := job.entropyCodingModeFlag = 1
  bottomFieldPicOrderInFramePresentFlag := false
  numSliceGroupsMinus1 := 0
  sliceGroupMap := none
  numRefIdxL0DefaultActiveMinus1 := 0
  numRefIdxL1DefaultActiveMinus1 := 0
  weightedPredFlag := false
  weightedBipredIdc := 0
  picInitQpMinus26 := ctx.qpInit - 26
  picInitQsMinus26 := ctx.qpInit - 26
  chromaQpIndexOffset := job.chromaQpIndexOffset
  deblockingFilterControlPresentFlag := true
  constrainedIntraPredFlag := false
  redundantPicCntPresentFlag := false
  transform := none

/-- The slices of the frame are I slices. -/
def Job.Intra (job : Job) : Prop := job.frameType = .idr ∨ job.frameType = .i

instance (job : Job) : Decidable job.Intra := inferInstanceAs (Decidable (_ ∨ _))

/-- The slice is an I or P slice, of a frame that is marked by a sliding window unless it is an IDR picture. -/
def meantSlice (ctx : Context) (job : Job) : Spec.H264.SliceHeader where
  firstMbInSlice := 0
  sliceType := if job.Intra then 2 else 0
  picParameterSetId := job.picParameterSetId
  colourPlaneId := none
  frameNum := job.frameNum
  fieldPicFlag := none
  bottomFieldFlag := none
  idrPicId := if job.frameType = .idr then some job.idrPicId else none
  picOrderCntLsb := some job.picOrderCntLsb
  deltaPicOrderCntBottom := none
  deltaPicOrderCnt0 := none
  deltaPicOrderCnt1 := none
  redundantPicCnt := none
  directSpatialMvPredFlag := none
  numRefIdxActiveOverride := if ¬ job.Intra then some none else none
  refPicListModificationL0 := if ¬ job.Intra then some none else none
  refPicListModificationL1 := none
  predWeightTable := none
  decRefPicMarking := some (if job.frameType = .idr then .idr false false else .other none)
  cabacInitIdc := if ¬ job.Intra ∧ job.entropyCodingModeFlag ≠ 0 then some job.cabacInitIdc else none
  sliceQpDelta := job.qp - ctx.qpInit
  spForSwitchFlag := none
  sliceQsDelta := none
  deblocking :=
    some
      { disableDeblockingFilterIdc := job.disableDeblockingFilterIdc
        sliceOffsetsDiv2 :=
          if job.disableDeblockingFilterIdc ≠ 1 then some (job.sliceAlphaC0OffsetDiv2, job.sliceBetaOffsetDiv2)
          else none }
  sliceGroupChangeCycle := none

/-- The NAL unit of the slice. -/
def meantUnit (job : Job) : Spec.H264.NalUnit where
  nalRefIdc := job.nalRefIdc
  nalUnitType := if job.frameType = .idr then 5 else 1

theorem codedUe_eq {value : ℕ} (small : value + 1 < 2 ^ 32) : codedUe value = Bits.expGolomb value := by
  rw [codedUe, Nat.mod_eq_of_lt small]
  rfl

theorem reads_ue {value : ℕ} (small : value + 1 < 2 ^ 32) : Reads Reader.ue (codedUe value) value := by
  rw [codedUe_eq small]
  exact .ue value

theorem reads_se {value : ℤ} (small : -2 ^ 30 ≤ value ∧ value ≤ 2 ^ 30) : Reads Reader.se (codedSe value) value := by
  have index : ((if 0 < value then 2 * value - 1 else -2 * value) % 2 ^ 32).toNat = Bits.signedIndex value := by
    unfold Bits.signedIndex
    split <;> omega
  have bound : Bits.signedIndex value + 1 < 2 ^ 32 := by
    unfold Bits.signedIndex
    split <;> omega
  rw [codedSe, index, codedUe_eq bound]
  exact .se value

theorem codedBytes_eq (value count : ℕ) : codedBytes value count = Bits.field value (8 * count) := by
  induction count with
  | zero => rfl
  | succ count ih =>
    rw [codedBytes, ih, codedAppend, Bits.field_mod _ le_rfl, Bits.field_append, Nat.mul_succ, Nat.add_comm]

theorem codedU32_eq (value : UInt32) : codedU32 value = Bits.field value.toNat 32 := codedBytes_eq _ _

theorem reads_u32 (value : UInt32) : Reads (Reader.bits 32) (codedU32 value) value.toNat := by
  rw [codedU32_eq]
  exact .bits value.toNat_lt

theorem reads_u16 {value : ℤ} (small : 0 ≤ value ∧ value < 2 ^ 16) :
    Reads (Reader.bits 16) (codedU16 value) value.toNat := by
  rw [codedU16, Int.emod_eq_of_lt small.1 small.2]
  exact .bits (by omega)

theorem codedU8_eq (value : ℕ) : codedU8 value = Bits.field value 8 := Bits.field_mod value le_rfl

theorem reads_u8 {value : ℕ} (small : value < 2 ^ 8) : Reads (Reader.bits 8) (codedU8 value) value := by
  rw [codedU8_eq]
  exact .bits small

theorem reads_flag {value : ℕ} (small : value ≤ 1) : Reads Reader.bit (codedBit value) (value = 1 : Bool) := by
  interval_cases value
  · exact .bit false
  · exact .bit true

/-- The start of a NAL unit. -/
theorem reads_nalUnit {type refIdc : ℕ} (smallType : type < 2 ^ 5) (smallRefIdc : refIdc < 2 ^ 2) :
    Reads Spec.H264.nalUnit (codedNaluStart (naluHeader type refIdc)) ⟨refIdc, type⟩ := by
  have header : ∀ type < 2 ^ 5, ∀ refIdc < 2 ^ 2, codedU8 (naluHeader type refIdc) =
      [false] ++ (Bits.field refIdc 2 ++ Bits.field type 5) := by decide
  have start : codedNaluStart (naluHeader type refIdc) =
      Bits.field 1 32 ++ ([false] ++ (Bits.field refIdc 2 ++ Bits.field type 5)) := by
    rw [codedNaluStart, codedU32_eq, header type smallType refIdc smallRefIdc]
    exact congrArg _ (List.append_nil _)
  rw [start]
  refine (Reads.bits (by decide)).bind (.skip (.guarded rfl) ?_)
  refine (Reads.bit false).bind (.skip (.guarded rfl) ?_)
  exact (Reads.bits smallRefIdc).bind ((Reads.bits smallType).last _)

/-- What a job sampled from a coherent context has. -/
structure Job.Coded (job : Job) : Prop extends job.InRange where
  nalRefIdc : job.nalRefIdc = 2
  frameNum : job.frameNum < 2 ^ 8
  picOrderCntLsb : job.picOrderCntLsb < 2 ^ 8
  seqParameterSetId : job.seqParameterSetId = 0
  picParameterSetId : job.picParameterSetId = 0
  idrPicId : job.idrPicId = 0
  profileIdc : job.profileIdc < 2 ^ 8
  levelIdc : job.levelIdc < 2 ^ 8
  constraintSetFlags : job.constraintSetFlags < 2 ^ 8 ∧ 4 ∣ job.constraintSetFlags
  disableDeblockingFilterIdc : job.disableDeblockingFilterIdc ≤ 2
  sliceAlphaC0OffsetDiv2 : -6 ≤ job.sliceAlphaC0OffsetDiv2 ∧ job.sliceAlphaC0OffsetDiv2 ≤ 6
  sliceBetaOffsetDiv2 : -6 ≤ job.sliceBetaOffsetDiv2 ∧ job.sliceBetaOffsetDiv2 ≤ 6
  cabacInitIdc : job.cabacInitIdc ≤ 1

/-- The elements of every profile fit. -/
theorem profile_fits {profile : ℤ} (inRange : Ctrl.profile.InRange profile) :
    profileIdc profile < 2 ^ 8 ∧ constraintSetFlags profile < 2 ^ 8 ∧ 4 ∣ constraintSetFlags profile := by
  obtain ⟨low, high⟩ := inRange
  change 0 ≤ profile at low
  change profile ≤ 4 at high
  interval_cases profile <;> decide

theorem level_fits {level : ℤ} (inRange : Ctrl.level.InRange level) : levelIdc level < 2 ^ 8 := by
  obtain ⟨low, high⟩ := inRange
  change 0 ≤ level at low
  change level ≤ 19 at high
  interval_cases level <;> decide

theorem disableDeblockingFilterIdc_le (value : ℤ) : disableDeblockingFilterIdc value ≤ 2 := by
  unfold disableDeblockingFilterIdc
  split <;> decide

theorem Context.Coherent.job {ctx : Context} (coherent : ctx.Coherent) : ctx.jobPrepare.2.Coded := by
  have offsets (ctrl : Ctrl) (config : ctrl.config.min = -6 ∧ ctrl.config.max = 6) (present : Prop)
      [Decidable present] :
      -6 ≤ (if present then ctx.latched ctrl else 0) ∧ (if present then ctx.latched ctrl else 0) ≤ 6 := by
    have range := coherent.ranges ctrl
    rw [Ctrl.InRange, config.1, config.2] at range
    split <;> omega
  obtain ⟨profileIdc, flags⟩ := profile_fits (coherent.ranges .profile)
  exact {
    toInRange := ctx.jobPrepare_inRange fun ctrl _ => coherent.ranges ctrl
    nalRefIdc := rfl
    frameNum := (ite_le_sup _ _ _).trans_lt (max_lt (by decide) coherent.frameNum)
    picOrderCntLsb := (ite_le_sup _ _ _).trans_lt (max_lt (by decide) coherent.picOrderCntLsb)
    seqParameterSetId := rfl
    picParameterSetId := rfl
    idrPicId := rfl
    profileIdc
    levelIdc := level_fits (coherent.ranges .level)
    constraintSetFlags := flags
    disableDeblockingFilterIdc := disableDeblockingFilterIdc_le _
    sliceAlphaC0OffsetDiv2 := offsets .loopFilterAlpha ⟨rfl, rfl⟩ _
    sliceBetaOffsetDiv2 := offsets .loopFilterBeta ⟨rfl, rfl⟩ _
    cabacInitIdc := (ite_le_sup _ _ _).trans (by decide) }

theorem reads_chromaFormat :
    Reads Spec.H264.chromaFormat [codedUe 1, codedUe 0, codedUe 0, codedBit 0, codedBit 0].flatten
      meantChromaFormat := by
  refine (reads_ue (by decide)).bind (.skip (.missing (by decide) _) ?_)
  refine (reads_ue (by decide)).bind ((reads_ue (by decide)).bind ?_)
  exact (Reads.bit false).bind ((Reads.absent _).last _)

/-- The far offset of a selection inside the coded size does not wrap around. -/
theorem toNat_cropOffset {coded size start : UInt32} (inside : start.toNat + size.toNat ≤ coded.toNat) :
    ((coded - size - start) / 2).toNat = (coded.toNat - size.toNat - start.toNat) / 2 := by
  have first : (coded - size).toNat = coded.toNat - size.toNat :=
    UInt32.toNat_sub_of_le _ _ (UInt32.le_iff_toNat_le.mpr (by omega))
  have second : (coded - size - start).toNat = coded.toNat - size.toNat - start.toNat := by
    rw [UInt32.toNat_sub_of_le _ _ (UInt32.le_iff_toNat_le.mpr (by omega)), first]
  rw [UInt32.toNat_div, second]
  rfl

/-- The offsets of a selection inside the coded size do not wrap around. -/
theorem Input.Selects.frameCrop {ctx : Context} {input : Input} (selects : input.Selects ctx)
    (width : ctx.widthMbs * 16 < 2 ^ 32) (height : ctx.heightMbs * 16 < 2 ^ 32) :
    (input.frameCrop (.ofNat (ctx.widthMbs * 16)) (.ofNat (ctx.heightMbs * 16))).map
        (fun crop => (crop.1.toNat, crop.2.1.toNat, crop.2.2.1.toNat, crop.2.2.2.toNat)) =
      (meantFrameCropping ctx input).map fun crop =>
        (crop.frameCropLeftOffset, crop.frameCropRightOffset, crop.frameCropTopOffset, crop.frameCropBottomOffset) := by
  have widthNat : (UInt32.ofNat (ctx.widthMbs * 16)).toNat = ctx.widthMbs * 16 := UInt32.toNat_ofNat_of_lt' width
  have heightNat : (UInt32.ofNat (ctx.heightMbs * 16)).toNat = ctx.heightMbs * 16 := UInt32.toNat_ofNat_of_lt' height
  generalize UInt32.ofNat (ctx.widthMbs * 16) = codedWidth at widthNat ⊢
  generalize UInt32.ofNat (ctx.heightMbs * 16) = codedHeight at heightNat ⊢
  have whole : (input.left ≠ 0 ∨ input.top ≠ 0 ∨ input.width ≠ codedWidth ∨ input.height ≠ codedHeight) ↔
      ¬ (input.left.toNat = 0 ∧ input.top.toNat = 0 ∧ input.width.toNat = ctx.widthMbs * 16 ∧
        input.height.toNat = ctx.heightMbs * 16) := by
    simp only [ne_eq, not_and_or, ← UInt32.toNat_inj, UInt32.toNat_zero, widthNat, heightNat]
  unfold Input.frameCrop meantFrameCropping
  dsimp only
  by_cases full : input.left.toNat = 0 ∧ input.top.toNat = 0 ∧ input.width.toNat = ctx.widthMbs * 16 ∧
      input.height.toNat = ctx.heightMbs * 16
  · rw [if_neg (fun cropped => whole.mp cropped full), if_pos full]
    rfl
  · rw [if_pos (whole.mpr full), if_neg full]
    simp only [Option.map_some, toNat_cropOffset (selects.right.trans_eq widthNat.symm),
      toNat_cropOffset (selects.bottom.trans_eq heightNat.symm), widthNat, heightNat, UInt32.toNat_div]
    rfl

/-- The cropping, or the flag that there is none. -/
theorem reads_frameCrop {ctx : Context} {input : Input} (coherent : ctx.Coherent) (selects : input.Selects ctx) :
    Reads (Reader.optionally Spec.H264.frameCropping)
      (codedFrameCrop (input.frameCrop (.ofNat (ctx.widthMbs * 16)) (.ofNat (ctx.heightMbs * 16))))
      (meantFrameCropping ctx input) := by
  have same := selects.frameCrop coherent.widthMbs.2 coherent.heightMbs.2
  have small : ∀ crop, meantFrameCropping ctx input = some crop →
      (crop.frameCropLeftOffset + 1 < 2 ^ 32 ∧ crop.frameCropRightOffset + 1 < 2 ^ 32) ∧
        crop.frameCropTopOffset + 1 < 2 ^ 32 ∧ crop.frameCropBottomOffset + 1 < 2 ^ 32 := by
    have width := coherent.widthMbs.2
    have height := coherent.heightMbs.2
    have left := input.left.toNat_lt
    have top := input.top.toNat_lt
    intro crop meant
    rw [meantFrameCropping] at meant
    split at meant
    · cases meant
    · obtain rfl := Option.some.inj meant
      dsimp only
      omega
  cases written : input.frameCrop (.ofNat (ctx.widthMbs * 16)) (.ofNat (ctx.heightMbs * 16)) with
  | none =>
    rw [written, Option.map_none, eq_comm, Option.map_eq_none_iff] at same
    rw [same]
    exact .absent _
  | some offsets =>
    rw [written, Option.map_some, eq_comm, Option.map_eq_some_iff] at same
    obtain ⟨⟨cropLeft, cropRight, cropTop, cropBottom⟩, meant, same⟩ := same
    obtain ⟨left, right, top, bottom⟩ := offsets
    obtain ⟨⟨smallLeft, smallRight⟩, smallTop, smallBottom⟩ := small _ meant
    obtain ⟨rfl, rfl, rfl, rfl⟩ : cropLeft = left.toNat ∧ cropRight = right.toNat ∧ cropTop = top.toNat ∧
        cropBottom = bottom.toNat := by
      simpa only [Prod.mk.injEq] using same
    rw [meant]
    refine .shown ((reads_ue smallLeft).bind ?_)
    exact (reads_ue smallRight).bind ((reads_ue smallTop).bind ((reads_ue smallBottom).bind (.pure _)))

theorem vuiSarIdc_fits {value : ℤ} (inRange : Ctrl.vuiSarIdc.InRange value) :
    vuiSarIdcElement value < 2 ^ 8 ∧ (vuiSarIdcElement value = 255 ↔ value = 17) := by
  obtain ⟨low, high⟩ := inRange
  change 0 ≤ value at low
  change value ≤ 17 at high
  interval_cases value <;> decide

/-- The aspect ratio, or the flag that there is none. -/
theorem reads_aspectRatio {ctx : Context} (coherent : ctx.Coherent) :
    Reads (Reader.optionally Spec.H264.aspectRatio) (codedAspectRatio ctx) (meantAspectRatio ctx) := by
  obtain ⟨small, extended⟩ := vuiSarIdc_fits (coherent.ranges .vuiSarIdc)
  have width : 1 ≤ ctx.latched .vuiExtSarWidth ∧ ctx.latched .vuiExtSarWidth ≤ 65535 := coherent.ranges .vuiExtSarWidth
  have height : 1 ≤ ctx.latched .vuiExtSarHeight ∧ ctx.latched .vuiExtSarHeight ≤ 65535 :=
    coherent.ranges .vuiExtSarHeight
  unfold codedAspectRatio meantAspectRatio
  split
  case isFalse => exact .absent _
  case isTrue =>
    refine .shown ((reads_u8 small).bind ?_)
    refine Reads.bind ?_ (.pure _)
    split
    case isTrue sar =>
      refine .present (extended.mpr sar) ?_
      exact (reads_u16 (by omega)).bind ((reads_u16 (by omega)).bind (.pure _))
    case isFalse sar => exact .missing (fun other => sar (extended.mp other)) _

theorem reads_timing {input : Input} (rate : input.denominator.toNat < 2 ^ 31) :
    Reads (Reader.optionally Spec.H264.timingInfo) (codedTiming input)
      (some
        { numUnitsInTick := input.numerator.toNat
          timeScale := 2 * input.denominator.toNat
          fixedFrameRateFlag := true }) := by
  have timeScale : (input.denominator * 2).toNat = 2 * input.denominator.toNat := by
    rw [UInt32.toNat_mul, Nat.mul_comm]
    exact Nat.mod_eq_of_lt (by change 2 * input.denominator.toNat < 2 ^ 32; omega)
  have ticks := reads_u32 (input.denominator * 2)
  rw [timeScale] at ticks
  exact .shown ((reads_u32 _).bind (ticks.bind ((Reads.bit true).bind (.pure _))))

/-- Of the VUI parameters, the aspect ratio and the timing are there. -/
theorem reads_vui {ctx : Context} {input : Input} (coherent : ctx.Coherent) (rate : input.denominator.toNat < 2 ^ 31) :
    Reads (Reader.optionally Spec.H264.vuiParameters) (codedVui ctx input) (some (meantVui ctx input)) := by
  simp only [codedVui, List.flatten_cons, List.flatten_nil]
  refine .shown ?_
  refine (reads_aspectRatio coherent).bind ?_
  refine (Reads.absent _).bind ?_
  refine (Reads.absent _).bind ?_
  refine (Reads.absent _).bind ?_
  refine (reads_timing rate).bind ?_
  refine (Reads.absent _).bind ?_
  refine (Reads.absent _).bind ?_
  refine .skip (.missing (by decide) _) ?_
  refine (Reads.bit false).bind ?_
  exact (Reads.absent _).bind (.pure _)

/-- The constraint flags, and the two bits after them. -/
theorem codedU8_flags {flags : ℕ} (whole : 4 ∣ flags) :
    codedU8 flags = Bits.field (flags / 4) 6 ++ Bits.field 0 2 := by
  have low : Bits.field flags 2 = Bits.field 0 2 := by
    rw [← Bits.field_mod flags (le_refl 2)]
    exact congrArg (Bits.field · 2) (Nat.mod_eq_zero_of_dvd whole)
  rw [codedU8_eq, ← low, ← Nat.shiftRight_eq_div_pow flags 2, Bits.field_append]

theorem reads_spsData {ctx : Context} {input : Input} {job : Job} (coherent : ctx.Coherent) (coded : job.Coded)
    (selects : input.Selects ctx) (rate : input.denominator.toNat < 2 ^ 31) :
    Reads Spec.H264.seqParameterSetData (codedSpsData ctx input job) (meantSps ctx input job) := by
  obtain ⟨small, whole⟩ := coded.constraintSetFlags
  have width := coherent.widthMbs.2
  have height := coherent.heightMbs.2
  simp only [codedSpsData, List.flatten_cons, List.flatten_nil, codedU8_flags whole, List.append_assoc, meantSps,
    coherent.eightBits.1, coherent.eightBits.2.1, coherent.eightBits.2.2, coded.seqParameterSetId]
  refine (reads_u8 coded.profileIdc).bind ?_
  refine (Reads.bits (by omega)).bind ?_
  refine (Reads.bits (by decide)).bind ?_
  refine (reads_u8 coded.levelIdc).bind ?_
  refine (reads_ue (by decide)).bind ?_
  refine (Reads.given Iff.rfl fun _ => reads_chromaFormat).bind ?_
  refine (reads_ue (by decide)).bind ?_
  -- the picture order count has type 0
  refine (reads_ue (by decide)).bind ?_
  refine (Reads.present rfl (reads_ue (by decide))).bind ?_
  refine .skip (.missing (by decide) _) ?_
  refine (reads_ue (by decide)).bind ?_
  refine (Reads.bit false).bind ?_
  refine (reads_ue (by omega)).bind ?_
  refine (reads_ue (by omega)).bind ?_
  -- frames only
  refine (Reads.bit true).bind ?_
  refine .skip (.missing (by decide) _) ?_
  refine (Reads.bit false).bind ?_
  refine (reads_frameCrop coherent selects).bind ?_
  exact (reads_vui coherent rate).bind (.pure _)

theorem codedAlign_eq (length : ℕ) : codedAlign length = List.replicate ((8 - length % 8) % 8) false := by
  unfold codedAlign
  split
  case isTrue whole => rw [whole]; rfl
  case isFalse part => rw [codedAppend, Bits.field_zero, Nat.mod_eq_of_lt (by omega : 8 - length % 8 < 8)]

/-- The stop bit and the zeros after it are the trailing bits. -/
theorem rbspTrailingBits_eq (position : ℕ) :
    Spec.H264.rbspTrailingBits ⟨position, codedBit 1 ++ codedAlign (position + 1)⟩ =
      some ((), ⟨position + 1 + (codedAlign (position + 1)).length, []⟩) := by
  rw [codedAlign_eq, List.length_replicate]
  refine ((Reads.bit true).then_eq _ position _).trans (((Reads.guarded rfl).skip_eq _ _).trans ?_)
  have zeros := Reads.alignZeros_eq 8 (position + 1) []
  rw [List.append_nil] at zeros
  exact zeros

/-- Before the stop bit there is no more data. -/
theorem moreRbspData_eq (position length : ℕ) :
    Spec.H264.moreRbspData ⟨position, codedBit 1 ++ codedAlign length⟩ =
      some (false, ⟨position, codedBit 1 ++ codedAlign length⟩) := by
  have none : (codedBit 1 ++ codedAlign length).tail.contains true = false := by
    rw [codedAlign_eq]
    rw [Bool.eq_false_iff, ne_eq, List.contains_iff_mem]
    exact fun member => nomatch List.eq_of_mem_replicate member
  rw [Spec.H264.moreRbspData, none]

/-- The bits end with a stop bit, and zeros up to the next byte. -/
def StopsAligned (stream unit : List Bool) : Prop :=
  (∃ data zeros, unit = data ++ true :: List.replicate zeros false ∧ zeros < 8) ∧ 8 ∣ (stream ++ unit).length

theorem codedParameterSet_eq (stream : List Bool) (header : ℕ) (data : List Bool) :
    codedParameterSet stream header data = codedNaluStart header ++ (data ++ (codedBit 1 ++
      codedAlign (stream.length + (codedNaluStart header).length + data.length + 1))) := by
  simp only [codedParameterSet, List.flatten_cons, List.flatten_nil, List.append_nil, List.append_assoc,
    List.length_append, Nat.add_assoc]
  rfl

theorem codedParameterSet_length (stream : List Bool) (header : ℕ) (data : List Bool) :
    (stream ++ codedParameterSet stream header data).length =
      stream.length + (codedNaluStart header).length + data.length + 1 +
        (codedAlign (stream.length + (codedNaluStart header).length + data.length + 1)).length := by
  have stop : (codedBit 1).length = 1 := rfl
  rw [codedParameterSet_eq]
  simp only [List.length_append, stop, Nat.add_assoc]

theorem codedParameterSet_stops (stream : List Bool) (header : ℕ) (data : List Bool) :
    StopsAligned stream (codedParameterSet stream header data) := by
  rw [codedParameterSet_eq, codedAlign_eq]
  refine ⟨⟨codedNaluStart header ++ data, _, List.append_assoc .. |>.symm, Nat.mod_lt _ (by decide)⟩, ?_⟩
  simp only [List.length_append, List.length_replicate]
  have bit : (codedBit 1).length = 1 := rfl
  omega

theorem seqParameterSet_eq {ctx : Context} {input : Input} {job : Job} (coherent : ctx.Coherent) (coded : job.Coded)
    (selects : input.Selects ctx) (rate : input.denominator.toNat < 2 ^ 31) (stream : List Bool) :
    Spec.H264.seqParameterSet ⟨stream.length, codedSps ctx input job stream⟩ =
      some ((⟨3, 7⟩, meantSps ctx input job), ⟨(stream ++ codedSps ctx input job stream).length, []⟩) := by
  rw [codedSps, codedParameterSet_length, codedParameterSet_eq]
  refine ((reads_nalUnit (by decide) (by decide)).then_eq ..).trans (((Reads.guarded rfl).skip_eq ..).trans ?_)
  refine ((reads_spsData coherent coded selects rate).then_eq ..).trans ?_
  exact (Reader.bind_eq (rbspTrailingBits_eq _) _)

theorem reads_ppsData {ctx : Context} {job : Job} (coherent : ctx.Coherent) (coded : job.Coded) :
    Reads Spec.H264.picParameterSetData (codedPpsData ctx job) (meantPps ctx job) := by
  have qp := coherent.qpInit
  have chroma := coded.chroma
  simp only [codedPpsData, List.flatten_cons, List.flatten_nil, meantPps, coded.seqParameterSetId,
    coded.picParameterSetId]
  refine (reads_ue (by decide)).bind ?_
  refine (reads_ue (by decide)).bind ?_
  refine (reads_flag (by have := coded.entropyMode; omega)).bind ?_
  refine (Reads.bit false).bind ?_
  -- one slice group
  refine (reads_ue (by decide)).bind ?_
  refine .skip (.missing (by decide) _) ?_
  refine (reads_ue (by decide)).bind ?_
  refine (reads_ue (by decide)).bind ?_
  refine (Reads.bit false).bind ?_
  refine (Reads.bits (by decide)).bind ?_
  refine (reads_se (by omega)).bind ?_
  refine (reads_se (by omega)).bind ?_
  refine (reads_se (by omega)).bind ?_
  refine (Reads.bit true).bind ?_
  refine (Reads.bit false).bind ?_
  exact (Reads.bit false).bind (.pure _)

theorem picParameterSet_eq {ctx : Context} (input : Input) {job : Job} (coherent : ctx.Coherent) (coded : job.Coded)
    (stream : List Bool) :
    Spec.H264.picParameterSet (meantSps ctx input job) ⟨stream.length, codedPps ctx job stream⟩ =
      some ((⟨3, 8⟩, meantPps ctx job), ⟨(stream ++ codedPps ctx job stream).length, []⟩) := by
  rw [codedPps, codedParameterSet_length, codedParameterSet_eq]
  refine ((reads_nalUnit (by decide) (by decide)).then_eq ..).trans (((Reads.guarded rfl).skip_eq ..).trans ?_)
  refine ((reads_ppsData coherent coded).then_eq ..).trans (((Reads.guarded rfl).skip_eq ..).trans ?_)
  refine (Reader.bind_eq (moreRbspData_eq _ _) _).trans (((Reads.missing (by decide) _).skip_eq ..).trans ?_)
  exact Reader.bind_eq (rbspTrailingBits_eq _) _

/-- The type of the slice is I or P. -/
theorem sliceTypeOf_job (job : Job) :
    Spec.H264.sliceTypeOf (if job.Intra then 2 else 0) = if job.Intra then .i else .p := by
  split <;> rfl

theorem meantSps_chroma (ctx : Context) (input : Input) (job : Job) :
    (meantSps ctx input job).separateColourPlane = false ∧ (meantSps ctx input job).chromaFormatIdc = 1 := by
  unfold Spec.H264.SeqParameterSet.separateColourPlane Spec.H264.SeqParameterSet.chromaFormatIdc meantSps
  dsimp only
  split <;> exact ⟨rfl, rfl⟩

theorem reads_marking (idr : Prop) [Decidable idr] :
    Reads (Spec.H264.decRefPicMarking (decide idr)) (if idr then [codedBit 0, codedBit 0].flatten else codedBit 0)
      (if idr then .idr false false else .other none) := by
  by_cases marked : idr
  · rw [if_pos marked, if_pos marked, decide_eq_true marked]
    exact (Reads.bit false).bind ((Reads.bit false).bind (.pure _))
  · rw [if_neg marked, if_neg marked, decide_eq_false marked]
    exact (Reads.absent _).map _

theorem reads_deblocking {job : Job} (coded : job.Coded) :
    Reads Spec.H264.deblocking (codedUe job.disableDeblockingFilterIdc ++
        if job.disableDeblockingFilterIdc ≠ 1 then
          [codedSe job.sliceAlphaC0OffsetDiv2, codedSe job.sliceBetaOffsetDiv2].flatten
        else [])
      { disableDeblockingFilterIdc := job.disableDeblockingFilterIdc
        sliceOffsetsDiv2 :=
          if job.disableDeblockingFilterIdc ≠ 1 then some (job.sliceAlphaC0OffsetDiv2, job.sliceBetaOffsetDiv2)
          else none } := by
  have idc := coded.disableDeblockingFilterIdc
  have alpha := coded.sliceAlphaC0OffsetDiv2
  have beta := coded.sliceBetaOffsetDiv2
  refine (reads_ue (by omega)).bind (Reads.last ?_ _)
  exact .given Iff.rfl fun _ => (reads_se (by omega)).bind ((reads_se (by omega)).bind (.pure _))

/-- The elements of a slice header after the start of its NAL unit. -/
theorem codedSliceHeader_eq {ctx : Context} {job : Job} (coherent : ctx.Coherent) :
    codedSliceHeader ctx job =
      codedNaluStart (naluHeader (if job.frameType = .idr then 5 else 1) job.nalRefIdc) ++
        (codedUe 0 ++ (codedUe (if job.Intra then 2 else 0) ++ (codedUe job.picParameterSetId ++
          (codedAppend job.frameNum 8 ++ ((if job.frameType = .idr then codedUe job.idrPicId else []) ++
            (codedAppend job.picOrderCntLsb 8 ++ ((if ¬ job.Intra then codedBit 0 else []) ++
              ((if ¬ job.Intra then codedBit 0 else []) ++
                ((if job.frameType = .idr then [codedBit 0, codedBit 0].flatten else codedBit 0) ++
                  ((if ¬ job.Intra ∧ job.entropyCodingModeFlag ≠ 0 then codedUe job.cabacInitIdc else []) ++
                    (codedSe (job.qp - ctx.qpInit) ++ (codedUe job.disableDeblockingFilterIdc ++
                      if job.disableDeblockingFilterIdc ≠ 1 then
                        [codedSe job.sliceAlphaC0OffsetDiv2, codedSe job.sliceBetaOffsetDiv2].flatten
                      else [])))))))))))) := by
  cases type : job.frameType <;>
    simp [codedSliceHeader, Job.Intra, type, coherent.eightBits.1, coherent.eightBits.2.2,
      coherent.eightBits.2.1]

theorem reads_sliceHeader {ctx : Context} (input : Input) {job : Job} (coherent : ctx.Coherent) (coded : job.Coded) :
    Reads (Spec.H264.slice (meantSps ctx input job) (meantPps ctx job)) (codedSliceHeader ctx job)
      (meantUnit job, meantSlice ctx job) := by
  have qp := coherent.qpInit
  have jobQp := coded.qp
  have cabac := coded.cabacInitIdc
  have flag := coded.entropyMode
  obtain ⟨plane, -⟩ := meantSps_chroma ctx input job
  have unit : (if job.frameType = .idr then 5 else 1) < 2 ^ 5 := (ite_le_sup _ _ _).trans_lt (by decide)
  have frameNumBits : (meantSps ctx input job).log2MaxFrameNumMinus4 + 4 = 8 := by
    rw [meantSps, coherent.eightBits.1]
  have lsbBits : (meantSps ctx input job).log2MaxPicOrderCntLsbMinus4.getD 0 + 4 = 8 := by
    rw [meantSps, coherent.eightBits.2.1, Option.getD_some]
  have idrPic : decide ((meantUnit job).nalUnitType = 5) = decide (job.frameType = .idr) := by
    unfold meantUnit
    dsimp only
    split <;> simp [*]
  have idrPicId : Reads Reader.ue (codedUe job.idrPicId) job.idrPicId := reads_ue (by rw [coded.idrPicId]; decide)
  have marked : (meantUnit job).nalRefIdc ≠ 0 := by rw [meantUnit, coded.nalRefIdc]; exact two_ne_zero
  have sliceType : (if job.Intra then 2 else 0) + 1 < 2 ^ 32 := by split <;> decide
  -- the slice is I or P, so the other types drop out of the conditions
  let type : Spec.H264.SliceType := if job.Intra then .i else .p
  have isP : type = .p ↔ ¬ job.Intra := by
    dsimp only [type]
    split <;> simp [*]
  have isI : type = .i ↔ job.Intra := by
    dsimp only [type]
    split <;> simp [*]
  have others : type ≠ .b ∧ type ≠ .sp ∧ type ≠ .si := by
    dsimp only [type]
    split <;> exact ⟨nofun, nofun, nofun⟩
  obtain ⟨notB, notSp, notSi⟩ := others
  have idr : decide ((meantUnit job).nalUnitType = 5) = true ↔ job.frameType = .idr := idrPic ▸ decide_eq_true_iff
  have predicted : (type = .p ∨ type = .sp ∨ type = .b) ↔ ¬ job.Intra := by simp only [isP, notSp, notB, or_false]
  have listed : (type ≠ .i ∧ type ≠ .si) ↔ ¬ job.Intra := by simp only [ne_eq, isI, notSi, not_false_iff, and_true]
  have initialised : ((meantPps ctx job).entropyCodingModeFlag = true ∧ type ≠ .i ∧ type ≠ .si) ↔
      ¬ job.Intra ∧ job.entropyCodingModeFlag ≠ 0 := by
    have mode : (meantPps ctx job).entropyCodingModeFlag = true ↔ job.entropyCodingModeFlag ≠ 0 := by
      rw [meantPps, decide_eq_true_iff]
      omega
    rw [mode, listed, and_comm]
  rw [codedSliceHeader_eq coherent]
  refine (reads_nalUnit unit (by rw [coded.nalRefIdc]; decide)).bind ?_
  refine .skip (.guarded (by dsimp only; split <;> decide)) ?_
  refine Reads.last ?_ _
  change Reads (Spec.H264.sliceHeader (meantUnit job) (meantSps ctx input job) (meantPps ctx job)) _ _
  unfold Spec.H264.sliceHeader
  simp only [frameNumBits, lsbBits, idrPic]
  refine (reads_ue (by decide)).bind ?_
  refine (reads_ue sliceType).bind ?_
  rw [sliceTypeOf_job]
  refine (reads_ue (by rw [coded.picParameterSetId]; decide)).bind ?_
  refine .skip (.guarded rfl) ?_
  refine .skip (.missing (by rw [plane]; decide) _) ?_
  refine (Reads.bits coded.frameNum).bind ?_
  -- frames only
  refine .skip (.missing nofun _) ?_
  refine .skip (.missing nofun _) ?_
  refine (Reads.given idr fun _ => idrPicId).bind ?_
  refine (Reads.present coherent.eightBits.2.2 (.bits coded.picOrderCntLsb)).bind ?_
  refine .skip (.missing (fun both => nomatch both.2) _) ?_
  refine .skip (.missing nofun _) ?_
  refine .skip (.missing (fun both => nomatch both.1) _) ?_
  refine .skip (.missing nofun _) ?_
  -- a P slice has one list, as long as the parameter set says
  refine .skip (.missing notB _) ?_
  refine (Reads.given predicted fun _ => Reads.absent _).bind ?_
  refine (Reads.given listed fun _ => Reads.absent _).bind ?_
  refine .skip (.missing notB _) ?_
  refine .skip (.missing (by rintro (⟨weighted, -⟩ | ⟨weighted, -⟩) <;> nomatch weighted) _) ?_
  refine (Reads.present marked (reads_marking _)).bind ?_
  refine (Reads.given initialised fun _ => reads_ue (by omega)).bind ?_
  refine (reads_se (by omega)).bind ?_
  refine .skip (.missing notSp _) ?_
  refine .skip (.missing (not_or_intro notSp notSi) _) ?_
  -- without slice groups nothing comes after the deblocking
  exact (Reads.present rfl (reads_deblocking coded)).last _

/-- What is shown of the frames is the selection. -/
theorem croppingRectangle_eq {ctx : Context} {input : Input} (coherent : ctx.Coherent) (selects : input.Selects ctx)
    (job : Job) : (meantSps ctx input job).croppingRectangle =
      (input.left.toNat, input.top.toNat, input.width.toNat, input.height.toNat) := by
  obtain ⟨plane, chroma⟩ := meantSps_chroma ctx input job
  have units : (meantSps ctx input job).cropUnit = (2, 2) := by
    have array : (meantSps ctx input job).chromaArrayType = 1 := by
      rw [Spec.H264.SeqParameterSet.chromaArrayType, plane, chroma]
      rfl
    rw [Spec.H264.SeqParameterSet.cropUnit, array]
    rfl
  have width : 16 * (meantSps ctx input job).picWidthInMbs = ctx.widthMbs * 16 := by
    have positive := coherent.widthMbs.1
    change 16 * (ctx.widthMbs - 1 + 1) = _
    omega
  have height : 16 * (1 * ((meantSps ctx input job).picHeightInMapUnitsMinus1 + 1)) = ctx.heightMbs * 16 := by
    have positive := coherent.heightMbs.1
    change 16 * (1 * (ctx.heightMbs - 1 + 1)) = _
    omega
  have frames : (meantSps ctx input job).frameMbsOnlyFlag = true := rfl
  have cropped : (meantSps ctx input job).frameCropping = meantFrameCropping ctx input := rfl
  obtain ⟨left, top, evenWidth, evenHeight, right, bottom⟩ := selects
  simp only [Spec.H264.SeqParameterSet.croppingRectangle, units, frames, if_true, width, height, cropped,
    meantFrameCropping]
  by_cases full : input.left.toNat = 0 ∧ input.top.toNat = 0 ∧ input.width.toNat = ctx.widthMbs * 16 ∧
      input.height.toNat = ctx.heightMbs * 16
  · rw [if_pos full]
    simp only [full]
  · rw [if_neg full]
    simp only [Prod.mk.injEq]
    omega

/-- From the bits of the three headers of a job a decoder reads what they mean, and exactly these bits; both
parameter sets end with the stop bit and the byte, and the decoder shows the selection. `stream` is what the
coded buffer has before a header, and `data` what the hardware puts after the slice header. -/
structure HeadersReadBack (ctx : Context) (input : Input) (job : Job) (stream data : List Bool) : Prop where
  sps : Spec.H264.seqParameterSet ⟨stream.length, codedSps ctx input job stream⟩ =
    some ((⟨3, 7⟩, meantSps ctx input job), ⟨(stream ++ codedSps ctx input job stream).length, []⟩)
  pps : Spec.H264.picParameterSet (meantSps ctx input job) ⟨stream.length, codedPps ctx job stream⟩ =
    some ((⟨3, 8⟩, meantPps ctx job), ⟨(stream ++ codedPps ctx job stream).length, []⟩)
  slice : Spec.H264.slice (meantSps ctx input job) (meantPps ctx job)
      ⟨stream.length, codedSliceHeader ctx job ++ data⟩ =
    some ((meantUnit job, meantSlice ctx job), ⟨(stream ++ codedSliceHeader ctx job).length, data⟩)
  stops : StopsAligned stream (codedSps ctx input job stream) ∧ StopsAligned stream (codedPps ctx job stream)
  selection : (meantSps ctx input job).croppingRectangle =
    (input.left.toNat, input.top.toNat, input.width.toNat, input.height.toNat)

theorem HeadersReadBack.of_coded {ctx : Context} {input : Input} {job : Job} (coherent : ctx.Coherent)
    (coded : job.Coded) (selects : input.Selects ctx) (rate : input.denominator.toNat < 2 ^ 31)
    (stream data : List Bool) : HeadersReadBack ctx input job stream data where
  sps := seqParameterSet_eq coherent coded selects rate stream
  pps := picParameterSet_eq input coherent coded stream
  slice := by
    rw [List.length_append]
    exact reads_sliceHeader input coherent coded stream.length data
  stops := ⟨codedParameterSet_stops .., codedParameterSet_stops ..⟩
  selection := croppingRectangle_eq coherent selects job

/-- The headers of a job that was sampled from the controls of its time are read back. -/
theorem headers_read_back (ctx sampled : Context) (input : Input) (stream data : List Bool) (coherent : ctx.Coherent)
    (earlier : sampled.Coherent) (selects : input.Selects ctx) (rate : input.denominator.toNat < 2 ^ 31) :
    HeadersReadBack ctx input sampled.jobPrepare.2 stream data :=
  .of_coded coherent earlier.job selects rate stream data

/-- The macroblocks of 1920×1080 with the default controls. -/
def fullHd : Context where
  widthMbs := 120
  heightMbs := 68
  latched ctrl := ctrl.config.default

theorem fullHd_coherent : fullHd.Coherent where
  eightBits := ⟨rfl, rfl, rfl⟩
  frameNum := by decide
  picOrderCntLsb := by decide
  qpInit := by decide
  widthMbs := by decide
  heightMbs := by decide
  ranges := Ctrl.default_inRange

theorem fullHd_selects : Input.Selects { width := 1920, height := 1080 } fullHd where
  left := by decide
  top := by decide
  width := by decide
  height := by decide
  right := by decide
  bottom := by decide

/-- The first frame of a stream, cropped from 1088 lines to 1080. -/
theorem headers_read_back_fullHd :
    HeadersReadBack fullHd { width := 1920, height := 1080 } fullHd.jobPrepare.2 [] [] :=
  headers_read_back fullHd fullHd { width := 1920, height := 1080 } [] [] fullHd_coherent fullHd_coherent
    fullHd_selects (by decide)

end H618Vpu.H264
