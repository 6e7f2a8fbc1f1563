import H618Vpu.Bits.Reader
import H618Vpu.Model.H264Enc

/-! # The bits of H.264 headers

What the header writers put into the coded buffer, in the order of their calls. The hardware appends the
lowest bits of a value, the highest first, and inserts the emulation prevention bytes by itself; they are bytes,
so they do not change the alignment.
-/

namespace H618Vpu.H264

/-- `cedrus_enc_h264_coded_append` -/
def codedAppend (value count : ℕ) : List Bool := Bits.field value count

/-- `cedrus_enc_h264_coded_ue` -/
def codedUe (value : ℕ) : List Bool :=
  let next := (value + 1) % 2 ^ 32
  codedAppend next (2 * next.log2 + 1)

/-- `cedrus_enc_h264_coded_se` -/
def codedSe (value : ℤ) : List Bool :=
  codedUe ((if 0 < value then 2 * value - 1 else -2 * value) % 2 ^ 32).toNat

/-- `cedrus_enc_h264_coded_bytes` -/
def codedBytes (value : ℕ) : ℕ → List Bool
  | 0 => []
  | count + 1 => codedAppend ((value >>> (8 * count)) % 2 ^ 8) 8 ++ codedBytes value count

/-- `cedrus_enc_h264_coded_u32` -/
def codedU32 (value : UInt32) : List Bool := codedBytes value.toNat 4

/-- `cedrus_enc_h264_coded_u16` -/
def codedU16 (value : ℤ) : List Bool := codedAppend (value % 2 ^ 16).toNat 16

/-- `cedrus_enc_h264_coded_u8` -/
def codedU8 (value : ℕ) : List Bool := codedAppend (value % 2 ^ 8) 8

/-- `cedrus_enc_h264_coded_bit` -/
def codedBit (value : ℕ) : List Bool := codedAppend value 1

/-- `cedrus_enc_h264_coded_align`, after so many bits. -/
def codedAlign (length : ℕ) : List Bool := if length % 8 = 0 then [] else codedAppend 0 (8 - length % 8)

/-- `cedrus_enc_h264_nalu_header` -/
def naluHeader (type refIdc : ℕ) : ℕ := type % 2 ^ 5 ||| (refIdc % 2 ^ 2) <<< 5

/-- `cedrus_enc_h264_coded_nalu_start` -/
def codedNaluStart (header : ℕ) : List Bool := [codedU32 1, codedU8 header].flatten

/-- The NAL unit of a parameter set after a stream: its start, its data, the stop bit, and zeros up to the next
byte. -/
def codedParameterSet (stream : List Bool) (header : ℕ) (data : List Bool) : List Bool :=
  let unit := [codedNaluStart header, data, codedBit 1].flatten
  unit ++ codedAlign (stream.length + unit.length)

/-- The profiles that `cedrus_enc_h264_job_configure_sps` writes the chroma format for. -/
def chromaFormatProfiles : List ℕ := [100, 110, 122, 244, 44, 83, 86, 118, 128, 138, 139, 134, 135]

/-- The cropping, with its flag. -/
def codedFrameCrop : Option (UInt32 × UInt32 × UInt32 × UInt32) → List Bool
  | some (left, right, top, bottom) =>
      [codedBit 1, codedUe left.toNat, codedUe right.toNat, codedUe top.toNat, codedUe bottom.toNat].flatten
  | none => codedBit 0

/-- The sample aspect ratio, with its flag. -/
def codedAspectRatio (ctx : Context) : List Bool :=
  if ctx.latched .vuiSarEnable ≠ 0 then
    [codedBit 1, codedU8 (vuiSarIdcElement (ctx.latched .vuiSarIdc)),
      if ctx.latched .vuiSarIdc = 17 then
        [codedU16 (ctx.latched .vuiExtSarWidth), codedU16 (ctx.latched .vuiExtSarHeight)].flatten
      else []].flatten
  else codedBit 0

/-- The timing, with its flag; a frame requires two ticks. -/
def codedTiming (input : Input) : List Bool :=
  [codedBit 1, codedU32 input.numerator, codedU32 (input.denominator * 2),
    -- fixed_frame_rate_flag
    codedBit 1].flatten

/-- The VUI parameters, with their flag. -/
def codedVui (ctx : Context) (input : Input) : List Bool :=
  [codedBit 1,
    codedAspectRatio ctx,
    -- overscan_info_present_flag, video_signal_type_present_flag, chroma_loc_info_present_flag
    codedBit 0,
    codedBit 0,
    codedBit 0,
    codedTiming input,
    -- nal_hrd_parameters_present_flag, vcl_hrd_parameters_present_flag, pic_struct_present_flag
    codedBit 0,
    codedBit 0,
    codedBit 0,
    -- bitstream_restriction_flag
    codedBit 0].flatten

/-- The elements of a sequence parameter set. -/
def codedSpsData (ctx : Context) (input : Input) (job : Job) : List Bool :=
  [codedU8 job.profileIdc,
    -- constraint_set*_flag, reserved_zero_2bits
    codedU8 job.constraintSetFlags,
    codedU8 job.levelIdc,
    codedUe job.seqParameterSetId,
    if job.profileIdc ∈ chromaFormatProfiles then
      -- chroma_format_idc, bit depths, qpprime_y_zero_transform_bypass_flag, seq_scaling_matrix_present_flag
      [codedUe 1, codedUe 0, codedUe 0, codedBit 0, codedBit 0].flatten
    else [],
    codedUe (ctx.log2MaxFrameNum - 4),
    -- pic_order_cnt_type
    codedUe 0,
    codedUe (ctx.log2MaxPicOrderCntLsb - 4),
    -- max_num_ref_frames, gaps_in_frame_num_value_allowed_flag
    codedUe 1,
    codedBit 0,
    codedUe (ctx.widthMbs - 1),
    codedUe (ctx.heightMbs - 1),
    -- frame_mbs_only_flag, direct_8x8_inference_flag
    codedBit 1,
    codedBit 0,
    codedFrameCrop (input.frameCrop (.ofNat (ctx.widthMbs * 16)) (.ofNat (ctx.heightMbs * 16))),
    codedVui ctx input].flatten

/-- What `cedrus_enc_h264_job_configure_sps` puts after a stream. -/
def codedSps (ctx : Context) (input : Input) (job : Job) (stream : List Bool) : List Bool :=
  codedParameterSet stream (naluHeader 7 3) (codedSpsData ctx input job)

/-- The elements of a picture parameter set. -/
def codedPpsData (ctx : Context) (job : Job) : List Bool :=
  [codedUe job.picParameterSetId,
    codedUe job.seqParameterSetId,
    codedBit job.entropyCodingModeFlag,
    -- bottom_field_pic_order_in_frame_present_flag, num_slice_groups_minus1
    codedBit 0,
    codedUe 0,
    -- num_ref_idx_l0_default_active_minus1, num_ref_idx_l1_default_active_minus1
    codedUe 0,
    codedUe 0,
    -- weighted_pred_flag, weighted_bipred_idc
    codedBit 0,
    codedAppend 0 2,
    codedSe (ctx.qpInit - 26),
    codedSe (ctx.qpInit - 26),
    codedSe job.chromaQpIndexOffset,
    -- deblocking_filter_control_present_flag, constrained_intra_pred_flag, redundant_pic_cnt_present_flag
    codedBit 1,
    codedBit 0,
    codedBit 0].flatten

/-- What `cedrus_enc_h264_job_configure_pps` puts after a stream. -/
def codedPps (ctx : Context) (job : Job) (stream : List Bool) : List Bool :=
  codedParameterSet stream (naluHeader 8 3) (codedPpsData ctx job)

/-- What `cedrus_enc_h264_job_configure_slice_header` puts. -/
def codedSliceHeader (ctx : Context) (job : Job) : List Bool :=
  let idr : Bool := job.frameType = .idr
  let sliceType := if idr ∨ job.frameType = .i then 2 else 0
  [codedNaluStart (naluHeader (if idr then 5 else 1) job.nalRefIdc),
    -- first_mb_in_slice
    codedUe 0,
    codedUe sliceType,
    codedUe job.picParameterSetId,
    codedAppend job.frameNum ctx.log2MaxFrameNum,
    if idr then codedUe job.idrPicId else [],
    if ctx.picOrderCntType = 0 then codedAppend job.picOrderCntLsb ctx.log2MaxPicOrderCntLsb else [],
    -- num_ref_idx_active_override_flag, ref_pic_list_modification_flag_l0
    if sliceType = 0 then [codedBit 0, codedBit 0].flatten else [],
    -- no_output_of_prior_pics_flag and long_term_reference_flag, or adaptive_ref_pic_marking_mode_flag
    if idr then [codedBit 0, codedBit 0].flatten else codedBit 0,
    if sliceType ≠ 2 ∧ job.entropyCodingModeFlag ≠ 0 then codedUe job.cabacInitIdc else [],
    codedSe (job.qp - ctx.qpInit),
    codedUe job.disableDeblockingFilterIdc,
    if job.disableDeblockingFilterIdc ≠ 1 then
      [codedSe job.sliceAlphaC0OffsetDiv2, codedSe job.sliceBetaOffsetDiv2].flatten
    else []].flatten

end H618Vpu.H264
