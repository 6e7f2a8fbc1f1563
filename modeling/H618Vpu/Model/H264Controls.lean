import Mathlib

/-! # The controls of the H.264 encoder

The controls with an integer value, as `cedrus_enc_h264_ctrl_configs` registers them, and the helpers
that turn their values into syntax elements. Menu values are numbered as in the kernel's enumerations.
A missing type or name of a configuration is filled in by `v4l2_ctrl_fill`.
-/

namespace H618Vpu.H264

/-- The controls, under the names of the context fields they are latched in. -/
inductive Ctrl where
  | prependSpsPpsIdr
  | vuiSarEnable
  | vuiSarIdc
  | vuiExtSarWidth
  | vuiExtSarHeight
  | profile
  | level
  | entropyMode
  | chromaQpIndexOffset
  | loopFilterMode
  | loopFilterAlpha
  | loopFilterBeta
  | qpMin
  | qpMax
  | qpI
  | qpP
  | gopClosure
  | gopSize
  | gopOpenIPeriod
deriving DecidableEq, Repr

inductive CtrlType where
  | integer
  | boolean
  | menu
deriving DecidableEq, Repr

/-- `struct v4l2_ctrl_config`; every step is 1. -/
structure CtrlConfig where
  type : CtrlType
  min : ℤ
  max : ℤ
  default : ℤ
  menuSkip : List ℤ := []

/-- `cedrus_enc_h264_ctrl_configs` -/
def Ctrl.config : Ctrl → CtrlConfig
  | prependSpsPpsIdr => ⟨.boolean, 0, 1, 0, []⟩
  | vuiSarEnable => ⟨.boolean, 0, 1, 0, []⟩
  | vuiSarIdc => ⟨.menu, 0, 17, 0, []⟩
  | vuiExtSarWidth => ⟨.integer, 1, 65535, 1, []⟩
  | vuiExtSarHeight => ⟨.integer, 1, 65535, 1, []⟩
  | profile => ⟨.menu, 0, 4, 2, [3]⟩
  | level => ⟨.menu, 0, 19, 15, []⟩
  | entropyMode => ⟨.menu, 0, 1, 0, []⟩
  | chromaQpIndexOffset => ⟨.integer, 0, 7, 4, []⟩
  | loopFilterMode => ⟨.menu, 0, 2, 0, []⟩
  | loopFilterAlpha => ⟨.integer, -6, 6, 0, []⟩
  | loopFilterBeta => ⟨.integer, -6, 6, 0, []⟩
  | qpMin => ⟨.integer, 0, 51, 10, []⟩
  | qpMax => ⟨.integer, 0, 51, 40, []⟩
  | qpI => ⟨.integer, 0, 51, 26, []⟩
  | qpP => ⟨.integer, 0, 51, 28, []⟩
  | gopClosure => ⟨.boolean, 0, 1, 1, []⟩
  | gopSize => ⟨.integer, 1, 65535, 12, []⟩
  | gopOpenIPeriod => ⟨.integer, 1, 65535, 12, []⟩

/-- `validate_new` of the control framework: an integer is clamped, another menu item refused. -/
def Ctrl.validateNew (ctrl : Ctrl) (value : ℤ) : Option ℤ :=
  let config := ctrl.config
  match config.type with
  | .integer => some (max config.min (min config.max value))
  | .boolean => some (if value = 0 then 0 else 1)
  | .menu => if value < config.min ∨ config.max < value ∨ value ∈ config.menuSkip then none else some value

/-- The controls by their ids. It is an assumption that `v4l2_ctrl_handler_setup`, which is outside the driver, takes
them in this order; the proofs use only that it takes every one. -/
def Ctrl.byId : List Ctrl :=
  [gopSize, gopClosure, qpI, qpP, qpMin, qpMax, entropyMode, gopOpenIPeriod, level, loopFilterAlpha, loopFilterBeta,
    loopFilterMode, profile, vuiExtSarHeight, vuiExtSarWidth, vuiSarEnable, vuiSarIdc, chromaQpIndexOffset,
    prependSpsPpsIdr]

def entropyModeCavlc : ℤ := 0
def entropyModeCabac : ℤ := 1

/-- `cedrus_enc_h264_profile_idc` -/
def profileIdc (profile : ℤ) : ℕ :=
  match profile with
  -- (constrained) baseline, main, extended
  | 0 | 1 => 66
  | 2 => 77
  | 3 => 88
  -- high and constrained high, high 10, high 4:2:2, high 4:4:4, with their intra profiles
  | 4 | 17 => 100
  | 5 | 8 => 110
  | 6 | 9 => 122
  | 7 | 10 => 244
  | 11 => 44
  -- scalable baseline, scalable high, stereo high, multiview high
  | 12 => 83
  | 13 | 14 => 86
  | 15 => 128
  | 16 => 118
  | _ => 0

/-- `cedrus_enc_h264_profile_cabac_check` -/
def profileCabacCheck (profile : ℤ) : Bool :=
  match profile with
  | 0 | 1 | 3 | 11 => false
  | _ => true

/-- `cedrus_enc_h264_level_idc`, from level 1 on with 1b after it. -/
def levelIdc (level : ℤ) : ℕ :=
  match level with
  | 0 => 10
  | 1 => 9
  | 2 => 11
  | 3 => 12
  | 4 => 13
  | 5 => 20
  | 6 => 21
  | 7 => 22
  | 8 => 30
  | 9 => 31
  | 10 => 32
  | 11 => 40
  | 12 => 41
  | 13 => 42
  | 14 => 50
  | 15 => 51
  | 16 => 52
  | 17 => 60
  | 18 => 61
  | 19 => 62
  | _ => 0

/-- `cedrus_enc_h264_constraint_set_flags`; flag `n` is bit `7 - n`. -/
def constraintSetFlags (profile : ℤ) : ℕ :=
  match profile with
  | 0 => 0x80
  | 1 => 0x80 + 0x40
  | 2 => 0x40
  | 17 => 0x08 + 0x04
  | 8 | 9 | 10 | 11 | 14 => 0x10
  | _ => 0

/-- `cedrus_enc_h264_vui_sar_idc` -/
def vuiSarIdcElement (value : ℤ) : ℕ :=
  if value = 17 then 255 else if 1 ≤ value ∧ value ≤ 16 then value.toNat else 0

/-- `cedrus_enc_h264_disable_deblocking_filter_idc` -/
def disableDeblockingFilterIdc (value : ℤ) : ℕ :=
  match value with
  | 0 => 0
  | 1 => 1
  | 2 => 2
  | _ => 0

end H618Vpu.H264
