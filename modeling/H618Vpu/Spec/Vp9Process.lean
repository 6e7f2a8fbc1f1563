import Mathlib

/-! # Values of the VP9 decoding process

What the decoding process derives from the frame header for a block: the scale of a reference, the quantiser of
a segment, the level of the loop filter, and where a tile starts.
-/

namespace H618Vpu.Spec.Vp9

-- The index types are not empty. Named here so that an index literal is the same term in every module.
scoped instance neZeroTwo : NeZero 2 := ⟨by decide⟩

scoped instance neZeroFour : NeZero 4 := ⟨by decide⟩

/-- `Clip3` -/
def clip3 (low high x : ℤ) : ℤ := if x < low then low else if high < x then high else x

/-- `xScale` and `yScale`: the reference size over the current one, with 14 bits of fraction. -/
def scaleFactor (reference current : ℕ) : ℕ := reference * 2 ^ 14 / current

/-- `xStep` and `yStep`: the distance of two samples in the reference, in sixteenths. -/
def scaleStep (reference current : ℕ) : ℕ := 16 * scaleFactor reference current / 2 ^ 14

/-- The parameters of the segmentation syntax. -/
structure Segmentation where
  enabled : Bool
  absOrDeltaUpdate : Bool
  featureEnabled : Fin 8 → Fin 4 → Bool
  featureData : Fin 8 → Fin 4 → ℤ

/-- `SEG_LVL_ALT_Q` and `SEG_LVL_ALT_L` -/
def segLvlAltQ : Fin 4 := 0
def segLvlAltL : Fin 4 := 1

namespace Segmentation

variable (seg : Segmentation) (segment : Fin 8)

/-- `seg_feature_active` -/
def featureActive (feature : Fin 4) : Bool := seg.enabled && seg.featureEnabled segment feature

/-- `get_qindex` -/
def qIndex (baseQIdx : ℤ) : ℤ :=
  if seg.featureActive segment segLvlAltQ then
    let data := seg.featureData segment segLvlAltQ
    clip3 0 255 (if seg.absOrDeltaUpdate then data else data + baseQIdx)
  else baseQIdx

end Segmentation

/-- The place in a table of quantisers. -/
def clipQ (b : ℤ) : Fin 256 :=
  ⟨(clip3 0 255 b).toNat, by
    simp only [clip3]
    split_ifs <;> omega⟩

/-- `dc_q` and `ac_q`, of the table for the bit depth. -/
def lookupQ (table : Fin 256 → ℕ) (b : ℤ) : ℕ := table (clipQ b)

/-- The parameters of the loop filter syntax. -/
structure LoopFilter where
  level : ℤ
  deltaEnabled : Bool
  refDeltas : Fin 4 → ℤ
  modeDeltas : Fin 2 → ℤ

/-- The level of a segment before the deltas. -/
def Segmentation.filterLevel (seg : Segmentation) (segment : Fin 8) (level : ℤ) : ℤ :=
  clip3 0 63
    (if seg.featureActive segment segLvlAltL then
      let data := seg.featureData segment segLvlAltL
      if seg.absOrDeltaUpdate then data else level + data
    else level)

/-- The level of a block: the reference frame is 0 for an intra block, which has no mode class. -/
def LoopFilter.blockLevel (lf : LoopFilter) (seg : Segmentation) (segment : Fin 8) (refFrame : Fin 4)
    (mode : Fin 2) : ℤ :=
  let lvlSeg := seg.filterLevel segment lf.level
  if lf.deltaEnabled then
    let nShift := (lvlSeg / 2 ^ 5).toNat
    if refFrame = 0 then clip3 0 63 (lvlSeg + lf.refDeltas 0 * 2 ^ nShift)
    else clip3 0 63 (lvlSeg + lf.refDeltas refFrame * 2 ^ nShift + lf.modeDeltas mode * 2 ^ nShift)
  else lvlSeg

/-- The first superblock of a row or column of tiles, of `sbs` superblocks. -/
def tileOffset (tileNum sbs tileSzLog2 : ℕ) : ℕ := tileNum * sbs / 2 ^ tileSzLog2

end H618Vpu.Spec.Vp9
