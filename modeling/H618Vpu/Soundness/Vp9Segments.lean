import H618Vpu.Bits.Words
import H618Vpu.Model.Vp9Quant
import H618Vpu.Spec.Vp9Process

/-! # The SRAM tables of VP9 segments

The quantisers and the filter levels of the segments go to the SRAM of the engine through a data port that
steps on by itself. What stands there afterwards is compared with the decoding process.
-/

namespace H618Vpu.Vp9

open Bits

/-- Where the data port stands, and the words behind it. -/
structure Sram where
  offset : ℕ := 0
  word : ℕ → UInt32 := fun _ => 0

def Sram.write (sram : Sram) : Write → Sram
  | (.sramOffset, value) => { sram with offset := value.toNat }
  | (.sramData, value) => { offset := sram.offset + 4, word := Function.update sram.word sram.offset value }
  | _ => sram

/-- The SRAM after some writes. -/
def Sram.after (sram : Sram) (writes : List Write) : Sram := writes.foldl Sram.write sram

namespace Sram

variable (sram : Sram)

theorem after_append (first second : List Write) : sram.after (first ++ second) = (sram.after first).after second :=
  List.foldl_append ..

/-- The port writes words where it stands and leaves those before it alone. -/
theorem after_data (values : List UInt32) :
    (∀ address < sram.offset, (sram.after (values.map fun value => (.sramData, value))).word address =
        sram.word address) ∧
      ∀ index value, values[index]? = some value →
        (sram.after (values.map fun value => (.sramData, value))).word (sram.offset + 4 * index) = value := by
  induction values generalizing sram with
  | nil => exact ⟨fun _ _ => rfl, fun _ _ none => nomatch none⟩
  | cons first rest ih =>
    obtain ⟨before, written⟩ := ih (sram.write (.sramData, first))
    have kept : ∀ address, address ≠ sram.offset →
        (sram.write (.sramData, first)).word address = sram.word address := fun address other =>
      Function.update_of_ne other ..
    constructor
    · intro address below
      exact (before address (Nat.lt_add_right 4 below)).trans (kept address (Nat.ne_of_lt below))
    · intro index value found
      cases index with
      | zero =>
        obtain rfl := Option.some.inj found
        exact (before sram.offset (Nat.lt_add_of_pos_right (by decide))).trans (Function.update_self ..)
      | succ index =>
        have later := written index value found
        rwa [show sram.offset + 4 * (index + 1) = sram.offset + 4 + 4 * index by omega]

theorem after_sramWrite (offset : UInt32) (values : List UInt32) :
    (∀ address < offset.toNat, (sram.after (sramWrite offset values)).word address = sram.word address) ∧
      ∀ index value, values[index]? = some value →
        (sram.after (sramWrite offset values)).word (offset.toNat + 4 * index) = value :=
  (sram.write (.sramOffset, offset)).after_data values

end Sram

/-- The parameters as the decoding process reads them. -/
def SegmentationParams.spec (seg : SegmentationParams) : Spec.Vp9.Segmentation where
  enabled := seg.enabled
  absOrDeltaUpdate := seg.absOrDeltaUpdate
  featureEnabled := seg.featureEnabled
  featureData segment feature := (seg.featureData segment feature).toInt

/-- The value of a segment is the feature's data where the feature is active. -/
theorem segmentValue_eq (seg : SegmentationParams) (segment : Fin 8) (feature : Fin 4) (base : ℤ) :
    seg.segmentValue segment feature base =
      if seg.spec.featureActive segment feature then
        if seg.absOrDeltaUpdate then seg.spec.featureData segment feature
        else seg.spec.featureData segment feature + base
      else base := by
  have active : (!seg.enabled || !seg.featureEnabled segment feature) = !seg.spec.featureActive segment feature :=
    (Bool.not_and ..).symm
  rw [SegmentationParams.segmentValue, active]
  cases seg.spec.featureActive segment feature <;> rfl

theorem toNat_clampQ (q : ℤ) : ((clampQ q : ℕ) : ℤ) = Spec.Vp9.clip3 0 255 q := by
  simp only [clampQ, Spec.Vp9.clip3]
  split_ifs <;> omega

theorem clampQ_eq (q : ℤ) : clampQ q = Spec.Vp9.clipQ q := by
  apply Fin.ext
  simp only [clampQ, Spec.Vp9.clipQ, Spec.Vp9.clip3]
  split_ifs <;> omega

theorem filterLevel_eq (level : ℤ) : filterLevel level = Spec.Vp9.clip3 0 63 level := by
  simp only [filterLevel, Spec.Vp9.clip3]
  split_ifs <;> omega

/-- Both tables, as they are programmed one after the other. -/
def Request.tables (request : Request) (config : ProgramConfig) (sram : Sram) : Sram :=
  sram.after (dequantWrite config request ++ loopFilterWrite request)

end H618Vpu.Vp9
