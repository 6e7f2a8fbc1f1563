import H618Vpu.Model.DecBits

/-! # The end of the slice header

Each trigger flushes as many bits as it means to, so a parser stands where the flushes sum up to. For H.265 that is
where `byte_alignment()` begins before the slice data, whatever the header is.
-/

namespace H618Vpu.DecBits

open Bits

/-- A count of at most 32 bits fits the trigger beside its command. -/
theorem trigger_fields {command : UInt32} (low : command.toNat < 2 ^ 4) {count : ℕ} (few : count ≤ 32) :
    wordField (command ||| triggerTypeNBits (UInt32.ofNat count)) 0 4 = command.toNat ∧
      wordField (command ||| triggerTypeNBits (UInt32.ofNat count)) 8 6 = count := by
  have masked : (UInt32.ofNat count &&& 0x3f).toNat = count := by
    rw [UInt32.toNat_and, UInt32.toNat_ofNat', Nat.mod_eq_of_lt (by omega)]
    exact (Nat.and_two_pow_sub_one_eq_mod count 6).trans (Nat.mod_eq_of_lt (by omega))
  have sum : (command ||| triggerTypeNBits (UInt32.ofNat count)).toNat =
      command.toNat + (UInt32.ofNat count &&& 0x3f).toNat * 2 ^ 8 :=
    toNat_or_shiftLeft (low.trans (by decide)) (by decide) (by rw [masked]; simp only [UInt32.reduceToNat]; omega)
  rw [masked] at sum
  simp only [wordField, sum]
  omega

namespace Vld

variable (vld : Vld)

theorem trigger_init : vld.trigger triggerInitSwdec = { vld with position := 0 } := by
  rw [trigger]
  exact if_pos (by decide)

theorem trigger_flush {count : ℕ} (few : count ≤ 32) :
    vld.trigger (triggerFlushBits ||| triggerTypeNBits (UInt32.ofNat count)) =
      { vld with position := vld.position + count } := by
  obtain ⟨command, number⟩ := trigger_fields (by decide : triggerFlushBits.toNat < 2 ^ 4) few
  rw [trigger, command, number]
  rfl

theorem readBits_eq {count : UInt32} (few : count.toNat ≤ 32) :
    vld.readBits count =
      let read := UInt32.ofNat (showBits vld.bytes vld.position count.toNat)
      ({ vld with bitsRead := read }, read) := by
  obtain ⟨command, number⟩ := trigger_fields (by decide : triggerShowBits.toNat < 2 ^ 4) few
  rw [UInt32.ofNat_toNat] at command number
  rw [readBits, trigger, command, number]
  rfl

/-- The flushes of a loop sum up. -/
theorem bitsSkipFrom_eq (written count : ℕ) :
    vld.bitsSkipFrom written count = { vld with position := vld.position + (count - written) } := by
  fun_induction bitsSkipFrom written count vld with
  | case1 written vld more skipCount ih =>
    rw [ih, trigger_flush _ (Nat.min_le_right ..)]
    congr 1
    change vld.position + skipCount + (count - (written + skipCount)) = _
    omega
  | case2 written vld done => rw [Nat.sub_eq_zero_of_le (Nat.le_of_not_lt done), Nat.add_zero]

theorem bitsSkip_eq (count : UInt32) : vld.bitsSkip count = { vld with position := vld.position + count.toNat } :=
  vld.bitsSkipFrom_eq 0 count.toNat

/-- The byte before the slice data; the number of bits before it is kept in 32 bits. -/
def lastByte (dataByteOffset : UInt32) : ℕ := (dataByteOffset.toNat - 1) % 2 ^ 29

theorem bits_before {dataByteOffset : UInt32} (positive : dataByteOffset ≠ 0) :
    ((dataByteOffset - 1) * 8).toNat = 8 * lastByte dataByteOffset := by
  have one : (1 : UInt32) ≤ dataByteOffset := by
    rw [UInt32.le_iff_toNat_le]
    exact Nat.one_le_iff_ne_zero.mpr fun zero => positive (UInt32.toNat_inj.mp zero)
  rw [UInt32.toNat_mul, UInt32.toNat_sub_of_le _ _ one, lastByte]
  simp only [UInt32.reduceToNat]
  omega

/-- The parser at the byte before the slice data. -/
theorem h265Init_eq {dataByteOffset : UInt32} (positive : dataByteOffset ≠ 0) :
    let padding := vld.bytes (lastByte dataByteOffset)
    vld.h265Init dataByteOffset =
      let shown : Vld := ⟨vld.bytes, 8 * lastByte dataByteOffset, UInt32.ofNat padding.toNat⟩
      if padding = 0 then (shown, MvCol.einval)
      else ({ shown with position := 8 * lastByte dataByteOffset + (8 - (paddingCount padding + 1)) }, 0) := by
  have small := (vld.bytes (lastByte dataByteOffset)).toNat_lt
  have byte : (UInt32.ofNat (vld.bytes (lastByte dataByteOffset)).toNat).toUInt8 =
      vld.bytes (lastByte dataByteOffset) := by
    simp
  have skip (padding : UInt8) : (UInt32.ofNat (8 - (paddingCount padding + 1))).toNat =
      8 - (paddingCount padding + 1) := by
    rw [UInt32.toNat_ofNat']
    omega
  have shown : showBits vld.bytes (8 * lastByte dataByteOffset) (8 : UInt32).toNat =
      (vld.bytes (lastByte dataByteOffset)).toNat := showBits_byte _
  have read : Vld.readBits ⟨vld.bytes, 8 * lastByte dataByteOffset, vld.bitsRead⟩ 8 =
      (⟨vld.bytes, 8 * lastByte dataByteOffset, UInt32.ofNat (vld.bytes (lastByte dataByteOffset)).toNat⟩,
        UInt32.ofNat (vld.bytes (lastByte dataByteOffset)).toNat) := by
    rw [readBits_eq _ (by decide)]
    simp only [shown]
  simp only [h265Init, if_neg positive, trigger_init, bitsSkip_eq, bits_before positive, Nat.zero_add, read, byte, skip]

/-- Before slice data the parser stands at the end of the slice header: where the length of the header in bits leads
to, or where `byte_alignment()` begins. A byte without a bit that is set is refused, and so is no byte at all. -/
theorem slice_header_end (vld : Vld) (headerBitSize : UInt16) (dataByteOffset : UInt32) :
    (vld.h264Init headerBitSize).position = headerBitSize.toNat ∧
      ((vld.h265Init dataByteOffset).2 = MvCol.eopnotsupp ↔ dataByteOffset = 0) ∧
      (dataByteOffset ≠ 0 →
        ((vld.h265Init dataByteOffset).2 = MvCol.einval ↔
          ¬∃ start, Alignment vld.bytes start (8 * (lastByte dataByteOffset + 1))) ∧
        ∀ start, (vld.h265Init dataByteOffset).2 = 0 ∧ (vld.h265Init dataByteOffset).1.position = start ↔
          Alignment vld.bytes start (8 * (lastByte dataByteOffset + 1))) := by
  refine ⟨?_, ?_, fun positive => ?_⟩
  · rw [h264Init, trigger_init, bitsSkipFrom_eq, Nat.sub_zero, Nat.zero_add]
  · constructor
    · intro refused
      by_contra positive
      rw [h265Init_eq vld positive] at refused
      dsimp only at refused
      split at refused
      · exact absurd refused (by decide : MvCol.einval ≠ MvCol.eopnotsupp)
      · exact absurd refused (by decide : 0 ≠ MvCol.eopnotsupp)
    · rintro rfl
      rfl
  · simp only [alignment_iff]
    rw [h265Init_eq vld positive]
    generalize vld.bytes (lastByte dataByteOffset) = padding
    rcases Option.eq_none_or_eq_some (lowestBit padding) with none | ⟨place, some⟩
    · obtain rfl := lowestBit_eq_none_iff.mp none
      simp [none, MvCol.einval]
    · have inside := (lowestBit_eq_some_iff.mp some).1
      have nonzero : padding ≠ 0 := fun zero => by simp [lowestBit_eq_none_iff.mpr zero] at some
      have count : paddingCount padding = place := congrArg (Option.getD · 8) some
      simp only [if_neg nonzero, some, count, Option.some.injEq, exists_eq_left', true_and]
      refine ⟨iff_of_false (by decide) fun none => none ⟨_, rfl⟩, fun start => ?_⟩
      omega

/-- Three bits of the header are in the byte before the slice data. -/
theorem slice_header_end_five :
    let vld : Vld := ⟨fun _ => 0x90, 0, 0⟩
    (vld.h265Init 5).2 = 0 ∧ (vld.h265Init 5).1.position = 35 ↔ Alignment vld.bytes 35 40 :=
  ((slice_header_end ⟨fun _ => 0x90, 0, 0⟩ 37 5).2.2 (by decide)).2 35

end Vld

end H618Vpu.DecBits
