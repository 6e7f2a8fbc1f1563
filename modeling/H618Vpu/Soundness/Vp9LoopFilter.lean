import H618Vpu.Soundness.Vp9Segments

/-! # The filter levels of VP9 segments

Two words of a segment have the levels of intra blocks and of the blocks of each reference frame and mode class,
one in a byte.
-/

namespace H618Vpu.Vp9

open Bits

/-- The parameters as the decoding process reads them. -/
def LoopFilter.spec (lf : LoopFilter) : Spec.Vp9.LoopFilter where
  level := lf.level.toNat
  deltaEnabled := lf.deltaEnabled
  refDeltas i := (lf.refDeltas i).toInt
  modeDeltas i := (lf.modeDeltas i).toInt

/-- The level of the decoding process for a reference frame and a mode class. -/
def Request.blockLevel (request : Request) (segment : Fin 8) (refFrame : Fin 4) (mode : Fin 2) : ℤ :=
  request.lf.spec.blockLevel request.seg.spec segment refFrame mode

/-- The bytes of the two words of a segment, as numbers; the second byte is free. -/
structure Request.Filtered (request : Request) (segment : Fin 8) (first second : UInt32) : Prop where
  intra : (wordField first 0 8 : ℤ) = request.blockLevel segment 0 0
  free : wordField first 8 8 = 0
  last : ∀ mode : Fin 2, (wordField first (16 + 8 * mode) 8 : ℤ) = request.blockLevel segment 1 mode
  golden : ∀ mode : Fin 2, (wordField second (8 * mode) 8 : ℤ) = request.blockLevel segment 2 mode
  alt : ∀ mode : Fin 2, (wordField second (16 + 8 * mode) 8 : ℤ) = request.blockLevel segment 3 mode

/-- Four bytes in one word. -/
theorem toNat_bytes {first second third fourth : UInt32} (firstSmall : first.toNat < 256)
    (secondSmall : second.toNat < 256) (thirdSmall : third.toNat < 256) (fourthSmall : fourth.toNat < 256) :
    (first ||| (second <<< 8) ||| (third <<< 16) ||| (fourth <<< 24)).toNat =
      first.toNat + second.toNat * 2 ^ 8 + third.toNat * 2 ^ 16 + fourth.toNat * 2 ^ 24 := by
  have two : (first ||| (second <<< 8)).toNat = first.toNat + second.toNat * 2 ^ 8 :=
    toNat_or_shiftLeft (show first.toNat < 2 ^ 8 by omega) (by decide) (show second.toNat * 2 ^ 8 < 2 ^ 32 by omega)
  have three : (first ||| (second <<< 8) ||| (third <<< 16)).toNat =
      (first ||| (second <<< 8)).toNat + third.toNat * 2 ^ 16 :=
    toNat_or_shiftLeft (show (first ||| (second <<< 8)).toNat < 2 ^ 16 by omega) (by decide)
      (show third.toNat * 2 ^ 16 < 2 ^ 32 by omega)
  have four : (first ||| (second <<< 8) ||| (third <<< 16) ||| (fourth <<< 24)).toNat =
      (first ||| (second <<< 8) ||| (third <<< 16)).toNat + fourth.toNat * 2 ^ 24 :=
    toNat_or_shiftLeft (show (first ||| (second <<< 8) ||| (third <<< 16)).toNat < 2 ^ 24 by omega) (by decide)
      (show fourth.toNat * 2 ^ 24 < 2 ^ 32 by omega)
  omega

/-- Four bytes are read back from their places. -/
theorem wordField_bytes {first second third fourth : UInt32} (firstSmall : first.toNat < 256)
    (secondSmall : second.toNat < 256) (thirdSmall : third.toNat < 256) (fourthSmall : fourth.toNat < 256) :
    wordField (first ||| (second <<< 8) ||| (third <<< 16) ||| (fourth <<< 24)) 0 8 = first.toNat ∧
      wordField (first ||| (second <<< 8) ||| (third <<< 16) ||| (fourth <<< 24)) 8 8 = second.toNat ∧
      wordField (first ||| (second <<< 8) ||| (third <<< 16) ||| (fourth <<< 24)) 16 8 = third.toNat ∧
      wordField (first ||| (second <<< 8) ||| (third <<< 16) ||| (fourth <<< 24)) 24 8 = fourth.toNat := by
  have word := toNat_bytes firstSmall secondSmall thirdSmall fourthSmall
  simp only [wordField, word]
  omega

/-- The level of a segment before the deltas. -/
def Request.segmentLevel (request : Request) (segment : Fin 8) : ℤ :=
  filterLevel (request.seg.segmentValue segment segLvlAltL request.lf.level.toNat)

/-- The byte for a sum of deltas. -/
def Request.levelByte (request : Request) (segment : Fin 8) (delta : ℤ) : UInt32 :=
  .ofNat (if request.lf.deltaEnabled then filterLevel (request.segmentLevel segment + delta)
    else request.segmentLevel segment).toNat

/-- The deltas of a reference frame and of a mode class, scaled by the level. -/
def Request.refDelta (request : Request) (segment : Fin 8) (i : Fin 4) : ℤ :=
  (request.lf.refDeltas i).toInt * 2 ^ (request.segmentLevel segment / 32).toNat

def Request.modeDelta (request : Request) (segment : Fin 8) (i : Fin 2) : ℤ :=
  (request.lf.modeDeltas i).toInt * 2 ^ (request.segmentLevel segment / 32).toNat

theorem segmentLevel_eq (request : Request) (segment : Fin 8) :
    request.segmentLevel segment = request.seg.spec.filterLevel segment request.lf.level.toNat := by
  rw [Request.segmentLevel, filterLevel_eq, segmentValue_eq, Spec.Vp9.Segmentation.filterLevel]
  simp only [Int.add_comm]
  rfl

/-- A byte is a level, and fits. -/
theorem levelByte_eq (request : Request) (segment : Fin 8) (delta : ℤ) :
    (request.levelByte segment delta).toNat < 256 ∧
      ((request.levelByte segment delta).toNat : ℤ) =
        if request.lf.deltaEnabled then Spec.Vp9.clip3 0 63 (request.segmentLevel segment + delta)
        else request.segmentLevel segment := by
  have bound (x : ℤ) : 0 ≤ filterLevel x ∧ filterLevel x ≤ 63 := by
    simp only [filterLevel]
    omega
  have inside : 0 ≤ (if request.lf.deltaEnabled then filterLevel (request.segmentLevel segment + delta)
      else request.segmentLevel segment) ∧ (if request.lf.deltaEnabled then
        filterLevel (request.segmentLevel segment + delta) else request.segmentLevel segment) ≤ 63 := by
    split
    · exact bound _
    · exact bound _
  rw [Request.levelByte, UInt32.toNat_ofNat_of_lt' (by simp only [UInt32.size]; omega), ← filterLevel_eq]
  omega

theorem blockLevel_intra (request : Request) (segment : Fin 8) :
    ((request.levelByte segment (request.refDelta segment 0)).toNat : ℤ) = request.blockLevel segment 0 0 := by
  rw [(levelByte_eq ..).2, Request.blockLevel, Spec.Vp9.LoopFilter.blockLevel]
  simp only [LoopFilter.spec, ← segmentLevel_eq, Request.refDelta, if_true]
  rfl

theorem blockLevel_inter (request : Request) (segment : Fin 8) {refFrame : Fin 4} (inter : refFrame ≠ 0)
    (mode : Fin 2) :
    ((request.levelByte segment (request.refDelta segment refFrame + request.modeDelta segment mode)).toNat : ℤ) =
      request.blockLevel segment refFrame mode := by
  rw [(levelByte_eq ..).2, Request.blockLevel, Spec.Vp9.LoopFilter.blockLevel]
  simp only [LoopFilter.spec, ← segmentLevel_eq, Request.refDelta, Request.modeDelta, if_neg inter, Int.add_assoc]
  rfl

/-- What is written for a segment. -/
def Request.levelWords (request : Request) (segment : Fin 8) : UInt32 × UInt32 :=
  let inter (refFrame : Fin 4) (mode : Fin 2) : UInt32 :=
    request.levelByte segment (request.refDelta segment refFrame + request.modeDelta segment mode)
  (request.levelByte segment (request.refDelta segment 0) ||| (inter 1 0 <<< 16) ||| (inter 1 1 <<< 24),
    inter 2 0 ||| (inter 2 1 <<< 8) ||| (inter 3 0 <<< 16) ||| (inter 3 1 <<< 24))

/-- Pairs laid out one after the other. -/
theorem getElem?_pairs {α : Type*} (first second : Fin 8 → α) (segment : Fin 8) :
    ((List.finRange 8).flatMap fun segment => [first segment, second segment])[2 * segment.val]? =
        some (first segment) ∧
      ((List.finRange 8).flatMap fun segment => [first segment, second segment])[2 * segment.val + 1]? =
        some (second segment) := by
  fin_cases segment <;> exact ⟨rfl, rfl⟩

theorem tables_levelWords (request : Request) (config : ProgramConfig) (sram : Sram) (segment : Fin 8) :
    (request.tables config sram).word (0x100 + 8 * segment) = (request.levelWords segment).1 ∧
      (request.tables config sram).word (0x104 + 8 * segment) = (request.levelWords segment).2 := by
  have written : loopFilterWrite request = sramWrite 0x100 ((List.finRange 8).flatMap fun segment =>
      [(request.levelWords segment).1, (request.levelWords segment).2]) := rfl
  obtain ⟨first, second⟩ := getElem?_pairs (fun segment => (request.levelWords segment).1)
    (fun segment => (request.levelWords segment).2) segment
  have port := (Sram.after_sramWrite (sram.after (dequantWrite config request)) 0x100
    ((List.finRange 8).flatMap fun segment => [(request.levelWords segment).1, (request.levelWords segment).2])).2
  rw [Request.tables, Sram.after_append, written]
  constructor
  · have found := port _ _ first
    rwa [show (0x100 : UInt32).toNat + 4 * (2 * segment.val) = 0x100 + 8 * segment.val by
      rw [show (0x100 : UInt32).toNat = 0x100 from rfl]; omega] at found
  · have found := port _ _ second
    rwa [show (0x100 : UInt32).toNat + 4 * (2 * segment.val + 1) = 0x104 + 8 * segment.val by
      rw [show (0x100 : UInt32).toNat = 0x100 from rfl]; omega] at found

/-- The words of every segment have the levels of the decoding process. -/
theorem segments_filtered (request : Request) (config : ProgramConfig) (sram : Sram) (segment : Fin 8) :
    request.Filtered segment ((request.tables config sram).word (0x100 + 8 * segment))
      ((request.tables config sram).word (0x104 + 8 * segment)) := by
  obtain ⟨first, second⟩ := tables_levelWords request config sram segment
  have small (delta : ℤ) := (levelByte_eq request segment delta).1
  have zero : (0 : UInt32).toNat < 256 := by decide
  have unused (byte : UInt32) : byte = byte ||| ((0 : UInt32) <<< 8) := by simp
  rw [first, second, Request.levelWords]
  dsimp only
  nth_rewrite 1 [unused (request.levelByte segment (request.refDelta segment 0))]
  obtain ⟨intra, free, last0, last1⟩ := wordField_bytes (small (request.refDelta segment 0)) zero
    (small (request.refDelta segment 1 + request.modeDelta segment 0))
    (small (request.refDelta segment 1 + request.modeDelta segment 1))
  obtain ⟨golden0, golden1, alt0, alt1⟩ := wordField_bytes
    (small (request.refDelta segment 2 + request.modeDelta segment 0))
    (small (request.refDelta segment 2 + request.modeDelta segment 1))
    (small (request.refDelta segment 3 + request.modeDelta segment 0))
    (small (request.refDelta segment 3 + request.modeDelta segment 1))
  constructor
  case intra =>
    rw [intra]
    exact blockLevel_intra request segment
  case free => exact free
  case last =>
    intro mode
    rw [← blockLevel_inter request segment (by decide) mode]
    fin_cases mode
    · exact congrArg Nat.cast last0
    · exact congrArg Nat.cast last1
  case golden =>
    intro mode
    rw [← blockLevel_inter request segment (by decide) mode]
    fin_cases mode
    · exact congrArg Nat.cast golden0
    · exact congrArg Nat.cast golden1
  case alt =>
    intro mode
    rw [← blockLevel_inter request segment (by decide) mode]
    fin_cases mode
    · exact congrArg Nat.cast alt0
    · exact congrArg Nat.cast alt1

end H618Vpu.Vp9
