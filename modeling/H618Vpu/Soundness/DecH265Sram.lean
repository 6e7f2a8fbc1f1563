import H618Vpu.Machine.Gather
import H618Vpu.Machine.PortBytes
import H618Vpu.Model.DecH265Sram
import H618Vpu.Soundness.DecH265Tiles

/-! # The SRAM of an H.265 slice

What a job leaves in the SRAM is read back: the frame infos of the DPB and of the destination, the entries of the
reference lists with their weights, and the scaling factors. The tables lie apart as long as a list is not longer than
its array, whatever was in the SRAM before.
-/

namespace H618Vpu.DecH265

open Bits Machine Touching

/-- The entries of a reference list go into a word by bytes. -/
def refGather : Gather UInt32 UInt32 UInt8 where
  size := 4
  put := putByte
  word := id
  rest _ := 0

theorem refGather_reads : refGather.Reads wordByte fun place word => word.toNat < 2 ^ (place * 8) where
  size_pos := by decide
  rest _ := (by decide : (0 : UInt32).toNat < 2 ^ (0 * 8))
  put_ready _ inside empty := putByte_lt inside empty
  put_read _ inside empty := wordByte_putByte_self inside empty
  put_before _ inside empty _ below := wordByte_putByte_of_lt inside empty below

/-- An entry of a reference list, with the mark of a long-term reference. -/
def refEntry (dpb : ℕ → DpbEntry) (list : ℕ → UInt8) (i : ℕ) : UInt8 :=
  if (dpb (list i).toNat).longTermReference then list i ||| ltRef else list i

/-- The loop over a reference list gathers its entries. -/
theorem value_refPicListWrite (dpb : ℕ → DpbEntry) (l : ListX) (list : ℕ → UInt8) (count : UInt8) :
    (refPicListWrite dpb l list count).value = (refGather.run (refEntry dpb list) count.toNat 0 count.toNat).2 := by
  have rounds (k : ℕ) : (loop (refPicWrite dpb l list count) {} k).value =
      ⟨(refGather.run (refEntry dpb list) count.toNat 0 k).1,
        (refGather.run (refEntry dpb list) count.toNat 0 k).2⟩ := by
    induction k with
    | zero => rfl
    | succ k ih =>
      rw [loop, value_bind, ih, Gather.run_succ]
      generalize refGather.run (refEntry dpb list) count.toNat 0 k = state
      by_cases last : k % 4 = 3 ∨ k = count.toNat - 1
      · have given : refGather.step (refEntry dpb list) count.toNat k state =
            (0, state.2 ++ [putByte state.1 (k % 4) (refEntry dpb list k)]) := if_pos last
        simp only [refPicWrite, read, value_touch_bind, if_pos last, given]
        rfl
      · have kept : refGather.step (refEntry dpb list) count.toNat k state =
            (putByte state.1 (k % 4) (refEntry dpb list k), state.2) := if_neg last
        simp only [refPicWrite, read, value_touch_bind, if_neg last, kept]
        rfl
  simp only [refPicListWrite, value_bind, value_pure, rounds]

/-- Luma weights go in pairs; the second one of the last pair may be an old one. -/
def lumaGather : Gather (PredWeight × PredWeight) (PredWeight × PredWeight) PredWeight where
  size := 2
  put pair place weight := if place = 0 then (weight, pair.2) else (pair.1, weight)
  word := id
  rest := id

/-- A weight of a pair. -/
def pairEntry (pair : PredWeight × PredWeight) (place : ℕ) : PredWeight := if place = 0 then pair.1 else pair.2

theorem lumaGather_reads : lumaGather.Reads pairEntry fun _ _ => True where
  size_pos := by decide
  rest _ := trivial
  put_ready _ _ _ := trivial
  put_read {place _} _ _ _ := by
    by_cases first : place = 0 <;> simp [lumaGather, pairEntry, first]
  put_before {place _} _ inside _ before below := by
    have inside : place < 2 := inside
    obtain ⟨rfl, rfl⟩ : place = 1 ∧ before = 0 := by omega
    simp [lumaGather, pairEntry]

def lumaEntry (list : RefList) (i : ℕ) : PredWeight := ⟨list.deltaLumaWeight i, list.lumaOffset i⟩

/-- A weight for one chroma component of a reference. -/
def chromaEntry (list : RefList) (i j : ℕ) : PredWeight := ⟨list.deltaChromaWeight i j, list.chromaOffset i j⟩

theorem value_lumaLoop (l : ListX) (list : RefList) (count : UInt8) (k : ℕ) :
    let state := lumaGather.run (lumaEntry list) count.toNat ({}, {}) k
    (loop (lumaWeightWrite l list count) {} k).value = ⟨state.1.1, state.1.2, state.2⟩ := by
  induction k with
  | zero => rfl
  | succ k ih =>
    dsimp only at ih ⊢
    rw [loop, value_bind, ih, Gather.run_succ]
    generalize lumaGather.run (lumaEntry list) count.toNat ({}, {}) k = state
    rcases Nat.mod_two_eq_zero_or_one k with even | odd
    · simp only [lumaWeightWrite, read, value_touch_bind, Gather.step, lumaGather, lumaEntry, even, ↓reduceIte]
      simp only [Nat.zero_ne_one, false_or, Nat.add_one_sub_one]
      split <;> rfl
    · simp [lumaWeightWrite, read, Gather.step, lumaGather, lumaEntry, odd]

theorem value_chromaLoop (l : ListX) (list : RefList) (k : ℕ) :
    (loop (chromaWeightWrite l list) [] k).value =
      (List.range k).map fun i => (chromaEntry list i 0, chromaEntry list i 1) := by
  induction k with
  | zero => rfl
  | succ k ih =>
    rw [loop, value_bind, ih, List.range_succ, List.map_append]
    rfl

theorem predWeightWord_eq (weights : PredWeight × PredWeight) :
    predWeightWord weights = ofBytes weights.1.deltaWeight.toUInt8 weights.1.offset.toUInt8
      weights.2.deltaWeight.toUInt8 weights.2.offset.toUInt8 := rfl

/-- A weight of a pair is two bytes of its word. -/
theorem wordByte_predWeightWord (weights : PredWeight × PredWeight) {place : ℕ} (inside : place < 2) :
    wordByte (predWeightWord weights) (2 * place) = (pairEntry weights place).deltaWeight.toUInt8 ∧
      wordByte (predWeightWord weights) (2 * place + 1) = (pairEntry weights place).offset.toUInt8 := by
  rw [predWeightWord_eq]
  obtain rfl | rfl : place = 0 ∨ place = 1 := by omega
  · exact ⟨wordByte_ofBytes_zero .., wordByte_ofBytes_one ..⟩
  · exact ⟨wordByte_ofBytes_two .., wordByte_ofBytes_three ..⟩

private theorem or_reverse (a b c d : UInt32) : d ||| c ||| b ||| a = a ||| b ||| c ||| d := by
  rw [UInt32.or_comm _ a, UInt32.or_comm _ b, UInt32.or_comm d c, ← UInt32.or_assoc, ← UInt32.or_assoc]

theorem scalingWord_eq (list : ℕ → UInt8) (first distance : ℕ) :
    scalingWord list first distance =
      ofBytes (list first) (list (first + distance)) (list (first + 2 * distance)) (list (first + 3 * distance)) := by
  rw [scalingWord, or_reverse]
  rfl

/-- The factors of a word are a distance apart in the list. -/
theorem wordByte_scalingWord (list : ℕ → UInt8) (first distance : ℕ) {place : ℕ} (inside : place < 4) :
    wordByte (scalingWord list first distance) place = list (first + place * distance) := by
  rw [scalingWord_eq]
  match place, inside with
  | 0, _ => rw [wordByte_ofBytes_zero, Nat.zero_mul, Nat.add_zero]
  | 1, _ => rw [wordByte_ofBytes_one, Nat.one_mul]
  | 2, _ => rw [wordByte_ofBytes_two]
  | 3, _ => rw [wordByte_ofBytes_three]

theorem length_scalingWords8x8 (list : ℕ → UInt8) : (scalingWords8x8 list).length = 16 := by
  simp [scalingWords8x8]

theorem length_scalingWords4x4 (list : ℕ → UInt8) : (scalingWords4x4 list).length = 4 := by
  simp [scalingWords4x4]

/-- Two words hold a column of a list. -/
theorem getElem?_scalingWords8x8 (list : ℕ → UInt8) {x k : ℕ} (column : x < 8) (half : k < 2) :
    (scalingWords8x8 list)[x * 2 + k]? = some (scalingWord list (x + 4 * k * 8) 8) := by
  rw [scalingWords8x8, getElem?_flatMap_range (by simp) column half]
  simp [half]

theorem getElem?_scalingWords4x4 (list : ℕ → UInt8) {x : ℕ} (column : x < 4) :
    (scalingWords4x4 list)[x]? = some (scalingWord list x 4) := by
  simp [scalingWords4x4, column]

namespace SramJob

variable (job : SramJob)

/-- No table of the controls is longer than its array. -/
structure Fits : Prop where
  dpb : job.decodeParams.numActiveDpbEntries.toNat ≤ 16
  list : ∀ l, (job.numRefIdxActive l).toNat ≤ 16

variable {job}

theorem length_refPicListBurst (l : ListX) :
    (job.refPicListBurst l).values.length = ((job.numRefIdxActive l).toNat + 3) / 4 := by
  rw [refPicListBurst, value_refPicListWrite]
  exact Gather.run_length refGather_reads (by decide)

theorem refPicListBurst_stored (job : SramJob) (l : ListX) :
    refGather.Stored wordByte (refEntry job.decodeParams.dpb (job.sliceParams.list l).refIdx)
      (job.numRefIdxActive l).toNat (job.refPicListBurst l).values := by
  rw [refPicListBurst, value_refPicListWrite]
  exact Gather.run_stored refGather_reads (by decide)

/-- The weights of a list for luma, in pairs. -/
def lumaPairs (job : SramJob) (l : ListX) : List (PredWeight × PredWeight) :=
  (lumaGather.run (lumaEntry (job.sliceParams.list l)) (job.numRefIdxActive l).toNat ({}, {})
    (job.numRefIdxActive l).toNat).2

def lumaBurst (job : SramJob) (l : ListX) : Burst UInt32 :=
  ⟨l.predWeightLumaOffset, (job.lumaPairs l).map predWeightWord⟩

/-- The weights of a list for chroma, one word for each reference. -/
def chromaBurst (job : SramJob) (l : ListX) : Burst UInt32 :=
  ⟨l.predWeightChromaOffset, ((List.range (job.numRefIdxActive l).toNat).map fun i =>
    (chromaEntry (job.sliceParams.list l) i 0, chromaEntry (job.sliceParams.list l) i 1)).map predWeightWord⟩

theorem predWeightBursts_eq (job : SramJob) (l : ListX) :
    job.predWeightBursts l = [job.lumaBurst l, job.chromaBurst l] := by
  simp only [predWeightBursts, predWeightWrite, value_bind, value_pure, value_lumaLoop, value_chromaLoop, lumaBurst,
    lumaPairs, chromaBurst]

theorem lumaBurst_stored (job : SramJob) (l : ListX) :
    lumaGather.Stored pairEntry (lumaEntry (job.sliceParams.list l)) (job.numRefIdxActive l).toNat
      (job.lumaPairs l) :=
  Gather.run_stored lumaGather_reads trivial

theorem refPicListBurst_inside (fits : job.Fits) (l : ListX) :
    (job.refPicListBurst l).Inside l.refPicListOffset (l.refPicListOffset + 0x10) := by
  have few := fits.list l
  have address : (job.refPicListBurst l).address = l.refPicListOffset := rfl
  refine ⟨le_rfl, ?_⟩
  rw [Burst.stop, length_refPicListBurst, address]
  omega

theorem lumaBurst_inside (fits : job.Fits) (l : ListX) :
    (job.lumaBurst l).Inside l.predWeightLumaOffset l.predWeightChromaOffset := by
  have few := fits.list l
  have length : (job.lumaPairs l).length = ((job.numRefIdxActive l).toNat + 1) / 2 :=
    Gather.run_length lumaGather_reads trivial
  have room : l.predWeightLumaOffset + 0x20 = l.predWeightChromaOffset := by cases l <;> rfl
  refine ⟨le_rfl, ?_⟩
  simp only [Burst.stop, lumaBurst, List.length_map, length]
  omega

theorem chromaBurst_inside (fits : job.Fits) (l : ListX) :
    (job.chromaBurst l).Inside l.predWeightChromaOffset (l.predWeightChromaOffset + 0x40) := by
  have few := fits.list l
  refine ⟨le_rfl, ?_⟩
  simp only [Burst.stop, chromaBurst, List.length_map, List.length_range]
  omega

/-- The regions of a list: its entries, its weights for luma and for chroma. -/
theorem listBursts_inside (fits : job.Fits) (l : ListX) :
    (job.listBursts l).Pairwise Burst.Apart ∧ ∀ burst ∈ job.listBursts l,
      burst.Inside l.refPicListOffset (l.refPicListOffset + 0x10) ∨
        burst.Inside l.predWeightLumaOffset (l.predWeightChromaOffset + 0x40) := by
  have entries := refPicListBurst_inside fits l
  have lumaInside := lumaBurst_inside fits l
  have chromaInside := chromaBurst_inside fits l
  have order : l.predWeightLumaOffset ≤ l.predWeightChromaOffset ∧
      l.predWeightChromaOffset + 0x40 ≤ l.refPicListOffset := by cases l <;> decide
  have both : (job.lumaBurst l).Apart (job.chromaBurst l) := lumaInside.apart chromaInside (Or.inl le_rfl)
  have lumaAside : (job.refPicListBurst l).Apart (job.lumaBurst l) := entries.apart lumaInside (Or.inr (by omega))
  have chromaAside : (job.refPicListBurst l).Apart (job.chromaBurst l) := entries.apart chromaInside (Or.inr order.2)
  have lumaWeights : (job.lumaBurst l).Inside l.predWeightLumaOffset (l.predWeightChromaOffset + 0x40) :=
    ⟨lumaInside.1, lumaInside.2.trans (by omega)⟩
  have chromaWeights : (job.chromaBurst l).Inside l.predWeightLumaOffset (l.predWeightChromaOffset + 0x40) :=
    ⟨order.1.trans chromaInside.1, chromaInside.2⟩
  rw [listBursts, predWeightBursts_eq]
  split_ifs
  · simp [both, lumaAside, chromaAside, entries, lumaWeights, chromaWeights]
  · simp [entries]
  · simp

theorem dpbBursts_inside (fits : job.Fits) :
    job.dpbBursts.Pairwise Burst.Apart ∧ ∀ burst ∈ job.dpbBursts, burst.Inside 0x400 0x600 := by
  have few := fits.dpb
  constructor
  · refine List.Pairwise.filterMap _ ?_ List.pairwise_lt_range
    intro i j below first found second found'
    obtain ⟨info, _, rfl⟩ := Option.map_eq_some_iff.mp found
    obtain ⟨info', _, rfl⟩ := Option.map_eq_some_iff.mp found'
    refine Or.inl ?_
    simp only [Burst.stop, frameInfoBurst, frameInfoOffset, frameInfoUnit, List.length_cons, List.length_nil]
    omega
  · intro burst member
    obtain ⟨i, inside, found⟩ := List.mem_filterMap.mp member
    obtain ⟨info, _, rfl⟩ := Option.map_eq_some_iff.mp found
    have below := List.mem_range.mp inside
    simp only [Burst.Inside, Burst.stop, frameInfoBurst, frameInfoOffset, frameInfoUnit, List.length_cons,
      List.length_nil]
    omega

theorem scalingBurst_inside (matrix : ScalingMatrix) : matrix.burst.Inside 0x800 0xbe0 := by
  refine ⟨le_rfl, ?_⟩
  simp [Burst.stop, ScalingMatrix.burst, scalingListsOffset, List.length_flatMap, length_scalingWords8x8,
    length_scalingWords4x4]

theorem outputBurst_inside : (job.frameInfoBurst outputIndex job.outputInfo).Inside 0x600 0x618 := by
  simp [Burst.Inside, Burst.stop, frameInfoBurst, frameInfoOffset, frameInfoUnit, outputIndex]

/-- The scaling factors and the frame infos. -/
theorem frameBursts_inside (fits : job.Fits) :
    ((if job.scalingListEnabled then [job.scalingMatrix.burst] else []) ++ job.dpbBursts ++
        [job.frameInfoBurst outputIndex job.outputInfo]).Pairwise Burst.Apart ∧
      ∀ burst ∈ (if job.scalingListEnabled then [job.scalingMatrix.burst] else []) ++ job.dpbBursts ++
        [job.frameInfoBurst outputIndex job.outputInfo], burst.Inside 0x400 0xc00 := by
  obtain ⟨dpbApart, dpb⟩ := job.dpbBursts_inside fits
  have scaling : ∀ burst ∈ (if job.scalingListEnabled then [job.scalingMatrix.burst] else []),
      burst.Inside 0x800 0xbe0 := by
    intro burst member
    split_ifs at member
    · obtain rfl := List.mem_singleton.mp member
      exact scalingBurst_inside _
    · cases member
  have scalingApart : (if job.scalingListEnabled then [job.scalingMatrix.burst] else []).Pairwise Burst.Apart := by
    split_ifs <;> simp
  have output := job.outputBurst_inside
  constructor
  · refine List.pairwise_append.mpr ⟨List.pairwise_append.mpr ⟨scalingApart, dpbApart, ?_⟩, by simp, ?_⟩
    · intro burst member other member'
      exact (scaling burst member).apart (dpb other member') (Or.inr (by decide))
    · intro burst member other member'
      obtain rfl := List.mem_singleton.mp member'
      rcases List.mem_append.mp member with member | member
      · exact (scaling burst member).apart output (Or.inr (by decide))
      · exact (dpb burst member).apart output (Or.inl le_rfl)
  · intro burst member
    rcases List.mem_append.mp member with member | member
    · rcases List.mem_append.mp member with member | member
      · exact ⟨(by decide : 0x400 ≤ 0x800).trans (scaling burst member).1, (scaling burst member).2.trans (by decide)⟩
      · exact ⟨(dpb burst member).1, (dpb burst member).2.trans (by decide)⟩
    · obtain rfl := List.mem_singleton.mp member
      exact ⟨(by decide : 0x400 ≤ 0x600).trans output.1, output.2.trans (by decide)⟩

theorem bursts_apart (fits : job.Fits) : job.bursts.Pairwise Burst.Apart := by
  obtain ⟨frameApart, frame⟩ := job.frameBursts_inside fits
  obtain ⟨apart0, list0⟩ := job.listBursts_inside fits .l0
  obtain ⟨apart1, list1⟩ := job.listBursts_inside fits .l1
  refine List.pairwise_append.mpr ⟨List.pairwise_append.mpr ⟨frameApart, apart0, ?_⟩, apart1, ?_⟩
  · intro burst member other member'
    rcases list0 other member' with inside | inside
    · exact (frame burst member).apart inside (Or.inl le_rfl)
    · exact (frame burst member).apart inside (Or.inr (by decide))
  · intro burst member other member'
    rcases List.mem_append.mp member with member | member
    · rcases list1 other member' with inside | inside
      · exact (frame burst member).apart inside (Or.inl (by decide))
      · exact (frame burst member).apart inside (Or.inr (by decide))
    · rcases list0 burst member with inside | inside <;> rcases list1 other member' with inside' | inside'
      · exact inside.apart inside' (Or.inl le_rfl)
      · exact inside.apart inside' (Or.inr (by decide))
      · exact inside.apart inside' (Or.inl (by decide))
      · exact inside.apart inside' (Or.inl le_rfl)

/-- The frame info of a buffer at an index, with one picture order count. -/
structure HasFrameInfo (job : SramJob) (sram : Port UInt32) (index buffer : ℕ) (fieldPic : Bool) (poc : UInt32) :
    Prop where
  topPicOrderCnt : sram.word (0x400 + 0x20 * index) = poc
  bottomPicOrderCnt : sram.word (0x400 + 0x20 * index + 4) = poc
  mvColTop : sram.word (0x400 + 0x20 * index + 8) = sramDataAddrBase (job.mvColBufDma buffer)
  mvColBottom : sram.word (0x400 + 0x20 * index + 12) =
    sramDataAddrBase (job.mvColBufDma buffer + if fieldPic then job.mvColBufSize buffer / 2 else 0)
  luma : sram.word (0x400 + 0x20 * index + 16) = sramDataAddrBase (job.pictureDma buffer).1
  chroma : sram.word (0x400 + 0x20 * index + 20) = sramDataAddrBase (job.pictureDma buffer).2

/-- A weight and its offset, in two bytes. -/
def HasWeight (sram : Port UInt32) (address : ℕ) (weight : PredWeight) : Prop :=
  sramByte sram address = weight.deltaWeight.toUInt8 ∧ sramByte sram (address + 1) = weight.offset.toUInt8

/-- The lists of a scaling matrix, by columns. -/
structure HasScaling (sram : Port UInt32) (matrix : ScalingMatrix) : Prop where
  list8x8 : ∀ i < 6, ∀ x < 8, ∀ y < 8,
    sramByte sram (0x800 + (64 * i + 8 * x + y)) = matrix.scalingList8x8 i (8 * y + x)
  list32x32 : ∀ i < 2, ∀ x < 8, ∀ y < 8,
    sramByte sram (0x980 + (64 * i + 8 * x + y)) = matrix.scalingList32x32 i (8 * y + x)
  list16x16 : ∀ i < 6, ∀ x < 8, ∀ y < 8,
    sramByte sram (0xa00 + (64 * i + 8 * x + y)) = matrix.scalingList16x16 i (8 * y + x)
  list4x4 : ∀ i < 6, ∀ x < 4, ∀ y < 4,
    sramByte sram (0xb80 + (16 * i + 4 * x + y)) = matrix.scalingList4x4 i (4 * y + x)

/-- The job has no picture for an index of the DPB. -/
def NoPicture (job : SramJob) (i : ℕ) : Prop :=
  i < job.decodeParams.numActiveDpbEntries.toNat → job.pictureFind (job.decodeParams.dpb i).timestamp = none

/-- What the hardware finds in the SRAM for a slice. A picture that is not found leaves the words of an earlier job. -/
structure Programmed (job : SramJob) (before sram : Port UInt32) : Prop where
  dpb : ∀ i < job.decodeParams.numActiveDpbEntries.toNat, ∀ buffer,
    job.pictureFind (job.decodeParams.dpb i).timestamp = some buffer →
      job.HasFrameInfo sram i buffer (job.decodeParams.dpb i).fieldPic (job.decodeParams.dpb i).picOrderCntVal.toUInt32
  missing : ∀ i < 16, job.NoPicture i → ∀ k < 8,
    sram.word (0x400 + 0x20 * i + 4 * k) = before.word (0x400 + 0x20 * i + 4 * k)
  output : job.HasFrameInfo sram 16 job.destination (job.sliceParams.picStruct ≠ 0)
    job.sliceParams.slicePicOrderCnt.toUInt32
  refPic : ∀ l, job.usesList l → ∀ i < (job.numRefIdxActive l).toNat,
    sramByte sram (l.refPicListOffset + i) = refEntry job.decodeParams.dpb (job.sliceParams.list l).refIdx i
  luma : ∀ l, job.usesList l → job.weightsList l → ∀ i < (job.numRefIdxActive l).toNat,
    HasWeight sram (l.predWeightLumaOffset + 2 * i) (lumaEntry (job.sliceParams.list l) i)
  chroma : ∀ l, job.usesList l → job.weightsList l → ∀ i < (job.numRefIdxActive l).toNat, ∀ j < 2,
    HasWeight sram (l.predWeightChromaOffset + (4 * i + 2 * j)) (chromaEntry (job.sliceParams.list l) i j)
  scaling : job.scalingListEnabled → HasScaling sram job.scalingMatrix

theorem hasFrameInfo_of_written {sram : Port UInt32} {index buffer : ℕ} {fieldPic : Bool} {poc : UInt32}
    (written : ∀ place value,
      (job.frameInfoBurst index (frameInfoWriteSingle buffer fieldPic poc poc)).values[place]? = some value →
        sram.word (0x400 + 0x20 * index + 4 * place) = value) : job.HasFrameInfo sram index buffer fieldPic poc where
  topPicOrderCnt := written 0 _ rfl
  bottomPicOrderCnt := (written 1 _ rfl).trans (ite_self _)
  mvColTop := written 2 _ rfl
  mvColBottom := by
    refine (written 3 _ rfl).trans (congrArg sramDataAddrBase ?_)
    cases fieldPic <;> rfl
  luma := written 4 _ rfl
  chroma := written 5 _ rfl

/-- Lists of 8×8 factors behind a start are read by columns. -/
theorem sramByte_of_words8x8 {sram : Port UInt32} {base count : ℕ} {lists : ℕ → ℕ → UInt8} (aligned : base % 4 = 0)
    (written : ∀ index value, ((List.range count).flatMap fun i => scalingWords8x8 (lists i))[index]? = some value →
      sram.word (base + 4 * index) = value) :
    ∀ i < count, ∀ x < 8, ∀ y < 8, sramByte sram (base + (64 * i + 8 * x + y)) = lists i (8 * y + x) := by
  intro i part x column y row
  obtain ⟨k, b, small, rfl⟩ : ∃ k b, b < 4 ∧ y = 4 * k + b := ⟨y / 4, y % 4, Nat.mod_lt _ (by decide), by omega⟩
  have half : k < 2 := by omega
  have found := getElem?_scalingWords8x8 (lists i) column half
  have inside : x * 2 + k < 16 := by omega
  rw [← getElem?_flatMap_range (fun i => length_scalingWords8x8 (lists i)) part inside] at found
  have quotient : (64 * i + 8 * x + (4 * k + b)) / 4 = i * 16 + (x * 2 + k) := by omega
  have remainder : (64 * i + 8 * x + (4 * k + b)) % 4 = b := by omega
  have place : x + 4 * k * 8 + b * 8 = 8 * (4 * k + b) + x := by omega
  rw [sramByte_add sram aligned, quotient, remainder, written _ _ found, wordByte_scalingWord _ _ _ small, place]

/-- Lists of 4×4 factors behind a start are read by columns. -/
theorem sramByte_of_words4x4 {sram : Port UInt32} {base count : ℕ} {lists : ℕ → ℕ → UInt8} (aligned : base % 4 = 0)
    (written : ∀ index value, ((List.range count).flatMap fun i => scalingWords4x4 (lists i))[index]? = some value →
      sram.word (base + 4 * index) = value) :
    ∀ i < count, ∀ x < 4, ∀ y < 4, sramByte sram (base + (16 * i + 4 * x + y)) = lists i (4 * y + x) := by
  intro i part x column y row
  have found := getElem?_scalingWords4x4 (lists i) column
  rw [← getElem?_flatMap_range (fun i => length_scalingWords4x4 (lists i)) part column] at found
  have quotient : (16 * i + 4 * x + y) / 4 = i * 4 + x := by omega
  have remainder : (16 * i + 4 * x + y) % 4 = y := by omega
  have place : x + y * 4 = 4 * y + x := by omega
  rw [sramByte_add sram aligned, quotient, remainder, written _ _ found, wordByte_scalingWord _ _ _ row, place]

private theorem found_left {α : Type} {xs : List α} (ys : List α) {index : ℕ} {value : α}
    (found : xs[index]? = some value) : (xs ++ ys)[index]? = some value := by
  rw [List.getElem?_append_left (List.getElem?_eq_some_iff.mp found).1, found]

private theorem found_right {α : Type} (xs : List α) {ys : List α} {length index : ℕ} {value : α}
    (length_eq : xs.length = length) (found : ys[index]? = some value) :
    (xs ++ ys)[length + index]? = some value := by
  rw [List.getElem?_append_right (by omega), length_eq, Nat.add_sub_cancel_left, found]

theorem hasScaling_of_written {sram : Port UInt32} {matrix : ScalingMatrix}
    (written : ∀ index value, matrix.burst.values[index]? = some value → sram.word (0x800 + 4 * index) = value) :
    HasScaling sram matrix := by
  have length (lists : ℕ → ℕ → UInt8) (count : ℕ) :
      ((List.range count).flatMap fun i => scalingWords8x8 (lists i)).length = count * 16 := by
    simp [List.length_flatMap, length_scalingWords8x8]
  constructor
  · refine sramByte_of_words8x8 (by decide) fun index value found => ?_
    exact written index value (found_left _ (found_left _ (found_left _ found)))
  · refine sramByte_of_words8x8 (by decide) fun index value found => ?_
    have place := written _ value (found_left _ (found_left _ (found_right _ (length matrix.scalingList8x8 6) found)))
    rwa [show 0x800 + 4 * (6 * 16 + index) = 0x980 + 4 * index by omega] at place
  · refine sramByte_of_words8x8 (by decide) fun index value found => ?_
    have place := written _ value (found_left _ (found_right _
      (by rw [List.length_append, length, length]) found))
    rwa [show 0x800 + 4 * (6 * 16 + 2 * 16 + index) = 0xa00 + 4 * index by omega] at place
  · refine sramByte_of_words4x4 (by decide) fun index value found => ?_
    have place := written _ value (found_right _
      (by rw [List.length_append, List.length_append, length, length, length]) found)
    rwa [show 0x800 + 4 * (6 * 16 + 2 * 16 + 6 * 16 + index) = 0xb80 + 4 * index by omega] at place

/-- A list that is used is among the bursts of the job. -/
theorem mem_bursts_of_list {l : ListX} {burst : Burst UInt32} (member : burst ∈ job.listBursts l) :
    burst ∈ job.bursts := by
  cases l with
  | l0 => exact List.mem_append_left _ (List.mem_append_right _ member)
  | l1 => exact List.mem_append_right _ member

/-- The factors for the DC coefficients are the bytes of two registers. -/
theorem dcCoef_bytes (matrix : ScalingMatrix) :
    (∀ i < 2, wordByte matrix.dcCoef0 i = matrix.scalingListDcCoef16x16 i ∧
        wordByte matrix.dcCoef0 (i + 2) = matrix.scalingListDcCoef32x32 i) ∧
      ∀ i < 4, wordByte matrix.dcCoef1 i = matrix.scalingListDcCoef16x16 (i + 2) := by
  have first : matrix.dcCoef0 = ofBytes (matrix.scalingListDcCoef16x16 0) (matrix.scalingListDcCoef16x16 1)
      (matrix.scalingListDcCoef32x32 0) (matrix.scalingListDcCoef32x32 1) := by
    rw [ScalingMatrix.dcCoef0, or_reverse, UInt32.shiftLeft_zero]
    rfl
  have second : matrix.dcCoef1 = ofBytes (matrix.scalingListDcCoef16x16 2) (matrix.scalingListDcCoef16x16 3)
      (matrix.scalingListDcCoef16x16 4) (matrix.scalingListDcCoef16x16 5) := by
    rw [ScalingMatrix.dcCoef1, or_reverse, UInt32.shiftLeft_zero]
    rfl
  rw [first, second]
  constructor
  · intro i inside
    match i, inside with
    | 0, _ => exact ⟨wordByte_ofBytes_zero .., wordByte_ofBytes_two ..⟩
    | 1, _ => exact ⟨wordByte_ofBytes_one .., wordByte_ofBytes_three ..⟩
  · intro i inside
    match i, inside with
    | 0, _ => exact wordByte_ofBytes_zero ..
    | 1, _ => exact wordByte_ofBytes_one ..
    | 2, _ => exact wordByte_ofBytes_two ..
    | 3, _ => exact wordByte_ofBytes_three ..

/-- A word of weights behind a start, read back. -/
theorem hasWeight_of_word {sram : Port UInt32} {base word place : ℕ} {weights : PredWeight × PredWeight}
    (aligned : base % 4 = 0) (inside : place < 2)
    (written : sram.word (base + 4 * word) = predWeightWord weights) :
    HasWeight sram (base + (4 * word + 2 * place)) (pairEntry weights place) := by
  obtain ⟨weight, offset⟩ := wordByte_predWeightWord weights inside
  have bytes : (4 * word + 2 * place) / 4 = word ∧ (4 * word + 2 * place) % 4 = 2 * place ∧
      (4 * word + 2 * place + 1) / 4 = word ∧ (4 * word + 2 * place + 1) % 4 = 2 * place + 1 := by omega
  obtain ⟨quotient, remainder, quotient', remainder'⟩ := bytes
  constructor
  · rw [sramByte_add sram aligned, quotient, remainder, written, weight]
  · rw [Nat.add_assoc, sramByte_add sram aligned, quotient', remainder', written, offset]

/-- No burst goes to the frame info of a picture that is not found. -/
theorem outside_of_noPicture (fits : job.Fits) {i k : ℕ} (none : job.NoPicture i) (inside : i < 16) (part : k < 8) :
    ∀ burst ∈ job.bursts, 0x400 + 0x20 * i + 4 * k < burst.address ∨ burst.stop ≤ 0x400 + 0x20 * i + 4 * k := by
  have list (l : ListX) : ∀ burst ∈ job.listBursts l,
      0x400 + 0x20 * i + 4 * k < burst.address ∨ burst.stop ≤ 0x400 + 0x20 * i + 4 * k := by
    intro burst member
    have far : 0xc00 ≤ l.refPicListOffset ∧ l.predWeightChromaOffset + 0x40 ≤ 0x400 := by cases l <;> decide
    rcases (job.listBursts_inside fits l).2 burst member with region | region <;> simp only [Burst.Inside] at region <;>
      omega
  intro burst member
  simp only [bursts, List.append_assoc, List.mem_append] at member
  rcases member with scaling | dpb | output | list0 | list1
  · split_ifs at scaling
    · obtain rfl := List.mem_singleton.mp scaling
      have region := (scalingBurst_inside job.scalingMatrix).1
      omega
    · cases scaling
  · obtain ⟨j, active, found⟩ := List.mem_filterMap.mp dpb
    obtain ⟨info, picture, rfl⟩ := Option.map_eq_some_iff.mp found
    have other : j ≠ i := by
      rintro rfl
      simp [dpbInfo, none (List.mem_range.mp active)] at picture
    simp only [Burst.stop, frameInfoBurst, frameInfoOffset, frameInfoUnit, List.length_cons, List.length_nil]
    omega
  · obtain rfl := List.mem_singleton.mp output
    have region := job.outputBurst_inside.1
    omega
  · exact list .l0 burst list0
  · exact list .l1 burst list1

/-- After a job the SRAM holds what the slice needs, whatever it held before. -/
theorem sram_programmed (job : SramJob) (fits : job.Fits) (before : Port UInt32) :
    job.Programmed before (before.after (job.bursts.flatMap Burst.writes)) := by
  have kept (address : ℕ) (outside : ∀ burst ∈ job.bursts, address < burst.address ∨ burst.stop ≤ address) :
      (before.after (job.bursts.flatMap Burst.writes)).word address = before.word address :=
    before.after_bursts_frame job.bursts outside
  have written {burst : Burst UInt32} (member : burst ∈ job.bursts) (index : ℕ) (value : UInt32)
      (found : burst.values[index]? = some value) :
      (before.after (job.bursts.flatMap Burst.writes)).word (burst.address + 4 * index) = value :=
    before.after_bursts_written (bursts_apart fits) member found
  generalize before.after (job.bursts.flatMap Burst.writes) = sram at written kept
  constructor
  case dpb =>
    intro i active buffer found
    apply hasFrameInfo_of_written
    refine written ?_
    refine List.mem_append_left _ (List.mem_append_left _ (List.mem_append_left _ (List.mem_append_right _ ?_)))
    refine List.mem_filterMap.mpr ⟨i, List.mem_range.mpr active, ?_⟩
    simp [dpbInfo, found]
  case missing =>
    intro i inside none k part
    exact kept _ (outside_of_noPicture fits none inside part)
  case output =>
    apply hasFrameInfo_of_written
    refine written ?_
    exact List.mem_append_left _ (List.mem_append_left _ (List.mem_append_right _ (List.mem_singleton_self _)))
  case refPic =>
    intro l used i active
    have member : job.refPicListBurst l ∈ job.listBursts l := by simp [listBursts, used]
    obtain ⟨word, found, entry⟩ := job.refPicListBurst_stored l i active
    rw [← entry, sramByte_add sram (by cases l <;> decide)]
    congr 1
    exact written (mem_bursts_of_list member) _ _ found
  case luma =>
    intro l used weights i active
    have member : job.lumaBurst l ∈ job.listBursts l := by
      simp [listBursts, used, weights, predWeightBursts_eq]
    obtain ⟨pair, found, entry⟩ := job.lumaBurst_stored l i active
    have word := written (mem_bursts_of_list member) _ _ (by rw [lumaBurst, List.getElem?_map, found]; rfl)
    have place : 2 * i = 4 * (i / 2) + 2 * (i % 2) := by omega
    rw [place, ← entry]
    exact hasWeight_of_word (by cases l <;> decide) (Nat.mod_lt _ (by decide)) word
  case chroma =>
    intro l used weights i active j component
    have member : job.chromaBurst l ∈ job.listBursts l := by
      simp [listBursts, used, weights, predWeightBursts_eq]
    have word := written (mem_bursts_of_list member) i _
      (by rw [chromaBurst, List.getElem?_map, List.getElem?_map, List.getElem?_range active]; rfl)
    have entry : pairEntry (chromaEntry (job.sliceParams.list l) i 0, chromaEntry (job.sliceParams.list l) i 1) j =
        chromaEntry (job.sliceParams.list l) i j := by
      obtain rfl | rfl : j = 0 ∨ j = 1 := by omega
      · rfl
      · rfl
    rw [← entry]
    exact hasWeight_of_word (by cases l <;> decide) component word
  case scaling =>
    intro enabled
    refine hasScaling_of_written (written ?_)
    refine List.mem_append_left _ (List.mem_append_left _ (List.mem_append_left _ (List.mem_append_left _ ?_)))
    simp [enabled]

/-- A B slice with three references in each list and weights for both. -/
def weightedB : SramJob where
  toJob :=
    let pps := { smallPps false false [0] [0] with weightedBipred := true }
    { smallJob pps 0 sliceTypeB [1, 0, 1] [] with pictureFind := some }
  scalingListEnabled := true
  scalingMatrix := ⟨fun _ _ => 16, fun _ _ => 16, fun _ _ => 16, fun _ _ => 16, fun _ => 16, fun _ => 16⟩
  pictureDma buffer := (0x100000 * buffer, 0x100000 * buffer + 0x80000)
  mvColBufDma buffer := 0x40000000 + 0x10000 * buffer
  mvColBufSize _ := 0x8000

theorem sram_programmed_weighted :
    weightedB.Programmed ⟨0, fun _ => 0⟩ (Port.after ⟨0, fun _ => 0⟩ (weightedB.bursts.flatMap Burst.writes)) :=
  sram_programmed weightedB ⟨by decide, fun l => by cases l <;> decide⟩ _

end SramJob

end H618Vpu.DecH265
