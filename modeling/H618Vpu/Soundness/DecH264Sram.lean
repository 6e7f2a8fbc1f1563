import H618Vpu.Model.DecH264Sram
import H618Vpu.Soundness.DecH264Bounds
import H618Vpu.Soundness.DecH264Slots

/-! # The SRAM of an H.264 slice

The tables of a job lie apart, so they are read back whatever was in the SRAM before. In a run that keeps its slots
apart, an entry of a reference list, followed through the frame list, leads to the picture it refers to.
-/

namespace H618Vpu.DecH264

open Bits Machine Touching

/-- The weights of one list, as words. -/
def WeightFactors.words (factors : WeightFactors) : List UInt32 :=
  ((List.range 32).map fun j => weightWord (factors.lumaOffset j) (factors.lumaWeight j)) ++
    (List.range 32).flatMap fun j => (List.range 2).map fun k =>
      weightWord (factors.chromaOffset j k) (factors.chromaWeight j k)

theorem value_factorsWrite (job : WeightedJob) (i : ℕ) (sram : List UInt32) :
    (factorsWrite job i sram).value = sram ++ (job.weightFactors i).words := by
  have luma : (loop (lumaWrite i (job.weightFactors i)) sram 32).value = _ :=
    value_loop_append (fun _ _ => rfl) sram 32
  have chroma (start : List UInt32) : (loop (fun j sram => loop (chromaWrite i (job.weightFactors i) j) sram 2) start
      32).value = _ :=
    value_loop_append (fun _ before => value_loop_append (fun _ _ => rfl) before 2) start 32
  rw [factorsWrite, read, value_touch_bind, value_bind, luma, chroma, List.append_assoc]
  simp only [WeightFactors.words, List.map_eq_flatMap, read, value_touch]

theorem value_writePredWeightTable (job : WeightedJob) :
    job.writePredWeightTable.value = (List.range 2).flatMap fun i => (job.weightFactors i).words :=
  (value_loop_append (value_factorsWrite job) [] 2).trans (List.nil_append _)

theorem length_words (factors : WeightFactors) : factors.words.length = 96 := by
  simp [WeightFactors.words, List.length_flatMap]

/-- A word of the weight table has a weight in its lower half and an offset in its upper half, nine bits each. -/
def HasWeight (word : UInt32) (offset weight : Int16) : Prop :=
  (wordField word 0 9 : ℤ) = weight.toInt % 2 ^ 9 ∧ (wordField word 16 9 : ℤ) = offset.toInt % 2 ^ 9

/-- The lowest bits of a number that is extended to a word. -/
theorem toNat_low (value : Int16) : ((value.toInt32.toUInt32 &&& 0x1ff).toNat : ℤ) = value.toInt % 2 ^ 9 := by
  have masked : (value.toInt32.toUInt32 &&& 0x1ff).toNat = value.toInt32.toUInt32.toNat % 2 ^ 9 := by
    rw [UInt32.toNat_and]
    exact Nat.and_two_pow_sub_one_eq_mod _ 9
  have signed : value.toInt = (value.toInt32.toUInt32.toNat : ℤ).bmod (2 ^ 32) := by
    rw [← Int16.toInt_toInt32]
    exact BitVec.toInt_eq_toNat_bmod _
  rw [masked, signed, Int.bmod_def]
  split <;> omega

theorem hasWeight_weightWord (offset weight : Int16) : HasWeight (weightWord offset weight) offset weight := by
  have low := toNat_low weight
  have high := toNat_low offset
  have lowSmall : (weight.toInt32.toUInt32 &&& 0x1ff).toNat < 2 ^ 9 := by omega
  have highSmall : (offset.toInt32.toUInt32 &&& 0x1ff).toNat < 2 ^ 9 := by omega
  have sum : (weightWord offset weight).toNat =
      (weight.toInt32.toUInt32 &&& 0x1ff).toNat + (offset.toInt32.toUInt32 &&& 0x1ff).toNat * 2 ^ 16 :=
    toNat_shiftLeft_or (lowSmall.trans (by decide)) (by decide) (by simp only [UInt32.reduceToNat]; omega)
  rw [HasWeight, ← low, ← high, wordField, wordField, sum]
  omega

variable {dec : Decoder} {config : Config} {job : SramJob} {program : Program} {weights : Option (List UInt32)}

/-- A job that is programmed, with its weights if the slice has them. -/
theorem jobConfigureAccess_ok {job : WeightedJob}
    (configured : (dec.jobConfigureAccess config job).value.2 = .ok (program, weights)) :
    (dec.jobConfigure config job.toJob).2 = .ok program ∧
      weights = if job.PredWeightsRequired then some job.writePredWeightTable.value else none := by
  constructor
  · rw [← Decoder.value_jobConfigure dec config job]
    change (dec.jobConfigureAccess config job).value.2.map Prod.fst = _
    rw [configured]
    rfl
  · rw [Decoder.jobConfigureAccess, value_bind, Decoder.value_writeFrameList] at configured
    cases written : dec.writeFrameList config job.toJob with
    | mk dec frames =>
      cases frames with
      | error error =>
        rw [written] at configured
        cases configured
      | ok frames =>
        rw [written] at configured
        have same := (Prod.mk.inj (Except.ok.inj configured)).2
        simp only [Decoder.predWeights] at same
        rw [← same]
        split <;> rfl

theorem length_writeRefList (dec : Decoder) (config : Config) (job : Job) (list : RefList) :
    (dec.writeRefList config job list).length ≤ 32 := by
  simp only [Decoder.writeRefList, List.length_take]
  exact (Nat.min_le_left ..).trans (Nat.min_le_right ..)

/-- The reference list of a program. -/
def Program.refList (program : Program) : ListX → Option (List UInt8)
  | .l0 => program.refList0
  | .l1 => program.refList1

def Job.refList (job : Job) : ListX → RefList
  | .l0 => job.refList0
  | .l1 => job.refList1

/-- The slice predicts from the list. -/
def Job.UsesList (job : Job) : ListX → Prop
  | .l0 => job.sliceType = .p ∨ job.sliceType = .sp ∨ job.sliceType = .b
  | .l1 => job.sliceType = .b

/-- The reference lists of a job that is programmed. -/
theorem refList_of_configured {job : Job} (configured : (dec.jobConfigure config job).2 = .ok program) (l : ListX) :
    (job.UsesList l →
        program.refList l = some ((dec.jobConfigure config job).1.writeRefList config job (job.refList l))) ∧
      ∀ bytes ∈ program.refList l, bytes.length ≤ 32 := by
  obtain ⟨frames, -, rfl⟩ := Decoder.jobConfigure_ok configured
  cases l with
  | l0 =>
    refine ⟨fun used => if_pos used, fun bytes there => ?_⟩
    simp only [Program.refList, Decoder.setParams, Option.mem_def] at there
    split at there
    · obtain rfl := Option.some.inj there
      exact length_writeRefList ..
    · cases there
  | l1 =>
    refine ⟨fun used => if_pos used, fun bytes there => ?_⟩
    simp only [Program.refList, Decoder.setParams, Option.mem_def] at there
    split at there
    · obtain rfl := Option.some.inj there
      exact length_writeRefList ..
    · cases there

/-- The bursts of a job, whether it writes them or not. -/
def allBursts (job : SramJob) (program : Program) (weights : Option (List UInt32)) : List (Burst UInt32) :=
  { job with scalingMatrixPresent := true }.writeScalingLists ++
    [program.frames.burst, writeSram sramPredWeightTable (weights.getD []),
      ListX.l0.burst (program.refList0.getD []), ListX.l1.burst (program.refList1.getD [])]

theorem toList_map_sublist {α β : Type} (f : α → β) (default : α) (value : Option α) :
    (value.map f).toList.Sublist [f (value.getD default)] := by
  cases value <;> simp

theorem sramBursts_eq
    (configured : (dec.jobConfigureAccess config job.toWeightedJob).value.2 = .ok (program, weights)) :
    dec.sramBursts config job = job.writeScalingLists ++ program.frames.burst :: program.bursts weights := by
  rw [Decoder.sramBursts, configured]

theorem sramBursts_sublist
    (configured : (dec.jobConfigureAccess config job.toWeightedJob).value.2 = .ok (program, weights)) :
    (dec.sramBursts config job).Sublist (allBursts job program weights) := by
  rw [sramBursts_eq configured, allBursts, Program.bursts]
  refine List.Sublist.append ?_ (List.Sublist.cons_cons _ ?_)
  · cases present : job.scalingMatrixPresent <;> simp [SramJob.writeScalingLists, present]
  · exact ((toList_map_sublist _ [] _).append (toList_map_sublist _ [] _)).append (toList_map_sublist _ [] _)

theorem allBursts_apart (weightsFit : ∀ words ∈ weights, words.length = 192)
    (listsFit : ∀ l, ∀ bytes ∈ program.refList l, bytes.length ≤ 32) :
    (allBursts job program weights).Pairwise Burst.Apart := by
  have table : (weights.getD []).length ≤ 192 := by
    cases weights with
    | none => exact Nat.zero_le _
    | some words => exact (weightsFit words rfl).le
  have list (l : ListX) : ((program.refList l).getD []).length ≤ 32 := by
    cases there : program.refList l with
    | none => exact Nat.zero_le _
    | some bytes => exact listsFit l bytes there
  have list0 : (program.refList0.getD []).length ≤ 32 := list .l0
  have list1 : (program.refList1.getD []).length ≤ 32 := list .l1
  have frames : ((List.range frameNum).flatMap fun slot => (program.frames.picList slot).words).length = 144 := by
    simp [List.length_flatMap, SramRefPic.words, frameNum]
  simp only [allBursts, SramJob.writeScalingLists, Bool.not_true, Bool.false_eq_true, if_false, List.cons_append,
    List.nil_append, List.pairwise_cons, List.mem_cons, List.not_mem_nil, or_false, forall_eq_or_imp, forall_eq,
    Burst.Apart, Burst.stop, writeSram, ListX.burst, FrameListWrites.burst, length_bytesWords, frames]
  simp only [sramScalingList8x8, sramScalingList4x4, sramFramebufferList, sramPredWeightTable, ListX.sramRefList,
    List.length_map, List.length_flatMap, List.length_range]
  norm_num
  omega

/-- A slot of the frame list in the SRAM. -/
def frameAt (sram : Port UInt32) (slot : ℕ) : SramRefPic :=
  let word k := sram.word (0x400 + 0x20 * slot + 4 * k)
  ⟨word 0, word 1, word 2, word 3, word 4, word 5, word 6⟩

/-- The frame list in the SRAM, with the register of the output. -/
def sramFrames (sram : Port UInt32) (outputFrameIdx : ℕ) : FrameListWrites := ⟨frameAt sram, outputFrameIdx⟩

/-- The scaling lists in the SRAM. -/
structure HasScaling (sram : Port UInt32) (matrix : ScalingMatrix) : Prop where
  list8x8 : ∀ list < 2, ∀ i < 64, sramByte sram (0x800 + 0x40 * list + i) = matrix.scalingList8x8 list i
  list4x4 : ∀ list < 6, ∀ i < 16, sramByte sram (0x880 + (0x10 * list + i)) = matrix.scalingList4x4 list i

/-- The weights of both lists in the SRAM. -/
structure HasWeights (sram : Port UInt32) (factors : ℕ → WeightFactors) : Prop where
  luma : ∀ list < 2, ∀ i < 32,
    HasWeight (sram.word (4 * (96 * list + i))) ((factors list).lumaOffset i) ((factors list).lumaWeight i)
  chroma : ∀ list < 2, ∀ i < 32, ∀ j < 2,
    HasWeight (sram.word (4 * (96 * list + (32 + (2 * i + j))))) ((factors list).chromaOffset i j)
      ((factors list).chromaWeight i j)

/-- A job that is programmed is what the SRAM holds, whatever it held before. -/
structure Holds (job : SramJob) (program : Program) (sram : Port UInt32) : Prop where
  frames : ∀ slot < frameNum, frameAt sram slot = program.frames.picList slot
  lists : ∀ l, ∀ bytes ∈ program.refList l, ∀ i, ∀ inside : i < bytes.length,
    sramByte sram (4 * l.sramRefList + i) = bytes[i]
  weights : job.PredWeightsRequired → HasWeights sram job.weightFactors
  scaling : job.scalingMatrixPresent → HasScaling sram job.scalingMatrix

theorem hasWeights_of_written {sram : Port UInt32} {factors : ℕ → WeightFactors}
    (written : ∀ index value, ((List.range 2).flatMap fun i => (factors i).words)[index]? = some value →
      sram.word (4 * index) = value) : HasWeights sram factors := by
  have word (list : ℕ) (inside : list < 2) (r : ℕ) (small : r < 96) (offset weight : Int16)
      (found : (factors list).words[r]? = some (weightWord offset weight)) :
      HasWeight (sram.word (4 * (96 * list + r))) offset weight := by
    rw [written (96 * list + r) (weightWord offset weight)]
    · exact hasWeight_weightWord offset weight
    · rw [Nat.mul_comm, getElem?_flatMap_range (fun i => length_words (factors i)) inside small, found]
  constructor
  · intro list inside i reference
    refine word list inside i (by omega) _ _ ?_
    rw [WeightFactors.words, List.getElem?_append_left (by simpa using reference), List.getElem?_map,
      List.getElem?_range reference, Option.map_some]
  · intro list inside i reference j component
    refine word list inside _ (by omega) _ _ ?_
    rw [WeightFactors.words, List.getElem?_append_right (by simp), List.length_map, List.length_range,
      Nat.add_sub_cancel_left, Nat.mul_comm 2 i, getElem?_flatMap_range (by simp) reference component,
      List.getElem?_map, List.getElem?_range component, Option.map_some]

theorem frameAt_of_written {sram : Port UInt32} {picList : ℕ → SramRefPic}
    (written : ∀ index value, ((List.range frameNum).flatMap fun slot => (picList slot).words)[index]? = some value →
      sram.word (0x400 + 4 * index) = value) : ∀ slot < frameNum, frameAt sram slot = picList slot := by
  intro slot inside
  have sized (slot : ℕ) : (picList slot).words.length = 8 := rfl
  have word (k : ℕ) (part : k < 8) (value : UInt32) (found : (picList slot).words[k]? = some value) :
      sram.word (0x400 + 0x20 * slot + 4 * k) = value := by
    have place : 0x400 + 0x20 * slot + 4 * k = 0x400 + 4 * (slot * 8 + k) := by omega
    rw [place, written _ value]
    rw [getElem?_flatMap_range sized inside part, found]
  simp only [frameAt, word 0 (by decide) _ rfl, word 1 (by decide) _ rfl, word 2 (by decide) _ rfl,
    word 3 (by decide) _ rfl, word 4 (by decide) _ rfl, word 5 (by decide) _ rfl, word 6 (by decide) _ rfl]

/-- Bytes that were written are read back from their offset on. -/
theorem sramByte_of_writeSram {sram : Port UInt32} {off : ℕ} {bytes : List UInt8}
    (written : let burst := writeSram off (bytesWords bytes)
      ∀ index value, burst.values[index]? = some value → sram.word (burst.address + 4 * index) = value)
    {i : ℕ} {byte : UInt8} (found : bytes[i]? = some byte) : sramByte sram (4 * off + i) = byte := by
  obtain ⟨inside, rfl⟩ := List.getElem?_eq_some_iff.mp found
  rw [Nat.mul_comm]
  exact sramByte_of_bytesWords (Nat.mul_mod_left ..) written inside

/-- Whatever was in the SRAM before, after a job that is programmed it holds the tables of the job. -/
theorem holds_of_configured
    (configured : (dec.jobConfigureAccess config job.toWeightedJob).value.2 = .ok (program, weights))
    (before : Port UInt32) :
    Holds job program (before.after ((dec.sramBursts config job).flatMap Burst.writes)) := by
  obtain ⟨plain, table⟩ := jobConfigureAccess_ok configured
  have lists := refList_of_configured plain
  have apart : (dec.sramBursts config job).Pairwise Burst.Apart := by
    refine (allBursts_apart ?_ fun l => (lists l).2).sublist (sramBursts_sublist configured)
    intro words there
    rw [table] at there
    split at there
    · obtain rfl := Option.some.inj there
      simp [value_writePredWeightTable, List.length_flatMap, length_words]
    · cases there
  have written (burst : Burst UInt32) (member : burst ∈ dec.sramBursts config job) (index : ℕ) (value : UInt32)
      (found : burst.values[index]? = some value) :
      (before.after ((dec.sramBursts config job).flatMap Burst.writes)).word (burst.address + 4 * index) = value :=
    before.after_bursts_written apart member found
  generalize before.after ((dec.sramBursts config job).flatMap Burst.writes) = sram at written
  rw [sramBursts_eq configured] at written
  constructor
  case frames => exact frameAt_of_written (written program.frames.burst (by simp))
  case lists =>
    intro l bytes there i inside
    have member : l.burst bytes ∈ program.bursts weights := by
      cases l <;> simp_all [Program.bursts, Program.refList]
    have member := List.mem_append_right job.writeScalingLists (List.mem_cons_of_mem program.frames.burst member)
    exact sramByte_of_writeSram (written _ member) (List.getElem?_eq_getElem inside)
  case weights =>
    intro required
    rw [if_pos required] at table
    have member : writeSram sramPredWeightTable job.writePredWeightTable.value ∈ program.bursts weights := by
      simp [Program.bursts, table]
    refine hasWeights_of_written fun index value found => ?_
    have place := written _ (List.mem_append_right _ (List.mem_cons_of_mem _ member)) index value
      (by rw [writeSram, value_writePredWeightTable, found])
    rwa [writeSram, show sramPredWeightTable * 4 = 0 from rfl, Nat.zero_add] at place
  case scaling =>
    intro present
    have scaling (burst : Burst UInt32) (member : burst ∈ job.writeScalingLists) :=
      written burst (List.mem_append_left _ member)
    simp only [SramJob.writeScalingLists, present, Bool.not_true, Bool.false_eq_true, if_false, List.mem_cons,
      List.not_mem_nil, or_false, forall_eq_or_imp, forall_eq] at scaling
    obtain ⟨first, second, small⟩ := scaling
    constructor
    · intro list inside i factor
      have found (list : ℕ) : ((List.range 64).map (job.scalingMatrix.scalingList8x8 list))[i]? =
          some (job.scalingMatrix.scalingList8x8 list i) := by
        rw [List.getElem?_map, List.getElem?_range factor, Option.map_some]
      obtain rfl | rfl : list = 0 ∨ list = 1 := by omega
      · exact sramByte_of_writeSram first (found 0)
      · exact sramByte_of_writeSram second (found 1)
    · intro list inside i factor
      refine sramByte_of_writeSram small ?_
      rw [Nat.mul_comm 0x10 list, getElem?_flatMap_range (by simp) inside factor, List.getElem?_map,
        List.getElem?_range factor, Option.map_some]

/-- What the engine finds for a slice: each active reference whose picture is there, through its list and through the
frame list, the output, the weights and the scaling lists. -/
structure SramSound (config : Config) (job : SramJob) (after : Decoder) (outputFrameIdx : ℕ) (sram : Port UInt32) :
    Prop where
  references : ∀ l, job.UsesList l → ∀ i < (job.refList l).numRef,
    let ref := (job.refList l).refPicList i
    let dpb := job.dpb ref.index.toNat
    dpb.active = true → ∀ number ∈ after.pictureFind config dpb.referenceTs, ∃ slot < frameNum,
      (sramByte sram (4 * l.sramRefList + i)).toNat = 2 * slot + (if ref.fields = bottomFieldRef then 1 else 0) ∧
        (sramFrames sram outputFrameIdx).Shows after config job.toJob slot ⟨number, dpb.referenceTs⟩
  output : outputFrameIdx < frameNum ∧
    frameAt sram outputFrameIdx = config.fillRefPic job.destination (after.picture job.destination).buffer
      job.topFieldOrderCnt job.bottomFieldOrderCnt
  weights : job.PredWeightsRequired → HasWeights sram job.weightFactors
  scaling : job.scalingMatrixPresent → HasScaling sram job.scalingMatrix

/-- The frame list in the SRAM shows what the frame list of the program does. -/
theorem shows_of_frameAt {sram : Port UInt32} {frames : FrameListWrites} {after : Decoder} {job : Job} {slot : ℕ}
    {picture : Located} (same : frameAt sram slot = frames.picList slot)
    (shown : frames.Shows after config job slot picture) :
    (sramFrames sram frames.outputFrameIdx).Shows after config job slot picture := by
  rw [FrameListWrites.Shows] at shown ⊢
  rwa [show (sramFrames sram frames.outputFrameIdx).picList slot = frames.picList slot from same]

/-- The byte of an active reference whose picture is there is made of the slot of the picture. -/
theorem toNat_refByte {after : Decoder} {job : Job} {ref : Reference} {number : ℕ}
    (active : (job.dpb ref.index.toNat).active = true)
    (found : number ∈ after.pictureFind config (job.dpb ref.index.toNat).referenceTs)
    (below : after.slot number < frameNum) :
    (after.refByte config job ref).toNat = 2 * after.slot number + if ref.fields = bottomFieldRef then 1 else 0 := by
  have byte : after.refByte config job ref =
      UInt8.ofNat (after.slot number <<< 1) ||| if ref.fields = bottomFieldRef then 1 else 0 := by
    rw [Decoder.refByte, active, Option.mem_def.mp found]
    rfl
  rw [byte, toNat_slotByte below]

/-- In a run that keeps the slots apart, the SRAM leads from each reference of a slice to its picture. -/
theorem sram_shows_references (config : Config) (events : List Event) (s : Recorded Decoder History) (job : SramJob)
    (follows : Guarded (record (step config) (History.write config)) (Follows config) ⟨{}, {}⟩
      (events ++ [.runJob job.toJob]))
    (reached : run (record (step config) (History.write config)) ⟨{}, {}⟩ events = some s)
    (program : Program) (weights : Option (List UInt32))
    (configured : ((s.state.begin job.toJob).jobConfigureAccess config job.toWeightedJob).value.2 =
      .ok (program, weights)) (before : Port UInt32) :
    SramSound config job (Configured config s job.toJob).1 program.frames.outputFrameIdx
      (before.after (((s.state.begin job.toJob).sramBursts config job).flatMap Burst.writes)) := by
  have holds := holds_of_configured configured before
  generalize before.after (((s.state.begin job.toJob).sramBursts config job).flatMap Burst.writes) = sram at holds
  obtain ⟨kept, follows⟩ := kept_of_follows follows reached
  have plain := (jobConfigureAccess_ok configured).1
  have sound := kept.slotsSound follows
  obtain ⟨frames, written, rfl⟩ := Decoder.jobConfigure_ok plain
  constructor
  case references =>
    intro l used i below ref dpb active number found
    have list := (refList_of_configured plain l).1 used
    have among : job.refList l ∈ [job.refList0, job.refList1] := by cases l <;> simp [Job.refList]
    have member : dpb ∈ job.entries :=
      List.mem_map.mpr ⟨_, List.mem_range.mpr (UInt8.lt_iff_toNat_lt.mp (follows.2.2.1 _ among i below)), rfl⟩
    have named : ⟨number, dpb.referenceTs⟩ ∈ (Configured config s job.toJob).1.named config job.toJob :=
      List.mem_filterMap.mpr ⟨dpb, member, Decoder.names_iff.mpr ⟨follows.2.1 dpb member active, rfl, found⟩⟩
    have inList : (Configured config s job.toJob).1.slot number < frameNum :=
      sound.below _ (List.mem_cons_of_mem _ named)
    obtain ⟨slot, byte, there, value, shown⟩ :=
      Decoder.writeRefList_agrees kept follows written among i below active number found
    obtain ⟨inside, rfl⟩ := List.getElem?_eq_some_iff.mp there
    have own := Decoder.writeRefList_getElem (Configured config s job.toJob).1 config job.toJob below
    have slotByte := toNat_refByte active found inList
    rw [← Option.some.inj (there.symm.trans own), value] at slotByte
    obtain rfl := Nat.eq_of_mul_eq_mul_left (by decide) (Nat.add_right_cancel slotByte)
    refine ⟨_, inList, ?_, shows_of_frameAt (holds.frames _ inList) shown⟩
    rw [holds.lists l _ list i inside]
    exact value
  case output =>
    obtain ⟨buffer, place, after, programmed⟩ := (s.state.begin job.toJob).writeFrameList_spec config job.toJob
    obtain ⟨index, picList⟩ := programmed frames written
    have inList := sound.below _ List.mem_cons_self
    have position : (Configured config s job.toJob).1.slot job.destination = frames.outputFrameIdx :=
      (Decoder.jobConfigure_output ..).trans index.symm
    have final : (Configured config s job.toJob).1 = (s.state.begin job.toJob).setBuffer job.destination buffer := after
    rw [show job.output.number = job.destination from rfl, position] at inList
    refine ⟨inList, (holds.frames _ inList).trans ?_⟩
    change frames.picList frames.outputFrameIdx = _
    rw [picList, index, Function.update_self, final, Decoder.setBuffer_buffer, if_pos rfl]
  case weights => exact holds.weights
  case scaling => exact holds.scaling

/-- The second field of a picture, with weights and scaling lists. -/
def weightedField : SramJob where
  toJob := smallJob 2 30 [20, 30] true true
  weightedPred := true
  weightedBipredIdc := 0
  weightFactors _ := ⟨fun _ => 32, fun _ => -1, fun _ _ => 32, fun _ _ => 1⟩
  scalingMatrixPresent := true
  scalingMatrix := ⟨fun _ _ => 16, fun _ _ => 16⟩

theorem sram_shows_references_field :
    ∃ s program weights,
      run (record (step smallConfig) (History.write smallConfig)) ⟨{}, {}⟩ twoFramesAndField = some s ∧
        ((s.state.begin weightedField.toJob).jobConfigureAccess smallConfig weightedField.toWeightedJob).value.2 =
          .ok (program, weights) ∧
        SramSound smallConfig weightedField (Configured smallConfig s weightedField.toJob).1
          program.frames.outputFrameIdx (Port.after ⟨0, fun _ => 0⟩
            (((s.state.begin weightedField.toJob).sramBursts smallConfig weightedField).flatMap Burst.writes)) := by
  refine ⟨_, _, _, rfl, rfl, ?_⟩
  exact sram_shows_references smallConfig twoFramesAndField _ weightedField (by decide) rfl _ _ rfl _

end H618Vpu.DecH264
