import H618Vpu.Model.DecH264Access

/-! # Accesses of an H.264 job

The notes do not change what a job is made of. The weight tables are read inside for every job; the entry of the DPB
that a reference names is read without a check of its index.
-/

namespace H618Vpu.DecH264

open Machine Math Touching

/-- The element is one of its array. -/
def Cell.Inside (cell : Cell) : Prop := cell.index < cell.array.length
deriving Decidable

variable (dec : Decoder) (config : Config) (job : Job) (weighted : WeightedJob) (l : ListX) (list : RefList)

namespace Decoder

/-- The frame list is written as without the notes. -/
theorem value_writeFrameList :
    (dec.writeFrameListAccess config job).value = dec.writeFrameList config job := by
  have folded : job.entries.foldl (dec.visit config job.timestamp) {} = (List.range 16).foldl
      (fun list i => dec.visit config job.timestamp list (job.dpb i)) {} := List.foldl_map
  simp only [writeFrameListAccess, writeFrameList, value_bind, value_loop, read, value_touch, value_pure, folded]
  split <;> simp_all

/-- A round of `_cedrus_write_ref_list` sets its byte, from zero. -/
theorem value_refWrite (i : ℕ) {sramArray : ℕ → UInt8} (clear : sramArray i = 0) :
    (dec.refWrite config job l list i sramArray).value =
      Function.update sramArray i (dec.refByte config job (list.refPicList i)) := by
  have still : sramArray = Function.update sramArray i 0 := (Function.update_eq_self_iff.mpr clear.symm).symm
  simp only [refWrite, refByte, read, value_touch_bind]
  cases active : (job.dpb (list.refPicList i).index.toNat).active with
  | false => simpa using still
  | true =>
    cases found : dec.pictureFind config (job.dpb (list.refPicList i).index.toNat).referenceTs with
    | none => simpa [found] using still
    | some number =>
      simp only [Bool.not_true, Bool.false_eq_true, if_false, value_touch_bind, value_pure, clear, UInt8.zero_or]
      by_cases bottom : (list.refPicList i).fields = bottomFieldRef
      · rw [if_pos bottom, if_pos bottom]
      · rw [if_neg bottom, if_neg bottom, UInt8.or_zero]

/-- A reference list is written as without the notes. -/
theorem value_writeRefList : (dec.writeRefListAccess config job l list).value = dec.writeRefList config job list := by
  have filled := loop_invariant (dec.refWrite config job l list) (fun _ => 0) list.numRef
    (fun k sramArray => ∀ i, sramArray i = if i < k then dec.refByte config job (list.refPicList i) else 0)
    (fun i => (if_neg (Nat.not_lt_zero i)).symm)
    (fun k _ sramArray before i => by
      rw [dec.value_refWrite config job l list k ((before k).trans (if_neg (Nat.lt_irrefl k))), Function.update_apply]
      by_cases same : i = k
      · rw [if_pos same, if_pos (by omega), same]
      · rw [if_neg same, before i]
        exact if_congr (by omega) rfl rfl)
  rw [writeRefListAccess, value_bind, value_pure, writeRefList]
  exact congrArg (List.take _) (List.map_congr_left fun i _ => filled i)

/-- The lists of a job are those of `cedrus_set_params`. -/
theorem value_setParams (frames : FrameListWrites) :
    (dec.setParamsAccess config weighted frames).value.1 = dec.setParams config weighted.toJob frames := by
  simp only [setParamsAccess, setParams, value_bind, value_pure, refList0, refList1]
  congr 1
  · split
    · rw [value_bind, value_pure, value_writeRefList]
    · rfl
  · split
    · rw [value_bind, value_pure, value_writeRefList]
    · rfl

/-- With the notes, `cedrus_dec_h264_job_configure` comes to the same. -/
theorem value_jobConfigure :
    ((dec.jobConfigureAccess config weighted).value.1, (dec.jobConfigureAccess config weighted).value.2.map Prod.fst) =
      dec.jobConfigure config weighted.toJob := by
  rw [jobConfigureAccess, jobConfigure, value_bind, value_writeFrameList]
  cases written : dec.writeFrameList config weighted.toJob with
  | mk dec frames =>
    cases frames with
    | error error => rfl
    | ok frames =>
      exact congrArg (fun program => (dec, Except.ok program)) (dec.value_setParams config weighted frames)

theorem inside_writeFrameList : Within Cell.Inside (dec.writeFrameListAccess config job) := by
  rw [writeFrameListAccess, within_bind, within_loop]
  constructor
  · intro k below
    simp only [within_bind, read, within_touch, within_pure, and_true]
    exact below
  · dsimp only
    split <;> exact within_pure _

theorem inside_predWeights : Within Cell.Inside (predWeights weighted) := by
  rw [predWeights]
  split
  · rw [within_bind, WeightedJob.writePredWeightTable, within_loop]
    refine ⟨fun i two => ?_, within_pure _⟩
    simp only [factorsWrite, lumaWrite, chromaWrite, within_bind, within_loop, read, within_touch, within_pure,
      and_true, Cell.Inside, ControlArray.length]
    refine ⟨two, fun j luma => ⟨luma, luma⟩, fun j reference k component => ?_⟩
    omega
  · exact within_pure _

/-- The byte of a reference is made of the entry of the DPB that the reference names. -/
theorem inside_refWrite {i : ℕ} (listed : i < 32) (sramArray : ℕ → UInt8) :
    Within Cell.Inside (dec.refWrite config job l list i sramArray) ↔ (list.refPicList i).index < 16 := by
  have named : (list.refPicList i).index < 16 ↔ Cell.Inside ⟨.dpb, (list.refPicList i).index.toNat⟩ :=
    UInt8.lt_iff_toNat_lt
  have entry : Cell.Inside ⟨.refPicList l, i⟩ := listed
  simp only [refWrite, read, within_touch_bind, ← named, entry, true_and]
  refine and_iff_left ?_
  cases (job.dpb (list.refPicList i).index.toNat).active with
  | false => exact within_pure _
  | true =>
    cases found : dec.pictureFind config (job.dpb (list.refPicList i).index.toNat).referenceTs with
    | none => simp
    | some number => simpa [found] using entry

end Decoder

/-- Every reference of the list names an entry of the DPB. -/
def RefList.Named (list : RefList) : Prop := ∀ i < list.numRef, (list.refPicList i).index < 16

theorem Decoder.inside_writeRefList :
    Within Cell.Inside (dec.writeRefListAccess config job l list) ↔ list.Named := by
  have few : list.numRef ≤ 32 := list.numRefIdxActiveMinus1.isLt
  rw [writeRefListAccess, within_bind, within_loop]
  refine (and_iff_left (within_pure _)).trans (forall₂_congr fun i below => ?_)
  exact dec.inside_refWrite config job l list (below.trans_le few) _

/-- The lists that a slice of its type has name entries of the DPB. -/
def Job.ListsNamed (job : Job) : Prop :=
  (job.sliceType = .p ∨ job.sliceType = .sp ∨ job.sliceType = .b → job.refList0.Named) ∧
    (job.sliceType = .b → job.refList1.Named)

/-- A job that is configured stays within the arrays of its controls just when its references name entries of the
DPB. -/
theorem Decoder.inside_jobConfigure (accepted : ∃ program, (dec.jobConfigure config weighted.toJob).2 = .ok program) :
    Within Cell.Inside (dec.jobConfigureAccess config weighted) ↔ weighted.ListsNamed := by
  obtain ⟨program, accepted⟩ := accepted
  rw [jobConfigureAccess, within_bind, value_writeFrameList]
  refine (and_iff_right (dec.inside_writeFrameList config weighted.toJob)).trans ?_
  cases written : dec.writeFrameList config weighted.toJob with
  | mk dec frames =>
    cases frames with
    | error error => simp [jobConfigure, written, Except.map] at accepted
    | ok frames =>
      simp only [setParamsAccess, within_bind, inside_predWeights, within_pure, refList0, refList1, true_and, and_true,
        Job.ListsNamed]
      refine and_congr ?_ ?_
      · split <;> simp_all [inside_writeRefList]
      · split <;> simp_all [inside_writeRefList]

end H618Vpu.DecH264
