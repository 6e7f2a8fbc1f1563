import H618Vpu.Soundness.H264Order

/-! # Telling consecutive pictures apart

Without a parameter set between two pictures, a decoder finds the second one by what differs in their
slice headers (H.264, 7.4.1.2.4). The frame number is enough, but for two IDR pictures: both are numbered
zero. Their `idr_pic_id` has to differ, with parameter sets between them or not, and it always is zero too.
-/

namespace H618Vpu.H264

open Machine Spec

/-- The first slice of a picture is told from the picture before by one of these. -/
def SliceHeader.Distinguished (previous header : SliceHeader) : Prop :=
  previous.frameNum ≠ header.frameNum ∨ ¬ (previous.nalUnitType = 5 ↔ header.nalUnitType = 5) ∨
    previous.picOrderCntLsb ≠ header.picOrderCntLsb ∨
    (previous.nalUnitType = 5 ∧ header.nalUnitType = 5 ∧ previous.idrPicId ≠ header.idrPicId)

/-- Two IDR pictures have different numbers. -/
def SliceHeader.IdrApart (previous header : SliceHeader) : Prop :=
  previous.nalUnitType = 5 → header.nalUnitType = 5 → previous.idrPicId ≠ header.idrPicId

/-- The picture that the next one follows with no SPS or PPS between them. -/
def precedingSlice : List Item → Option SliceHeader
  | [] => none
  | .slice header _ :: _ => some header
  | .sps _ :: _ | .pps _ :: _ => none
  | .program _ :: older | .finish _ :: older => precedingSlice older

/-- Consecutive pictures without a parameter set between them can be told apart, and consecutive IDR
pictures have different numbers, whatever is between them. -/
def NeighboursApart : List Item → Prop
  | [] => True
  | .slice header _ :: older =>
      (∀ previous, precedingSlice older = some previous → previous.Distinguished header) ∧
        (∀ previous, (slices older).head? = some previous → previous.IdrApart header) ∧ NeighboursApart older
  | .sps _ :: older | .pps _ :: older | .program _ :: older | .finish _ :: older => NeighboursApart older

/-- The last picture is not an IDR picture. -/
def NotAfterIdr (log : List Item) : Prop :=
  match (slices log).head? with
  | some previous => previous.nalUnitType ≠ 5
  | none => True

instance (log : List Item) : Decidable (NotAfterIdr log) := by
  unfold NotAfterIdr
  exact match (slices log).head? with
    | some _ => instDecidableNot
    | none => instDecidableTrue

/-- No job fails, and no IDR picture is the next picture after an IDR picture. -/
def IdrSeparated (s : State) : Event → Prop
  | .headerCase =>
      match s.context, s.phase with
      | some ctx, .headers job => ctx.step = .slice → job.frameType = .idr → NotAfterIdr s.log
      | _, _ => True
  | event => Succeeds s event

instance (s : State) (event : Event) : Decidable (IdrSeparated s event) :=
  match event with
  | .headerCase => by
    dsimp only [IdrSeparated]
    exact match s.context, s.phase with
      | some ctx, .headers job => inferInstanceAs (Decidable (_ → _ → _))
      | none, _ => instDecidableTrue
      | some _, .idle | some _, .prepared _ | some _, .header _ _ | some _, .sliced _ | some _, .running _ =>
          instDecidableTrue
  | .formatConfigure ok => inferInstanceAs (Decidable (ok = true))
  | .jobFinish done => inferInstanceAs (Decidable (done = true))
  | .writeCtrl _ _ | .writeDone | .forceKeyFrame | .setInput _ | .streamOn _ _ | .streamOff | .jobPrepare
  | .headerStep | .program => instDecidableTrue

theorem IdrSeparated.succeeds {s : State} {event : Event} (separated : IdrSeparated s event) : Succeeds s event := by
  cases event <;> first | exact separated | trivial

/-- The picture a next one follows is the last that was numbered. -/
theorem orders_precedingSlice {log : List Item} {previous : SliceHeader}
    (preceding : precedingSlice log = some previous) :
    ∃ order, (orders log).head? = some order ∧ order.frameNum = previous.frameNum := by
  induction log with
  | nil => cases preceding
  | cons item older ih =>
    cases item with
    | slice header job =>
      obtain rfl := Option.some.inj preceding
      exact ⟨_, rfl, (Order.next_numbers ..).1⟩
    | sps | pps => cases preceding
    | program | finish => exact ih preceding

theorem slices_of_precedingSlice {log : List Item} {previous : SliceHeader}
    (preceding : precedingSlice log = some previous) : (slices log).head? = some previous := by
  induction log with
  | nil => cases preceding
  | cons item older ih =>
    cases item with
    | slice header job => exact preceding
    | sps | pps => cases preceding
    | program | finish => exact ih preceding

/-- Two consecutive numbers of eight bits differ. -/
theorem succ_mod_ne (n : ℕ) : n % 2 ^ 8 ≠ (n + 1) % 2 ^ 8 := by omega

/-- An IDR picture has the unit type of one, and no other picture has it. -/
theorem nalUnitType_eq_five_iff (ctx : Context) (job : Job) :
    (jobConfigureSliceHeader ctx job).nalUnitType = 5 ↔ job.frameType = .idr := by
  by_cases idr : job.frameType = .idr <;> simp [jobConfigureSliceHeader, idr]

theorem NotAfterIdr.ne {log : List Item} {previous : SliceHeader} (separated : NotAfterIdr log)
    (last : (slices log).head? = some previous) : previous.nalUnitType ≠ 5 := by
  rwa [NotAfterIdr, last] at separated

/-- A picture that continues the numbering has another frame number than the one before, and an IDR picture
is told from another one by being one. -/
theorem Ordered.distinguished {s : State} {ctx : Context} {job : Job} {previous : SliceHeader} (ordered : Ordered s)
    (continues : job.Continues s.log) (separated : job.frameType = .idr → NotAfterIdr s.log)
    (preceding : precedingSlice s.log = some previous) : previous.Distinguished (jobConfigureSliceHeader ctx job) := by
  unfold Job.Continues at continues
  split at continues
  case isTrue idr =>
    have other : previous.nalUnitType ≠ 5 := (separated idr).ne (slices_of_precedingSlice preceding)
    have second : (jobConfigureSliceHeader ctx job).nalUnitType = 5 := (nalUnitType_eq_five_iff ctx job).mpr idr
    exact .inr (.inl fun same => other (same.mpr second))
  case isFalse other =>
    obtain ⟨prev, last, frameNum, -⟩ := continues
    obtain ⟨order, also, same⟩ := orders_precedingSlice preceding
    obtain rfl := Option.some.inj (last.symm.trans also)
    refine .inl ?_
    rw [← same, (ordered.split prev (List.mem_of_head? last)).frameNum]
    change _ ≠ job.frameNum
    rw [frameNum]
    exact succ_mod_ne prev.sinceIdr

/-- The pictures are numbered in sequence, and neighbours are told apart. -/
structure OrderedApart (s : State) : Prop extends Ordered s where
  apart : NeighboursApart s.log

theorem OrderedApart.step {s next : State} {event : Event} (both : OrderedApart s) (separated : IdrSeparated s event)
    (taken : H264.step s event = some next) : OrderedApart next := by
  refine ⟨both.toOrdered.step separated.succeeds taken, ?_⟩
  cases taken_of_step taken with
  | writeCtrl ctrl value =>
    rw [s.writeCtrl_log]
    exact both.apart
  | streamOn width height =>
    rw [(s.setup_spec width height).2.1]
    exact both.apart
  | @headerCase ctx job phase streaming =>
    obtain ⟨continues, -⟩ := both.sampled ctx job streaming (by rw [phase]; rfl)
    rw [IdrSeparated, streaming, phase] at separated
    simp only [State.headerCase]
    cases due : ctx.step with
    | slice =>
      refine ⟨fun previous preceding => ?_, fun previous last first second => ?_, both.apart⟩
      · exact both.toOrdered.distinguished continues (separated due) preceding
      · have idr : job.frameType = .idr := (nalUnitType_eq_five_iff ctx job).mp second
        exact absurd first ((separated due idr).ne last)
    | _ => exact both.apart
  | _ => exact both.apart

/-- In every run in which no job fails and no IDR picture is the next picture after an IDR picture,
neighbours can be told apart. -/
theorem neighbours_apart_of_separated (events : List Event) (final : State)
    (separated : Guarded step IdrSeparated {} events) (reached : run step {} events = some final) :
    NeighboursApart final.log :=
  (separated.run_preserves OrderedApart OrderedApart.step ⟨.initial, trivial⟩ reached).apart

theorem neighbours_apart_two :
    ∃ final, run step {} (.streamOn 1280 720 :: twoPictures) = some final ∧ (slices final.log).length = 2 ∧
      NeighboursApart final.log :=
  ⟨_, rfl, rfl, neighbours_apart_of_separated (.streamOn 1280 720 :: twoPictures) _ (by decide) rfl⟩

/-- Every IDR picture has the number zero. -/
structure NumberedZero (s : State) : Prop where
  sampled : ∀ job, s.phase.headerJob = some job → job.idrPicId = 0
  emitted : ∀ header ∈ slices s.log, header.nalUnitType = 5 → header.idrPicId = some 0

theorem NumberedZero.step {s next : State} {event : Event} (zero : NumberedZero s)
    (taken : H264.step s event = some next) : NumberedZero next := by
  cases taken_of_step taken with
  | writeCtrl ctrl value =>
    refine ⟨?_, ?_⟩
    · rw [s.writeCtrl_phase]
      exact zero.sampled
    · rw [s.writeCtrl_log]
      exact zero.emitted
  | streamOn width height =>
    refine ⟨?_, ?_⟩
    · rw [(s.setup_spec width height).1]
      exact zero.sampled
    · rw [(s.setup_spec width height).2.1]
      exact zero.emitted
  | jobPrepare =>
    refine ⟨fun job same => ?_, zero.emitted⟩
    obtain rfl := Option.some.inj same
    rfl
  | @formatConfigured job phase =>
    refine ⟨fun other same => ?_, zero.emitted⟩
    exact zero.sampled other (by rw [phase]; exact same)
  | @headerCase ctx job phase =>
    have sampled : job.idrPicId = 0 := zero.sampled job (by rw [phase]; rfl)
    simp only [State.headerCase]
    cases ctx.step with
    | slice =>
      refine ⟨fun _ none => (by cases none), fun header member idr => ?_⟩
      rcases List.mem_cons.mp member with rfl | member
      · have idr : job.frameType = .idr := (nalUnitType_eq_five_iff ctx job).mp idr
        simp only [jobConfigureSliceHeader, idr, sampled, decide_true, if_true]
      · exact zero.emitted header member idr
    | _ =>
      refine ⟨fun other same => ?_, zero.emitted⟩
      obtain rfl := Option.some.inj same
      exact sampled
  | @headerStep ctx job following phase =>
    refine ⟨fun other same => ?_, zero.emitted⟩
    exact zero.sampled other (by rw [phase]; exact same)
  | formatFailed | program | jobFinish => exact ⟨fun _ none => (by cases none), zero.emitted⟩
  | writeDone | forceKeyFrame | setInput | streamOff => exact ⟨zero.sampled, zero.emitted⟩

theorem NeighboursApart.older {newer older : List Item} (apart : NeighboursApart (newer ++ older)) :
    NeighboursApart older := by
  induction newer with
  | nil => exact apart
  | cons item newer ih =>
    cases item with
    | slice => exact ih apart.2.2
    | sps | pps | program | finish => exact ih apart

/-- In every run, an IDR picture that is the next picture after an IDR picture has the number of that one, with
parameter sets between them or not. -/
theorem not_apart_of_consecutive {events : List Event} {final : State} (reached : run step {} events = some final)
    {newer older : List Item} {previous header : SliceHeader} {job : Job}
    (emitted : final.log = newer ++ .slice header job :: older) (last : (slices older).head? = some previous)
    (first : previous.nalUnitType = 5) (second : header.nalUnitType = 5) : ¬ NeighboursApart final.log := by
  intro apart
  have zero : NumberedZero final := by
    refine run_preserves NumberedZero NumberedZero.step ⟨fun _ none => ?_, fun _ member => ?_⟩ reached
    · cases none
    · cases member
  have slices_append (newer : List Item) : slices (newer ++ .slice header job :: older) ⊇ header :: slices older := by
    induction newer with
    | nil => exact List.Subset.refl _
    | cons item newer ih =>
      cases item with
      | slice => exact List.subset_cons_of_subset _ ih
      | sps | pps | program | finish => exact ih
  have among (other : SliceHeader) (member : other ∈ header :: slices older) : other ∈ slices final.log :=
    emitted ▸ slices_append newer member
  rw [emitted] at apart
  apply apart.older.2.1 previous last first second
  rw [zero.emitted previous (among _ (List.mem_cons_of_mem _ (List.mem_of_head? last))) first,
    zero.emitted header (among _ List.mem_cons_self) second]

/-- A key frame is requested for the second picture. -/
def twoKeyFrames : List Event :=
  [.streamOn 1280 720] ++ firstHeaders ++ lastHeader ++ [.forceKeyFrame] ++ sliceOnly

theorem neighbours_not_always_apart :
    ¬ ∀ (events : List Event) (final : State), Guarded step Succeeds {} events → run step {} events = some final →
      NeighboursApart final.log := by
  intro always
  obtain ⟨apart, -⟩ := always twoKeyFrames _ (by decide) rfl
  have distinguished := apart _ rfl
  revert distinguished
  unfold SliceHeader.Distinguished
  decide

end H618Vpu.H264
