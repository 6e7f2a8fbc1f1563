import H618Vpu.Soundness.H264Tracking

/-! # Control writes that race with the headers of a job

A job samples the controls under the lock of the handler and emits its headers without it. A write in
between lowers `step` for a value the job does not have; if the job then raises `step` past the
parameter set, the update is lost and later slices no longer agree with the sets in force.
-/

namespace H618Vpu.H264

open Machine

/-- The SPS and the PPS in force have the profile, the level and the entropy mode of the slice. -/
def SliceMatches (older : List Item) (job : Job) : Prop :=
  match lastSps older, lastPps older with
  | some sps, some pps => sps.values = job.spsValues ∧ pps.entropyCodingModeFlag = job.entropyCodingModeFlag
  | _, _ => False

instance (older : List Item) (job : Job) : Decidable (SliceMatches older job) := by
  dsimp only [SliceMatches]
  exact match lastSps older, lastPps older with
    | some _, some _ => instDecidableAnd
    | none, _ | some _, none => instDecidableFalse

/-- Every slice of a log matches the sets emitted before it. -/
def SlicesMatch : List Item → Prop
  | [] => True
  | .slice _ job :: older => SliceMatches older job ∧ SlicesMatch older
  | _ :: older => SlicesMatch older

instance SlicesMatch.decidable : ∀ log : List Item, Decidable (SlicesMatch log)
  | [] => inferInstanceAs (Decidable True)
  | .slice _ job :: older =>
      haveI := SlicesMatch.decidable older
      inferInstanceAs (Decidable (SliceMatches older job ∧ SlicesMatch older))
  | .sps _ :: older | .pps _ :: older | .program _ :: older | .finish _ :: older => SlicesMatch.decidable older

/-- When the emission stores a step past a parameter set that no handler is about to lower again, the
context still has what the job sampled for it. -/
def NoneMissed (s : State) : Event → Prop
  | .headerStep =>
      match s.phase, s.context with
      | .header job next, some ctx =>
          (Step.sps.rank < (s.settled next).rank → job.spsValues = ctx.spsValues) ∧
            (Step.pps.rank < (s.settled next).rank → job.entropyCodingModeFlag = ctx.entropyFlag)
      | _, _ => True
  | _ => True

instance (s : State) (event : Event) : Decidable (NoneMissed s event) :=
  match event with
  | .headerStep => by
    dsimp only [NoneMissed]
    exact match s.phase, s.context with
      | .header _ _, some _ => instDecidableAnd
      | .header _ _, none | .idle, _ | .prepared _, _ | .headers _, _ | .sliced _, _ | .running _, _ =>
        instDecidableTrue
  | .writeCtrl _ _ | .writeDone | .forceKeyFrame | .setInput _ | .streamOn _ _ | .streamOff | .jobPrepare
  | .formatConfigure _ | .headerCase | .program | .jobFinish _ => instDecidableTrue

theorem NoneMissed.spsValues {s : State} {event : Event} (missed : NoneMissed s event) :
    Tracked.spsValues.Kept s event := by
  cases event with
  | writeCtrl ctrl value => exact Tracked.spsValues_kept s ctrl value
  | headerStep =>
    intro ctx job next streaming phase notDue
    rw [NoneMissed, phase, streaming] at missed
    exact missed.1 notDue
  | _ => trivial

theorem NoneMissed.entropyMode {s : State} {event : Event} (missed : NoneMissed s event) :
    Tracked.entropyMode.Kept s event := by
  cases event with
  | writeCtrl ctrl value => exact Tracked.entropyMode_kept s ctrl value
  | headerStep =>
    intro ctx job next streaming phase notDue
    rw [NoneMissed, phase, streaming] at missed
    exact missed.2 notDue
  | _ => trivial

/-- Slices that agree with each tracked value match. -/
theorem slicesMatch_of_covered {log : List Item} (spsValues : Tracked.spsValues.Covered log)
    (entropyMode : Tracked.entropyMode.Covered log) : SlicesMatch log := by
  induction log with
  | nil => trivial
  | cons item older ih =>
    cases item with
    | slice header job =>
      obtain ⟨values, spsValues⟩ := spsValues
      obtain ⟨mode, entropyMode⟩ := entropyMode
      obtain ⟨sps, sent, values⟩ := Option.map_eq_some_iff.mp values
      obtain ⟨pps, last, mode⟩ := Option.map_eq_some_iff.mp mode
      refine ⟨?_, ih spsValues entropyMode⟩
      rw [SliceMatches, sent, last]
      exact ⟨values, mode⟩
    | _ => exact ih spsValues entropyMode

/-- If the emission never passes a set whose values were rewritten after the sampling, every slice matches
the sets in force. -/
theorem slices_match_of_none_missed (events : List Event) (final : State)
    (missed : Guarded step NoneMissed {} events) (reached : run step {} events = some final) :
    SlicesMatch final.log := by
  refine slicesMatch_of_covered ?_ ?_
  · refine (missed.run_preserves Tracked.spsValues.Held ?_ .initial reached).covered
    intro s event next held missed taken
    exact held.step missed.spsValues taken
  · refine (missed.run_preserves Tracked.entropyMode.Held ?_ .initial reached).covered
    intro s event next held missed taken
    exact held.step missed.entropyMode taken

/-- The first write only reaches the control, so that nothing is missed. -/
def harmlessRace : List Event :=
  [.streamOn 1280 720] ++ firstHeaders ++ write .entropyMode 1 ++ lastHeader ++ sliceOnly

/-- The second write latches CABAC between the emission of the PPS and the store to `step`. -/
def lostUpdate : List Event :=
  [.streamOn 1280 720] ++ write .entropyMode 1 ++ firstHeaders ++ write .entropyMode 0 ++ lastHeader ++ sliceOnly

theorem slices_match_harmless_race :
    ∃ final, run step {} harmlessRace = some final ∧ final.log.length = 8 ∧ SlicesMatch final.log :=
  ⟨_, rfl, rfl, slices_match_of_none_missed harmlessRace _ (by decide) rfl⟩

theorem slices_not_always_match :
    ¬ ∀ (events : List Event) (final : State), run step {} events = some final → SlicesMatch final.log := by
  intro always
  have slices := always lostUpdate _ rfl
  revert slices
  decide

end H618Vpu.H264
