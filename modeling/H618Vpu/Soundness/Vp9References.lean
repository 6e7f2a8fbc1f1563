import H618Vpu.Soundness.Vp9Runs

/-! # Which VP9 references can be trusted

A picture buffer is accepted as a reference when its record is valid, and only a successful job
makes it valid. But nothing makes it invalid again: the record outlives a failed job into the same
buffer, and a buffer which is being decoded into can find itself.
-/

namespace H618Vpu.Vp9

open Machine

variable {size : ℕ} {config : Config}

/-- What a decode leaves in its buffer, as far as a later reference depends on it. -/
structure Geometry where
  width : ℕ
  height : ℕ
  bitDepth : ℕ
  recon : Option Surface
  reconChromaOffset : ℕ
deriving DecidableEq, Repr

def Record.geometry (record : Record) : Geometry :=
  ⟨record.width, record.height, record.bitDepth, record.recon, record.reconChromaOffset⟩

/-- The geometry of a decode of `frame` with the given record programmed: a 10-bit frame is written
to its surface with the chroma plane behind its own luma plane. -/
def Geometry.ofDecode (frame : Frame) (programmed : Record) : Geometry where
  width := frame.width
  height := frame.height
  bitDepth := frame.bitDepth
  recon := programmed.recon
  reconChromaOffset :=
    if frame.highBitDepth then (tenBitReconSize frame.width frame.height).chromaOffset
    else programmed.reconChromaOffset

/-- The last job that targeted a buffer. -/
def Traced.lastJob (s : Traced size) (buffer : ℕ) : Option (Finished size) :=
  s.jobs.find? (·.job.destination = buffer)

/-- The job completed successfully, with this geometry. -/
def Finished.Decoded (entry : Finished size) (geometry : Geometry) : Prop :=
  entry.output.isSome = true ∧ geometry = .ofDecode entry.job.frame entry.record

/-- `cedrus_dec_vp9_reference` accepts a buffer for one of the references of a job. -/
def Decoder.accepts (dec : Decoder size) (config : Config) (job : Job) (reference : Reference) : Prop :=
  job.frame.keyFrame = false ∧ ∃ admitted, (dec.begin job).checks config job = (admitted, .ok ()) ∧
    ∃ timestamp ∈ job.frame.referenceTs, admitted.reference config timestamp = .ok reference

/-- The last job into the buffer succeeded, it is not the job at hand, and the record is the geometry
of that decode. -/
def Traced.Trustworthy (s : Traced size) (job : Job) (reference : Reference) : Prop :=
  reference.buffer ≠ job.destination ∧
    ∃ last, s.lastJob reference.buffer = some last ∧ last.Decoded reference.record.geometry

/-- A job into a buffer that holds a valid record completes successfully. -/
def Completes (config : Config) (s : Traced size) : Event size → Prop
  | .queueBuffer _ => True
  | .runJob job outcome =>
      (s.dec.picture job.destination).record.valid = true →
        (s.dec.finished config job outcome).output.isSome = true

instance (s : Traced size) (event : Event size) : Decidable (Completes config s event) := by
  cases event <;> dsimp only [Completes] <;> infer_instance

/-- The job does not name its own destination while that holds a valid record. -/
def Decoder.NamesOthers (dec : Decoder size) (config : Config) (job : Job) : Prop :=
  (dec.picture job.destination).record.valid = true →
    ∀ timestamp ∈ job.frame.referenceTs, (dec.begin job).pictureFind config timestamp ≠ some job.destination

private theorem runJob_eq (dec : Decoder size) (config : Config) (job : Job) (outcome : Outcome size) :
    dec.runJob config job outcome =
      ((dec.begin job).configured config job outcome).1.jobFinish job (dec.finished config job outcome).output := rfl

/-- A job leaves the records of the other buffers alone. -/
theorem Decoder.runJob_other (dec : Decoder size) (config : Config) (job : Job) (outcome : Outcome size)
    {other : ℕ} (different : other ≠ job.destination) :
    ((dec.runJob config job outcome).picture other).record = (dec.picture other).record := by
  obtain ⟨record, programmed, -, -⟩ := (dec.begin job).configured_spec config job outcome
  have kept : (((dec.begin job).configured config job outcome).1.picture other).record =
      (dec.picture other).record := by
    rw [programmed, Decoder.setRecord_of_ne _ _ different]
    exact dec.setTimestamp_record ..
  rw [runJob_eq]
  cases (dec.finished config job outcome).output with
  | none => exact kept
  | some output => exact (congrArg Picture.record (Decoder.setRecord_of_ne _ _ different)).trans kept

/-- A job that does not succeed leaves its destination as valid as it was. -/
theorem Decoder.runJob_failed {dec : Decoder size} {job : Job} {outcome : Outcome size}
    (failed : (dec.finished config job outcome).output = none) :
    ((dec.runJob config job outcome).picture job.destination).record.valid =
      (dec.picture job.destination).record.valid := by
  obtain ⟨record, programmed, valid, -⟩ := (dec.begin job).configured_spec config job outcome
  rw [runJob_eq, failed]
  change (((dec.begin job).configured config job outcome).1.picture job.destination).record.valid = _
  rw [programmed, Decoder.setRecord_self, valid]
  exact congrArg Record.valid (dec.setTimestamp_record ..)

/-- A successful job leaves the geometry of its decode in its destination. -/
theorem Decoder.runJob_succeeded {dec : Decoder size} {job : Job} {outcome : Outcome size} {output : HwOutput size}
    (written : (dec.finished config job outcome).output = some output) :
    ((dec.runJob config job outcome).picture job.destination).record.geometry =
      .ofDecode job.frame (dec.finished config job outcome).record := by
  obtain ⟨record, programmed, -, offset⟩ := (dec.begin job).configured_spec config job outcome
  have started := Decoder.finished_programmed written
  rw [runJob_eq, written]
  simp only [Decoder.finished, Decoder.jobFinish, Decoder.setRecord_self, programmed, Record.finish, Record.geometry,
    Geometry.ofDecode]
  split
  case isTrue high => rw [offset started high]
  case isFalse => rfl

/-- A valid record is the geometry its buffer was last decoded with. -/
def Traced.Trusted (s : Traced size) : Prop :=
  ∀ buffer, (s.dec.picture buffer).record.valid = true →
    ∃ last, s.lastJob buffer = some last ∧ last.Decoded (s.dec.picture buffer).record.geometry

theorem Traced.trusted_step {s next : Traced size} {event : Event size} (trusted : s.Trusted)
    (completes : Completes config s event) (taken : s.step config event = some next) : next.Trusted := by
  cases event with
  | queueBuffer buffer =>
    obtain rfl := Option.some.inj taken
    intro other valid
    simp only [Decoder.setTimestamp_record] at valid ⊢
    exact trusted other valid
  | runJob job outcome =>
    obtain rfl := Option.some.inj taken
    intro buffer valid
    change ((s.dec.runJob config job outcome).picture buffer).record.valid = true at valid
    by_cases target : buffer = job.destination
    · subst target
      refine ⟨s.dec.finished config job outcome, by simp [Traced.lastJob, Decoder.finished], ?_⟩
      cases written : (s.dec.finished config job outcome).output with
      | some output => exact ⟨by simp [written], Decoder.runJob_succeeded written⟩
      | none =>
        rw [Decoder.runJob_failed written] at valid
        have := completes valid
        simp [written] at this
    · change ∃ last, List.find? _ (_ :: s.jobs) = some last ∧
        last.Decoded ((s.dec.runJob config job outcome).picture buffer).record.geometry
      rw [s.dec.runJob_other config job outcome target] at valid ⊢
      rw [List.find?_cons_of_neg (by simp [Decoder.finished, Ne.symm target])]
      exact trusted buffer valid

theorem Decoder.pictureFind_setRecord (dec : Decoder size) (config : Config) (buffer : ℕ) (record : Record)
    (timestamp : ℕ) :
    (dec.setRecord buffer record).pictureFind config timestamp = dec.pictureFind config timestamp := by
  simp [Decoder.pictureFind]

/-- An accepted reference is a buffer found by its timestamp, with a valid record. -/
theorem Decoder.reference_spec {dec : Decoder size} {config : Config} {timestamp : ℕ} {reference : Reference}
    (accepted : dec.reference config timestamp = .ok reference) :
    dec.pictureFind config timestamp = some reference.buffer ∧
      reference.record = (dec.picture reference.buffer).record ∧ reference.record.valid = true := by
  rw [Decoder.reference] at accepted
  split at accepted
  case h_1 => cases accepted
  case h_2 buffer found =>
    dsimp only at accepted
    split at accepted
    case isTrue => cases accepted
    case isFalse valid =>
      have valid : (dec.picture buffer).record.valid = true := by simpa using valid
      split at accepted
      case isTrue =>
        split at accepted
        case h_1 => cases accepted
        case h_2 =>
          obtain rfl := Except.ok.inj accepted
          exact ⟨found, rfl, valid⟩
      case isFalse =>
        obtain rfl := Except.ok.inj accepted
        exact ⟨found, rfl, valid⟩

/-- While jobs into valid buffers complete, every reference accepted for a job that does not name its
own destination is trustworthy. -/
theorem references_trustworthy_of_completes (config : Config) (events : List (Event size)) (s : Traced size)
    (completes : Guarded (Traced.step config) (Completes config) (.initial config) events)
    (reached : run (Traced.step config) (.initial config) events = some s) (job : Job)
    (others : s.dec.NamesOthers config job) (reference : Reference)
    (accepted : s.dec.accepts config job reference) : s.Trustworthy job reference := by
  have trusted : s.Trusted :=
    completes.run_preserves Traced.Trusted Traced.trusted_step (fun _ valid => by cases valid) reached
  obtain ⟨-, admitted, checked, timestamp, named, accepted⟩ := accepted
  obtain ⟨found, same, valid⟩ := Decoder.reference_spec accepted
  obtain ⟨record, after, keeps, -⟩ := (s.dec.begin job).checks_spec config job
  rw [checked] at after
  subst after
  rw [Decoder.pictureFind_setRecord] at found
  have different : reference.buffer ≠ job.destination := by
    intro target
    rw [same, target, Decoder.setRecord_self, keeps] at valid
    exact others ((congrArg Record.valid (s.dec.setTimestamp_record ..)).symm.trans valid) timestamp named
      (target ▸ found)
  have kept : reference.record = (s.dec.picture reference.buffer).record := by
    rw [same, Decoder.setRecord_of_ne _ _ different]
    exact s.dec.setTimestamp_record ..
  rw [Traced.Trustworthy, kept]
  exact ⟨different, trusted reference.buffer (kept ▸ valid)⟩

/-- A one-pixel frame into the given buffer, with one buffer for all references. -/
def tinyJob (keyFrame : Bool) (destination reference : ℕ) : Job :=
  smallJob
    { Frame.stdInit with keyFrame, lastFrameTs := reference, goldenFrameTs := reference, altFrameTs := reference }
    destination

def idleOutput : HwOutput 0 := ⟨.zero, 0⟩

/-- The record and the address of the second buffer once a tiny frame was decoded into it. -/
def secondPicture : Reference := ⟨1, ⟨1, 1, 8, true, none, 0⟩, 0x20000, 0x21000⟩

theorem references_trustworthy_two_pictures :
    ∃ s : Traced 0, run (Traced.step (smallConfig .zero)) (.initial (smallConfig .zero))
        [.runJob (tinyJob true 0 0) .error, .runJob (tinyJob true 1 0) (.done idleOutput)] = some s ∧
      s.Trustworthy (tinyJob false 0 1) secondPicture := by
  refine ⟨_, rfl, references_trustworthy_of_completes (smallConfig .zero)
    [.runJob (tinyJob true 0 0) .error, .runJob (tinyJob true 1 0) (.done idleOutput)] _ (by decide) rfl
    (tinyJob false 0 1) (fun valid => by cases valid) secondPicture ⟨rfl, _, rfl, 1, by decide, rfl⟩⟩

/-- A frame decoded into the second buffer, then a failed job into it: the buffer is still accepted. -/
theorem references_not_always_trustworthy :
    ¬ ∀ (config : Config) (events : List (Event 0)) (s : Traced 0),
      run (Traced.step config) (.initial config) events = some s →
        ∀ job reference, s.dec.accepts config job reference → s.Trustworthy job reference := by
  intro always
  have trustworthy := always (smallConfig .zero)
    [.runJob (tinyJob true 1 0) (.done idleOutput), .runJob (tinyJob true 1 0) .error] _ rfl
    (tinyJob false 0 1) secondPicture ⟨rfl, _, rfl, 1, by decide, rfl⟩
  obtain ⟨-, last, found, decoded, -⟩ := trustworthy
  cases found
  cases decoded

end H618Vpu.Vp9
