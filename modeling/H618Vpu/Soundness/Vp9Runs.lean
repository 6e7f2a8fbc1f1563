import H618Vpu.Machine.Run
import H618Vpu.Model.Vp9Decoder

/-! # Runs of a VP9 context with their history

The driver keeps no record of its jobs. The history here does: for every finished job, whether it
was programmed, with which record of its destination, and what the hardware put out when it
succeeded. What a job does to the store of the context depends on these alone.
-/

namespace H618Vpu.Vp9

open Machine

variable {size : ℕ} {config : Config}

/-- A finished job; `record` is the one its destination had when the job was configured. -/
structure Finished (size : ℕ) where
  job : Job
  programmed : Bool
  record : Record
  output : Option (HwOutput size)

/-- A decoder with the jobs it has finished, the newest first. -/
structure Traced (size : ℕ) where
  dec : Decoder size
  jobs : List (Finished size) := []

/-- User space queues a picture buffer again, or a job runs. -/
inductive Event (size : ℕ) where
  | queueBuffer (buffer : ℕ)
  | runJob (job : Job) (outcome : Outcome size)

/-- How a job of the decoder finishes. -/
def Decoder.finished (dec : Decoder size) (config : Config) (job : Job) (outcome : Outcome size) : Finished size :=
  let (after, program) := (dec.begin job).configured config job outcome
  { job
    programmed := program.isSome
    record := (after.picture job.destination).record
    output := outcome.output program }

/-- Queueing a buffer makes vb2 forget its timestamp. -/
def Traced.step (config : Config) (s : Traced size) : Event size → Option (Traced size)
  | .queueBuffer buffer => some { s with dec := s.dec.setTimestamp buffer none }
  | .runJob job outcome =>
      some { dec := s.dec.runJob config job outcome, jobs := s.dec.finished config job outcome :: s.jobs }

def Traced.initial (config : Config) : Traced size := { dec := .initial config }

@[simp] theorem Decoder.setRecord_self (dec : Decoder size) (buffer : ℕ) (record : Record) :
    ((dec.setRecord buffer record).picture buffer).record = record := by
  simp [Decoder.setRecord]

theorem Decoder.setRecord_of_ne (dec : Decoder size) {buffer other : ℕ} (record : Record)
    (different : other ≠ buffer) : (dec.setRecord buffer record).picture other = dec.picture other :=
  Function.update_of_ne different ..

@[simp] theorem Decoder.setTimestamp_record (dec : Decoder size) (buffer other : ℕ) (timestamp : Option ℕ) :
    ((dec.setTimestamp buffer timestamp).picture other).record = (dec.picture other).record := by
  by_cases same : other = buffer
  · subst same
    simp [Decoder.setTimestamp]
  · simp [Decoder.setTimestamp, Function.update_of_ne same]

@[simp] theorem Decoder.setRecord_timestamp (dec : Decoder size) (buffer other : ℕ) (record : Record) :
    ((dec.setRecord buffer record).picture other).timestamp = (dec.picture other).timestamp := by
  by_cases same : other = buffer
  · subst same
    simp [Decoder.setRecord]
  · simp [Decoder.setRecord, Function.update_of_ne same]

private theorem setRecord_unchanged (dec : Decoder size) (buffer : ℕ) :
    dec.setRecord buffer (dec.picture buffer).record = dec := by
  simp [Decoder.setRecord]

/-- Ensuring the surface of a 10-bit destination keeps its validity, and places the chroma plane. -/
theorem ensureTenBitRecon_spec (record : Record) (width height : ℕ) (reconAlloc : Option ℕ) :
    (ensureTenBitRecon record width height reconAlloc).1.valid = record.valid ∧
      ((ensureTenBitRecon record width height reconAlloc).2 = true →
        (ensureTenBitRecon record width height reconAlloc).1.reconChromaOffset =
          (tenBitReconSize width height).chromaOffset) := by
  by_cases enough : ∃ surface ∈ record.recon, (tenBitReconSize width height).size ≤ surface.size
  · simp only [ensureTenBitRecon, if_pos enough, true_and, implies_true]
  · cases reconAlloc with
    | none => simp only [ensureTenBitRecon, if_neg enough, Bool.false_eq_true, false_implies, and_self]
    | some dma => simp only [ensureTenBitRecon, if_neg enough, implies_true, and_self]

/-- The checks of a job touch nothing but the surface of its destination. -/
theorem Decoder.checks_spec (dec : Decoder size) (config : Config) (job : Job) :
    ∃ record, (dec.checks config job).1 = dec.setRecord job.destination record ∧
      record.valid = (dec.picture job.destination).record.valid ∧
      ((dec.checks config job).2 = .ok () → job.frame.highBitDepth = true →
        record.reconChromaOffset = (tenBitReconSize job.frame.width job.frame.height).chromaOffset) := by
  simp only [Decoder.checks]
  split
  · exact ⟨_, (setRecord_unchanged dec job.destination).symm, rfl, nofun⟩
  · obtain ⟨valid, offset⟩ := ensureTenBitRecon_spec (dec.picture job.destination).record
      job.frame.width job.frame.height job.reconAlloc
    cases high : job.frame.highBitDepth with
    | false =>
      simp only [Bool.false_eq_true, ↓reduceIte, Bool.not_true]
      split
      · exact ⟨_, rfl, rfl, nofun⟩
      · exact ⟨_, rfl, rfl, nofun⟩
    | true =>
      simp only [↓reduceIte]
      split
      · exact ⟨_, rfl, valid, nofun⟩
      · split
        · exact ⟨_, rfl, valid, nofun⟩
        case isFalse ready _ =>
          exact ⟨_, rfl, valid, fun _ _ => offset (by simpa using ready)⟩

/-- Configuring a job changes the pictures as its checks do. -/
theorem Decoder.jobConfigure_picture (dec : Decoder size) (config : Config) (job : Job) :
    (dec.jobConfigure config job).1.picture = (dec.checks config job).1.picture := by
  simp only [Decoder.jobConfigure]
  rcases dec.checks config job with ⟨checked, _ | _⟩
  · rfl
  · dsimp only
    cases checked.lookup config job.frame <;> rfl

/-- A program is written only after the checks passed. -/
theorem Decoder.checks_ok_of_program {dec : Decoder size} {config : Config} {job : Job} {program : Program}
    (programmed : (dec.jobConfigure config job).2 = .ok program) : (dec.checks config job).2 = .ok () := by
  simp only [Decoder.jobConfigure] at programmed
  rcases admitted : dec.checks config job with ⟨after, errno | _⟩
  · rw [admitted] at programmed
    cases programmed
  · rfl

/-- From the start of a job to its completion by the hardware, only the record of its destination
changes, and only in its surface. -/
theorem Decoder.configured_spec (dec : Decoder size) (config : Config) (job : Job) (outcome : Outcome size) :
    ∃ record, (dec.configured config job outcome).1.picture = (dec.setRecord job.destination record).picture ∧
      record.valid = (dec.picture job.destination).record.valid ∧
      ((dec.configured config job outcome).2.isSome → job.frame.highBitDepth = true →
        record.reconChromaOffset = (tenBitReconSize job.frame.width job.frame.height).chromaOffset) := by
  obtain ⟨record, admitted, valid, offset⟩ := dec.checks_spec config job
  have asked : ∃ record, (dec.jobConfigure config job).1.picture = (dec.setRecord job.destination record).picture ∧
      record.valid = (dec.picture job.destination).record.valid ∧
      ((dec.jobConfigure config job).2.toOption.isSome → job.frame.highBitDepth = true →
        record.reconChromaOffset = (tenBitReconSize job.frame.width job.frame.height).chromaOffset) := by
    refine ⟨record, by rw [dec.jobConfigure_picture, admitted], valid, fun programmed => offset ?_⟩
    cases result : (dec.jobConfigure config job).2 with
    | error errno => simp [result, Except.toOption] at programmed
    | ok program => exact Decoder.checks_ok_of_program result
  cases outcome with
  | formatError =>
    exact ⟨_, congrArg Decoder.picture (setRecord_unchanged dec job.destination).symm, rfl, nofun⟩
  | error => exact asked
  | done output => exact asked

private theorem checks_store (dec : Decoder size) (config : Config) (job : Job) :
    (dec.checks config job).1.store = dec.store := by
  obtain ⟨record, checked, -⟩ := dec.checks_spec config job
  rw [checked]
  rfl

/-- A programmed job has updated the store, a refused one has not. -/
theorem Decoder.jobConfigure_store (dec : Decoder size) (config : Config) (job : Job) :
    (∃ program, (dec.jobConfigure config job).2 = .ok program ∧
      (dec.jobConfigure config job).1.store = dec.store.configure config.defaults job.frame job.compressedHdr) ∨
    (∃ errno, (dec.jobConfigure config job).2 = .error errno ∧
      (dec.jobConfigure config job).1.store = dec.store) := by
  have kept := checks_store dec config job
  simp only [Decoder.jobConfigure]
  rcases checked : dec.checks config job with ⟨after, errno | _⟩
  all_goals rw [checked] at kept
  · exact .inr ⟨errno, rfl, kept⟩
  · dsimp only at kept ⊢
    cases after.lookup config job.frame with
    | error errno => exact .inr ⟨errno, rfl, kept⟩
    | ok references =>
      exact .inl ⟨_, rfl, congrArg (Store.configure · config.defaults job.frame job.compressedHdr) kept⟩

theorem Decoder.configured_store (dec : Decoder size) (config : Config) (job : Job) (outcome : Outcome size) :
    (dec.configured config job outcome).1.store =
      if (dec.configured config job outcome).2.isSome then
        dec.store.configure config.defaults job.frame job.compressedHdr
      else dec.store := by
  have asked : (dec.jobConfigure config job).1.store =
      if (dec.jobConfigure config job).2.toOption.isSome then
        dec.store.configure config.defaults job.frame job.compressedHdr
      else dec.store := by
    obtain ⟨program, result, updated⟩ | ⟨errno, result, kept⟩ := dec.jobConfigure_store config job
    · simpa [result, Except.toOption] using updated
    · simpa [result, Except.toOption] using kept
  cases outcome with
  | formatError => rfl
  | error | done => exact asked

/-- The store after a job whose history entry is known. -/
def Store.after (store : Store size) (defaults : FrameContext) (entry : Finished size) : Store size :=
  let frame := entry.job.frame
  let compressedHdr := entry.job.compressedHdr
  let configured := if entry.programmed then store.configure defaults frame compressedHdr else store
  match entry.output with
  | none => configured
  | some output => configured.finish frame compressedHdr output

theorem Decoder.runJob_store (dec : Decoder size) (config : Config) (job : Job) (outcome : Outcome size) :
    (dec.runJob config job outcome).store = dec.store.after config.defaults (dec.finished config job outcome) := by
  have configured := (dec.begin job).configured_store config job outcome
  simp only [Decoder.runJob, Decoder.finished, Store.after]
  cases outcome.output ((dec.begin job).configured config job outcome).2 with
  | none => exact configured
  | some output => exact congrArg (Store.finish · job.frame job.compressedHdr output) configured

/-- Only a programmed job has an output. -/
theorem Decoder.finished_programmed {dec : Decoder size} {job : Job} {outcome : Outcome size}
    {output : HwOutput size} (written : (dec.finished config job outcome).output = some output) :
    (dec.finished config job outcome).programmed = true := by
  simp only [Decoder.finished] at written ⊢
  cases program : ((dec.begin job).configured config job outcome).2 with
  | none => cases outcome <;> simp [Outcome.output, program] at written
  | some program => rfl

/-- Two 64×64 pictures. -/
def smallConfig (defaults : FrameContext) : Config where
  defaults
  dmaOffset := 0
  codedWidth := 64
  codedHeight := 64
  pictureNv12 := true
  bytesperline := 64
  pictureHeight := 64
  pictures := 2
  planeDma buffer := 0x10000 * (buffer + 1)

/-- A job into a buffer whose number serves as its timestamp. -/
def smallJob (frame : Frame) (destination : ℕ) : Job where
  frame
  compressedHdr := .stdInit
  destination
  timestamp := destination
  codedDma := 0x100000
  codedSize := 16
  codedBufferSize := 16
  reconAlloc := none

end H618Vpu.Vp9
