import H618Vpu.Soundness.Vp9References

/-! # Intra-only VP9 frames and the references they do not use

An intra-only frame predicts from nothing, but `cedrus_dec_vp9_job_configure` asks whether a frame is a key
frame before it looks up references, not whether it is intra. Two jobs that differ only in the timestamps of
the frame and in the pictures these could name show the difference.
-/

namespace H618Vpu.Vp9

variable {size : ℕ} {config : Config}

/-- `cedrus_dec_vp9_job_configure` accepts the job. -/
def Decoder.Configures (dec : Decoder size) (config : Config) (job : Job) : Prop :=
  ∃ program, (dec.jobConfigure config job).2 = .ok program

/-- The rest of the request and the destination pass their checks. -/
def Decoder.OtherwiseAcceptable (dec : Decoder size) (config : Config) (job : Job) : Prop :=
  (dec.checks config job).2 = .ok ()

/-- The frame with other references. -/
def Frame.withReferences (frame : Frame) (last golden alt : ℕ) : Frame :=
  { frame with lastFrameTs := last, goldenFrameTs := golden, altFrameTs := alt }

def Job.withReferences (job : Job) (last golden alt : ℕ) : Job :=
  { job with frame := job.frame.withReferences last golden alt }

/-- The pictures of two contexts differ in any way but in the surface of the destination, which is written. -/
structure SameButPictures (destination : ℕ) (dec other : Decoder size) : Prop where
  store : other.store = dec.store
  recon : (other.picture destination).record.recon = (dec.picture destination).record.recon
  reconChromaOffset :
    (other.picture destination).record.reconChromaOffset = (dec.picture destination).record.reconChromaOffset

/-- Neither the timestamps of the references nor the pictures decide whether the job is accepted. -/
def Decoder.IgnoresReferences (dec : Decoder size) (config : Config) (job : Job) : Prop :=
  ∀ (other : Decoder size) (last golden alt : ℕ), SameButPictures job.destination dec other →
    (other.Configures config (job.withReferences last golden alt) ↔ dec.Configures config job)

/-- A job is accepted when its checks pass and its references are found and fit. -/
theorem Decoder.configures_iff (dec : Decoder size) (job : Job) :
    dec.Configures config job ↔ dec.OtherwiseAcceptable config job ∧
      ∃ references, (dec.checks config job).1.lookup config job.frame = .ok references := by
  rw [Decoder.Configures, Decoder.OtherwiseAcceptable, Decoder.jobConfigure]
  rcases dec.checks config job with ⟨checked, errno | _⟩
  · simp
  · dsimp only
    cases checked.lookup config job.frame <;> simp

/-- Of the record, ensuring a surface only looks at the surface. -/
theorem ensureTenBitRecon_congr {record other : Record} (recon : other.recon = record.recon)
    (width height : ℕ) (reconAlloc : Option ℕ) :
    (ensureTenBitRecon other width height reconAlloc).2 = (ensureTenBitRecon record width height reconAlloc).2 ∧
      (ensureTenBitRecon other width height reconAlloc).1.recon =
        (ensureTenBitRecon record width height reconAlloc).1.recon ∧
      (ensureTenBitRecon other width height reconAlloc).1.reconChromaOffset =
        (ensureTenBitRecon record width height reconAlloc).1.reconChromaOffset := by
  simp only [ensureTenBitRecon, recon]
  split
  · exact ⟨rfl, rfl, rfl⟩
  · cases reconAlloc <;> exact ⟨rfl, rfl, rfl⟩

/-- The range checks of a job do not depend on the references, and of the destination only on its surface. -/
theorem Config.outOfRange_withReferences (job : Job) (last golden alt : ℕ) {record other : Record}
    (recon : other.recon = record.recon) (offset : other.reconChromaOffset = record.reconChromaOffset) :
    config.outOfRange (job.withReferences last golden alt) other = config.outOfRange job record := by
  simp only [Config.outOfRange, recon, offset]
  rfl

/-- The record of the destination with its surface, and whether that is there. -/
def Decoder.ensured (dec : Decoder size) (job : Job) : Record × Bool :=
  let record := (dec.picture job.destination).record
  if job.frame.highBitDepth then
    ensureTenBitRecon record job.frame.width job.frame.height job.reconAlloc
  else (record, true)

theorem Decoder.checks_eq (dec : Decoder size) (job : Job) :
    dec.checks config job =
      if config.unsupported job then (dec, .error .eopnotsupp)
      else if !(dec.ensured job).2 then (dec.setRecord job.destination (dec.ensured job).1, .error .enomem)
      else if config.outOfRange job (dec.ensured job).1 then
        (dec.setRecord job.destination (dec.ensured job).1, .error .erange)
      else (dec.setRecord job.destination (dec.ensured job).1, .ok ()) := rfl

theorem Decoder.acceptable_iff (dec : Decoder size) (job : Job) :
    dec.OtherwiseAcceptable config job ↔ config.unsupported job = false ∧ (dec.ensured job).2 = true ∧
      config.outOfRange job (dec.ensured job).1 = false := by
  rw [Decoder.OtherwiseAcceptable, dec.checks_eq]
  cases config.unsupported job <;> cases (dec.ensured job).2 <;>
    cases config.outOfRange job (dec.ensured job).1 <;> simp

/-- An accepted destination has the record it was ensured. -/
theorem Decoder.OtherwiseAcceptable.checked {dec : Decoder size} {job : Job}
    (acceptable : dec.OtherwiseAcceptable config job) :
    (dec.checks config job).1 = dec.setRecord job.destination (dec.ensured job).1 := by
  obtain ⟨supported, ready, range⟩ := (dec.acceptable_iff job).mp acceptable
  simp [dec.checks_eq, supported, ready, range]

/-- Neither do all the checks. -/
theorem SameButPictures.acceptable_iff {dec other : Decoder size} {job : Job}
    (same : SameButPictures job.destination dec other) (last golden alt : ℕ) :
    other.OtherwiseAcceptable config (job.withReferences last golden alt) ↔ dec.OtherwiseAcceptable config job := by
  have high : (job.withReferences last golden alt).frame.highBitDepth = job.frame.highBitDepth := rfl
  obtain ⟨ready, recon, offset⟩ :
      (other.ensured (job.withReferences last golden alt)).2 = (dec.ensured job).2 ∧
        (other.ensured (job.withReferences last golden alt)).1.recon = (dec.ensured job).1.recon ∧
        (other.ensured (job.withReferences last golden alt)).1.reconChromaOffset =
          (dec.ensured job).1.reconChromaOffset := by
    simp only [Decoder.ensured, high]
    split
    · exact ensureTenBitRecon_congr same.recon ..
    · exact ⟨rfl, same.recon, same.reconChromaOffset⟩
  rw [Decoder.acceptable_iff, Decoder.acceptable_iff, ready,
    config.outOfRange_withReferences job last golden alt recon offset]
  rfl

/-- No picture carries a timestamp. -/
def Decoder.withoutPictures (dec : Decoder size) : Decoder size :=
  { dec with picture := fun buffer => { dec.picture buffer with timestamp := none } }

theorem Decoder.pictureFind_withoutPictures (dec : Decoder size) (timestamp : ℕ) :
    dec.withoutPictures.pictureFind config timestamp = none :=
  List.find?_eq_none.mpr fun _ _ => by simp [Decoder.withoutPictures]

/-- A key frame is accepted when the checks pass. -/
theorem Decoder.configures_of_key (dec : Decoder size) (job : Job) (key : job.frame.keyFrame = true) :
    dec.Configures config job ↔ dec.OtherwiseAcceptable config job := by
  simp [dec.configures_iff, Decoder.lookup, key]

/-- Without the picture of its last reference, only a key frame passes. -/
theorem Decoder.not_configures_of_lost (dec : Decoder size) (job : Job) (inter : job.frame.keyFrame = false)
    (lost : ∀ timestamp, dec.pictureFind config timestamp = none) : ¬ dec.Configures config job := by
  rw [dec.configures_iff]
  rintro ⟨acceptable, references, found⟩
  have checked : ∀ timestamp, (dec.checks config job).1.pictureFind config timestamp = none := by
    intro timestamp
    rw [acceptable.checked, Decoder.pictureFind_setRecord]
    exact lost timestamp
  simp [Decoder.lookup, inter, Decoder.references, Decoder.reference, checked, Except.map] at found

/-- Ensuring a surface changes nothing else in the record. -/
theorem ensureTenBitRecon_frame (record : Record) (width height : ℕ) (reconAlloc : Option ℕ) :
    ∃ recon offset, (ensureTenBitRecon record width height reconAlloc).1 =
        { record with recon := recon, reconChromaOffset := offset } ∧
      ((ensureTenBitRecon record width height reconAlloc).2 = true → recon.isSome) := by
  by_cases enough : ∃ surface ∈ record.recon, (tenBitReconSize width height).size ≤ surface.size
  · obtain ⟨surface, attached, -⟩ := id enough
    simp only [ensureTenBitRecon, if_pos enough]
    exact ⟨record.recon, _, rfl, fun _ => Option.isSome_iff_exists.mpr ⟨surface, attached⟩⟩
  · cases reconAlloc with
    | none =>
      simp only [ensureTenBitRecon, if_neg enough]
      exact ⟨none, 0, rfl, fun failed => absurd failed Bool.false_ne_true⟩
    | some dma =>
      simp only [ensureTenBitRecon, if_neg enough]
      exact ⟨some _, _, rfl, fun _ => rfl⟩

/-- Every picture holds a decoded frame of the size and bit depth of the job, under the timestamp 0. -/
def Decoder.withFittingPictures (dec : Decoder size) (job : Job) : Decoder size :=
  { dec with
    picture := fun buffer =>
      { timestamp := some 0
        record :=
          { width := job.frame.width
            height := job.frame.height
            bitDepth := job.frame.bitDepth
            valid := true
            recon := if buffer = job.destination then (dec.picture buffer).record.recon else some ⟨0, 0⟩
            reconChromaOffset := (dec.picture buffer).record.reconChromaOffset } } }

theorem validReferenceSize_self (width height : ℕ) : validReferenceSize width height width height = true := by
  rw [validReferenceSize, decide_eq_true_iff]
  omega

/-- A 10-bit frame that is supported has the profile of high bit depths. -/
theorem Config.highBitDepth_of_supported {job : Job} (supported : config.unsupported job = false)
    (ten : job.frame.bitDepth = 10) : job.frame.highBitDepth = true := by
  simp only [Config.unsupported, Bool.or_eq_false_iff, Bool.not_eq_false', decide_eq_true_eq] at supported
  obtain ⟨⟨⟨⟨⟨⟨pair, -⟩, -⟩, -⟩, -⟩, -⟩, -⟩ := supported
  rw [Frame.highBitDepth, decide_eq_true_iff]
  omega

/-- The first of these pictures is a reference that fits, also when it is the destination. -/
theorem Decoder.reference_withFittingPictures (dec : Decoder size) (job : Job)
    (acceptable : (dec.withFittingPictures job).OtherwiseAcceptable config job) (pictures : 0 < config.pictures) :
    ∃ reference, ((dec.withFittingPictures job).checks config job).1.reference config 0 = .ok reference ∧
      reference.fits job.frame = true := by
  obtain ⟨supported, ready, -⟩ := (Decoder.acceptable_iff _ job).mp acceptable
  have found : ((dec.withFittingPictures job).checks config job).1.pictureFind config 0 = some 0 := by
    rw [acceptable.checked, Decoder.pictureFind_setRecord]
    obtain ⟨count, same⟩ := Nat.exists_eq_succ_of_ne_zero pictures.ne'
    rw [Decoder.pictureFind, same, List.range_succ_eq_map, List.find?_cons_of_pos (by rfl)]
  obtain ⟨recon, offset, record, attached⟩ : ∃ recon offset,
      (((dec.withFittingPictures job).checks config job).1.picture 0).record =
        ⟨job.frame.width, job.frame.height, job.frame.bitDepth, true, recon, offset⟩ ∧
      (job.frame.bitDepth = 10 → recon.isSome) := by
    rw [acceptable.checked]
    by_cases target : 0 = job.destination
    · rw [← target, Decoder.setRecord_self]
      cases high : job.frame.highBitDepth with
      | false =>
        refine ⟨_, _, by rw [Decoder.ensured, high]; exact congrArg Picture.record rfl, fun ten => ?_⟩
        have shown := Config.highBitDepth_of_supported supported ten
        simp [high] at shown
      | true =>
        obtain ⟨recon, offset, framed, attached⟩ := ensureTenBitRecon_frame
          ((dec.withFittingPictures job).picture job.destination).record job.frame.width job.frame.height job.reconAlloc
        rw [Decoder.ensured, high] at ready ⊢
        exact ⟨recon, offset, framed, fun _ => attached ready⟩
    · rw [Decoder.setRecord_of_ne _ _ target]
      refine ⟨_, _, rfl, fun _ => ?_⟩
      simp [target]
  have fits : ∀ luma chroma, (Reference.mk 0 ⟨job.frame.width, job.frame.height, job.frame.bitDepth, true, recon,
      offset⟩ luma chroma).fits job.frame = true := by
    intro luma chroma
    simp [Reference.fits, validReferenceSize_self]
  simp only [Decoder.reference, found, record, Bool.not_true, Bool.false_eq_true, ↓reduceIte]
  by_cases ten : job.frame.bitDepth = 10
  · obtain ⟨surface, rfl⟩ := Option.isSome_iff_exists.mp (attached ten)
    rw [if_pos ten]
    exact ⟨_, rfl, fits ..⟩
  · rw [if_neg ten]
    exact ⟨_, rfl, fits ..⟩

theorem Decoder.references_of_found {dec : Decoder size} {frame : Frame} {reference : Reference}
    (last : dec.reference config frame.lastFrameTs = .ok reference)
    (golden : dec.reference config frame.goldenFrameTs = .ok reference)
    (alt : dec.reference config frame.altFrameTs = .ok reference) (fits : reference.fits frame = true) :
    dec.references config frame = .ok ⟨reference, reference, reference⟩ := by
  simp [Decoder.references, last, golden, alt, fits]

theorem Decoder.sameButPictures_fitting (dec : Decoder size) (job : Job) :
    SameButPictures job.destination dec (dec.withFittingPictures job) :=
  ⟨rfl, if_pos rfl, rfl⟩

theorem Decoder.sameButPictures_without (dec : Decoder size) (destination : ℕ) :
    SameButPictures destination dec dec.withoutPictures :=
  ⟨rfl, rfl, rfl⟩

/-- A frame whose references are all named by the timestamp 0 is accepted with these pictures. -/
theorem Decoder.configures_withFittingPictures {dec : Decoder size} {job : Job}
    (acceptable : dec.OtherwiseAcceptable config job) (pictures : 0 < config.pictures) :
    (dec.withFittingPictures job).Configures config (job.withReferences 0 0 0) := by
  have still : (dec.withFittingPictures job).OtherwiseAcceptable config (job.withReferences 0 0 0) :=
    (dec.sameButPictures_fitting job).acceptable_iff 0 0 0 |>.mpr acceptable
  obtain ⟨reference, found, fits⟩ :=
    dec.reference_withFittingPictures (job.withReferences 0 0 0) still pictures
  refine (Decoder.configures_iff _ _).mpr ⟨still, ?_⟩
  rw [Decoder.lookup]
  split
  · exact ⟨none, rfl⟩
  · refine ⟨some ⟨reference, reference, reference⟩, ?_⟩
    exact congrArg (Except.map some) (Decoder.references_of_found found found found fits)

/-- Of the frames that are otherwise acceptable, the key frames are the ones whose references do not matter, unless
there is no picture that a reference could name. -/
theorem references_ignored_iff (dec : Decoder size) (config : Config) (job : Job)
    (acceptable : dec.OtherwiseAcceptable config job) :
    dec.IgnoresReferences config job ↔ job.frame.keyFrame = true ∨ config.pictures = 0 := by
  constructor
  · intro ignores
    by_contra depends
    obtain ⟨inter, pictures⟩ := not_or.mp depends
    have lost : ¬ dec.withoutPictures.Configures config (job.withReferences 0 0 0) :=
      Decoder.not_configures_of_lost _ _ (Bool.eq_false_of_not_eq_true inter) dec.pictureFind_withoutPictures
    have fitting := dec.configures_withFittingPictures acceptable (Nat.pos_of_ne_zero pictures)
    rw [ignores _ 0 0 0 (dec.sameButPictures_without job.destination)] at lost
    exact lost ((ignores _ 0 0 0 (dec.sameButPictures_fitting job)).mp fitting)
  · rintro (key | empty) other last golden alt same
    · rw [Decoder.configures_of_key _ job key, other.configures_of_key (job.withReferences last golden alt) key,
        same.acceptable_iff]
    · have lost : ∀ (dec : Decoder size) timestamp, dec.pictureFind config timestamp = none := by
        intro dec timestamp
        simp [Decoder.pictureFind, empty]
      cases key : job.frame.keyFrame with
      | true =>
        rw [Decoder.configures_of_key _ job key, other.configures_of_key (job.withReferences last golden alt) key,
          same.acceptable_iff]
      | false =>
        exact iff_of_false (other.not_configures_of_lost (job.withReferences last golden alt) key (lost other))
          (dec.not_configures_of_lost job key (lost dec))

/-- A context that has decoded nothing. -/
def freshDecoder : Decoder 0 := .initial (smallConfig .zero)

theorem references_ignored_key_frame : freshDecoder.IgnoresReferences (smallConfig .zero) (tinyJob true 0 0) :=
  (references_ignored_iff freshDecoder (smallConfig .zero) (tinyJob true 0 0) rfl).mpr (.inl rfl)

/-- An intra-only frame, after which decoding could go on. -/
def intraOnlyJob : Job := smallJob { Frame.stdInit with intraOnly := true } 0

/-- It is refused in a context without decoded pictures, and accepted next to some. -/
theorem intra_only_not_independent :
    ¬ ∀ (size : ℕ) (dec : Decoder size) (config : Config) (job : Job), job.frame.intraOnly = true →
      job.frame.keyFrame = false → dec.OtherwiseAcceptable config job → dec.IgnoresReferences config job := by
  intro always
  have acceptable : freshDecoder.OtherwiseAcceptable (smallConfig .zero) intraOnlyJob := rfl
  have ignores := always 0 freshDecoder (smallConfig .zero) intraOnlyJob rfl rfl acceptable
  have fitting := freshDecoder.configures_withFittingPictures acceptable (by decide)
  have configures := (ignores _ 0 0 0 (freshDecoder.sameButPictures_fitting intraOnlyJob)).mp fitting
  exact Decoder.not_configures_of_lost _ _ rfl (fun timestamp => rfl) configures

end H618Vpu.Vp9
