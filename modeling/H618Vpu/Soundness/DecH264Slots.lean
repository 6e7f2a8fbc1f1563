import H618Vpu.Machine.History
import H618Vpu.Model.DecH264

/-! # Slots of the H.264 frame list

A picture gets its slot from the job that decodes it: the first that no valid DPB entry of the job occupies.
It keeps the slot in its buffer, so whether the slots of a DPB are apart depends on every job before.
-/

namespace H618Vpu.DecH264

open Machine Math

variable {config : Config} {dec : Decoder} {job : Job} {dpb : DpbEntry}

/-- A picture: the buffer it is in and the timestamp it goes by. -/
structure Located where
  number : ℕ
  timestamp : ℕ
deriving DecidableEq, Repr

/-- The slot of the picture in a buffer. -/
def Decoder.slot (dec : Decoder) (number : ℕ) : ℕ := (dec.picture number).buffer.position

/-- The picture that a DPB entry names. -/
def Decoder.names (dec : Decoder) (config : Config) (dpb : DpbEntry) : Option Located :=
  if dpb.valid then (dec.pictureFind config dpb.referenceTs).map (⟨·, dpb.referenceTs⟩) else none

/-- The pictures that the DPB of a job names. -/
def Decoder.named (dec : Decoder) (config : Config) (job : Job) : List Located :=
  job.entries.filterMap (dec.names config)

def Job.output (job : Job) : Located := ⟨job.destination, job.timestamp⟩

/-- The last job with what its DPB named, and the same pictures with its output, except those whose buffer is
gone. -/
structure History where
  last : Option Job := none
  named : List Located := []
  pictures : List Located := []

def History.write (config : Config) (dec : Decoder) (event : Event) (_ : Decoder) (history : History) : History :=
  match event with
  | .queueBuffer _ => history
  | .bufferSetup number =>
      { history with
        last := history.last.filter (·.destination ≠ number)
        pictures := history.pictures.filter (·.number ≠ number) }
  | .runJob job =>
      let named := (dec.begin job).named config job
      { last := some job, named, pictures := job.output :: named }

/-- The destination is one of the buffers, every active entry is valid, the indices of the reference lists are
below sixteen, and the DPB names only what the DPB of the last job named, and its output. A further slice of
a picture carries the DPB of the slice before it. -/
def Follows (config : Config) (s : Recorded Decoder History) : Event → Prop
  | .runJob job =>
      job.destination < config.pictures ∧ (∀ dpb ∈ job.entries, dpb.active = true → dpb.valid = true) ∧
        (∀ list ∈ [job.refList0, job.refList1], ∀ i < list.numRef, (list.refPicList i).index < 16) ∧
        ∀ picture ∈ (s.state.begin job).named config job, picture ∈ s.history.pictures
  | _ => True

instance (s : Recorded Decoder History) (event : Event) : Decidable (Follows config s event) := by
  cases event <;> dsimp only [Follows] <;> infer_instance

theorem Decoder.pictureFind_timestamp {timestamp number : ℕ} (found : dec.pictureFind config timestamp = some number) :
    (dec.picture number).timestamp = some timestamp := by
  rw [pictureFind] at found
  simpa using List.find?_some found

theorem Decoder.names_iff {picture : Located} :
    dec.names config dpb = some picture ↔
      dpb.valid = true ∧ dpb.referenceTs = picture.timestamp ∧
        dec.pictureFind config picture.timestamp = some picture.number := by
  obtain ⟨number, timestamp⟩ := picture
  constructor
  · intro named
    rw [names] at named
    split at named
    case isFalse => cases named
    case isTrue valid =>
      obtain ⟨found, located, same⟩ := Option.map_eq_some_iff.mp named
      cases same
      exact ⟨valid, rfl, located⟩
  · rintro ⟨valid, rfl, found⟩
    rw [names, if_pos valid, found]
    rfl

theorem Decoder.mem_named {picture : Located} :
    picture ∈ dec.named config job ↔
      (∃ dpb ∈ job.entries, dpb.valid = true ∧ dpb.referenceTs = picture.timestamp) ∧
        dec.pictureFind config picture.timestamp = some picture.number := by
  simp only [named, List.mem_filterMap, names_iff]
  constructor
  · rintro ⟨dpb, member, valid, same, found⟩
    exact ⟨⟨dpb, member, valid, same⟩, found⟩
  · rintro ⟨⟨dpb, member, valid, same⟩, found⟩
    exact ⟨dpb, member, valid, same, found⟩

/-- Pictures that one DPB names are told apart by their timestamps. -/
theorem Decoder.named_inj {picture other : Located} (named : picture ∈ dec.named config job)
    (also : other ∈ dec.named config job) (same : picture.timestamp = other.timestamp) : picture = other := by
  obtain ⟨-, found⟩ := mem_named.mp named
  obtain ⟨-, second⟩ := mem_named.mp also
  obtain ⟨number, timestamp⟩ := picture
  obtain ⟨_, _⟩ := other
  cases same
  cases found.symm.trans second
  rfl

/-- What the loop has found after some entries. -/
def Decoder.visits (dec : Decoder) (config : Config) (timestamp : ℕ) (entries : List DpbEntry) : FrameList :=
  entries.foldl (dec.visit config timestamp) {}

theorem Decoder.visits_concat (timestamp : ℕ) (entries : List DpbEntry) (dpb : DpbEntry) :
    dec.visits config timestamp (entries ++ [dpb]) =
      dec.visit config timestamp (dec.visits config timestamp entries) dpb :=
  List.foldl_concat ..

/-- The slot that an entry fills, and what goes there. -/
def Decoder.fills (dec : Decoder) (config : Config) (dpb : DpbEntry) (picture : Located) : SramRefPic :=
  config.fillRefPic picture.number (dec.picture picture.number).buffer dpb.topFieldOrderCnt dpb.bottomFieldOrderCnt

theorem Decoder.visit_eq (timestamp : ℕ) (list : FrameList) (dpb : DpbEntry) :
    dec.visit config timestamp list dpb =
      match dec.names config dpb with
      | none => list
      | some picture =>
          { usedDpbs := list.usedDpbs ||| 1 <<< dec.slot picture.number
            output := if timestamp = picture.timestamp then some (dec.slot picture.number) else list.output
            picList :=
              if timestamp ≠ picture.timestamp ∧ dpb.active = true then
                Function.update list.picList (dec.slot picture.number) (dec.fills config dpb picture)
              else list.picList } := by
  rw [visit, names]
  cases dpb.valid with
  | false => rfl
  | true =>
    cases dec.pictureFind config dpb.referenceTs with
    | none => rfl
    | some ref =>
      by_cases own : timestamp = dpb.referenceTs
      · simp [own, slot]
      · cases active : dpb.active <;> simp [own, slot, fills]

/-- The bits that are set are the slots of the named pictures. -/
theorem Decoder.visits_used (timestamp : ℕ) (entries : List DpbEntry) (bit : ℕ) :
    (dec.visits config timestamp entries).usedDpbs.testBit bit = true ↔
      ∃ picture ∈ entries.filterMap (dec.names config), dec.slot picture.number = bit := by
  induction entries using List.reverseRecOn with
  | nil => simp [visits]
  | append_singleton entries dpb ih =>
    rw [visits_concat, visit_eq, List.filterMap_append, List.filterMap_cons]
    cases dec.names config dpb with
    | none => simpa using ih
    | some picture =>
      simp only [Nat.testBit_or, Bool.or_eq_true, ih, Nat.one_shiftLeft, Nat.testBit_two_pow, decide_eq_true_eq,
        List.filterMap_nil, List.mem_append, List.mem_singleton]
      grind

/-- The output is the slot of the picture with the timestamp of the job, if it is named. -/
theorem Decoder.visits_output (timestamp : ℕ) (entries : List DpbEntry) :
    (∀ position ∈ (dec.visits config timestamp entries).output,
        ∃ picture ∈ entries.filterMap (dec.names config),
          picture.timestamp = timestamp ∧ dec.slot picture.number = position) ∧
      ((dec.visits config timestamp entries).output = none →
        ∀ picture ∈ entries.filterMap (dec.names config), picture.timestamp ≠ timestamp) := by
  induction entries using List.reverseRecOn with
  | nil => simp [visits]
  | append_singleton entries dpb ih =>
    rw [visits_concat, visit_eq, List.filterMap_append, List.filterMap_cons]
    cases dec.names config dpb with
    | none => simpa using ih
    | some picture =>
      simp only [List.filterMap_nil, List.mem_append, List.mem_singleton]
      by_cases own : timestamp = picture.timestamp
      · simp only [own, if_true] at ih ⊢
        grind
      · simp only [own, if_false] at ih ⊢
        grind

/-- An active entry of another picture has filled its slot, unless another entry came later. -/
theorem Decoder.visits_picList (timestamp : ℕ) (entries : List DpbEntry) {picture : Located} (member : dpb ∈ entries)
    (named : dec.names config dpb = some picture) (active : dpb.active = true)
    (other : timestamp ≠ picture.timestamp) :
    ∃ last ∈ entries, ∃ shown, dec.names config last = some shown ∧ last.active = true ∧
      timestamp ≠ shown.timestamp ∧ dec.slot shown.number = dec.slot picture.number ∧
        (dec.visits config timestamp entries).picList (dec.slot picture.number) = dec.fills config last shown := by
  induction entries using List.reverseRecOn with
  | nil => cases member
  | append_singleton entries next ih =>
    simp only [List.mem_append, List.mem_singleton] at member ⊢
    rw [visits_concat, visit_eq]
    obtain earlier | rfl := member
    · obtain ⟨last, before, shown, lastNamed, lastActive, lastOther, place, filled⟩ := ih earlier
      cases nextNamed : dec.names config next with
      | none => exact ⟨last, .inl before, shown, lastNamed, lastActive, lastOther, place, filled⟩
      | some nextPicture =>
        dsimp only
        split
        case isFalse => exact ⟨last, .inl before, shown, lastNamed, lastActive, lastOther, place, filled⟩
        case isTrue written =>
          obtain ⟨nextOther, nextActive⟩ := written
          by_cases clash : dec.slot nextPicture.number = dec.slot picture.number
          · refine ⟨next, .inr rfl, nextPicture, nextNamed, nextActive, nextOther, clash, ?_⟩
            rw [clash, Function.update_self]
          · refine ⟨last, .inl before, shown, lastNamed, lastActive, lastOther, place, ?_⟩
            rw [Function.update_of_ne (Ne.symm clash), filled]
    · refine ⟨dpb, .inr rfl, picture, named, active, other, rfl, ?_⟩
      rw [named]
      dsimp only
      rw [if_pos ⟨other, active⟩, Function.update_self]

theorem findFirstZeroBit_spec {word size : ℕ} (free : ∃ bit < size, word.testBit bit = false) :
    findFirstZeroBit word size < size ∧ word.testBit (findFirstZeroBit word size) = false := by
  obtain ⟨bit, below, clear⟩ := free
  rw [findFirstZeroBit]
  cases found : (List.range size).find? fun bit => !word.testBit bit with
  | none =>
    have set := List.find?_eq_none.mp found bit (List.mem_range.mpr below)
    simp [clear] at set
  | some first =>
    have clear := List.find?_some found
    exact ⟨List.mem_range.mp (List.mem_of_find?_eq_some found), by simpa using clear⟩

/-- The slots of what a DPB names are below the number of frames, and different for different pictures. -/
structure Decoder.Apart (dec : Decoder) (pictures : List Located) : Prop where
  below : ∀ picture ∈ pictures, dec.slot picture.number < frameNum
  slots : ∀ picture ∈ pictures, ∀ other ∈ pictures,
    dec.slot picture.number = dec.slot other.number ↔ picture.timestamp = other.timestamp

/-- The slot of a job, from its DPB. -/
def Decoder.position (dec : Decoder) (config : Config) (job : Job) : ℕ :=
  (dec.visits config job.timestamp job.entries).position

/-- Sixteen entries leave one of the slots free. -/
theorem Decoder.exists_free (dec : Decoder) (config : Config) (job : Job) :
    ∃ bit < frameNum, (dec.visits config job.timestamp job.entries).usedDpbs.testBit bit = false := by
  by_contra full
  simp only [not_exists, not_and, Bool.not_eq_false] at full
  have used : Finset.range frameNum ⊆ ((dec.named config job).map fun picture => dec.slot picture.number).toFinset := by
    intro bit below
    have set := full bit (Finset.mem_range.mp below)
    obtain ⟨picture, named, place⟩ := (dec.visits_used job.timestamp job.entries bit).mp set
    exact List.mem_toFinset.mpr (List.mem_map.mpr ⟨picture, named, place⟩)
  have few : frameNum ≤ 16 := calc
    frameNum = (Finset.range frameNum).card := (Finset.card_range _).symm
    _ ≤ ((dec.named config job).map fun picture => dec.slot picture.number).toFinset.card := Finset.card_le_card used
    _ ≤ ((dec.named config job).map fun picture => dec.slot picture.number).length := List.toFinset_card_le _
    _ ≤ job.entries.length := by
      rw [List.length_map]
      exact List.length_filterMap_le ..
    _ = 16 := by rw [Job.entries, List.length_map, List.length_range]
  exact absurd few (by decide)

/-- A picture of the DPB shares the slot of the job just when it is the picture of the job. -/
theorem Decoder.position_spec (apart : dec.Apart (dec.named config job)) :
    dec.position config job < frameNum ∧
      ∀ picture ∈ dec.named config job,
        dec.slot picture.number = dec.position config job ↔ picture.timestamp = job.timestamp := by
  obtain ⟨owned, free⟩ := @visits_output config dec job.timestamp job.entries
  rw [position, FrameList.position]
  cases output : (dec.visits config job.timestamp job.entries).output with
  | some position =>
    obtain ⟨own, named, same, rfl⟩ := owned position output
    refine ⟨apart.below own named, fun picture member => ?_⟩
    rw [Option.getD_some, apart.slots picture member own named, same]
  | none =>
    obtain ⟨below, clear⟩ := findFirstZeroBit_spec (dec.exists_free config job)
    refine ⟨below, fun picture member => ?_⟩
    have unused : dec.slot picture.number ≠
        findFirstZeroBit (dec.visits config job.timestamp job.entries).usedDpbs frameNum := by
      intro clash
      have set := (dec.visits_used job.timestamp job.entries _).mpr ⟨picture, member, clash⟩
      rw [clear] at set
      cases set
    exact iff_of_false unused (free output picture member)

@[simp] theorem Decoder.setTimestamp_slot (dec : Decoder) (number other : ℕ) (timestamp : Option ℕ) :
    (dec.setTimestamp number timestamp).slot other = dec.slot other := by
  by_cases same : other = number
  · subst same
    simp [setTimestamp, slot]
  · simp [setTimestamp, slot, Function.update_of_ne same]

theorem Decoder.setBuffer_timestamp (dec : Decoder) (number other : ℕ) (buffer : Buffer) :
    ((dec.setBuffer number buffer).picture other).timestamp = (dec.picture other).timestamp := by
  by_cases same : other = number
  · subst same
    simp [setBuffer]
  · simp [setBuffer, Function.update_of_ne same]

theorem Decoder.setBuffer_buffer (dec : Decoder) (number other : ℕ) (buffer : Buffer) :
    ((dec.setBuffer number buffer).picture other).buffer =
      if other = number then buffer else (dec.picture other).buffer := by
  by_cases same : other = number
  · subst same
    simp [setBuffer]
  · simp [setBuffer, same]

theorem Decoder.setBuffer_slot (dec : Decoder) (number other : ℕ) (buffer : Buffer) :
    (dec.setBuffer number buffer).slot other = if other = number then buffer.position else dec.slot other := by
  rw [slot, setBuffer_buffer, apply_ite Buffer.position, slot]

theorem Buffer.attachMvCol_position {buffer attached : Buffer} {size : ℕ} {mvColAlloc : Option ℕ}
    (there : buffer.attachMvCol size mvColAlloc = some attached) : attached.position = buffer.position := by
  rw [attachMvCol] at there
  split at there
  case isTrue => exact congrArg position (Option.some.inj there).symm
  case isFalse =>
    obtain ⟨dma, -, rfl⟩ := Option.map_eq_some_iff.mp there
    rfl

/-- The frame list is written with the slot of the job in the buffer of its destination, and the output
stands in that slot. -/
theorem Decoder.writeFrameList_spec (dec : Decoder) (config : Config) (job : Job) :
    ∃ buffer, buffer.position = dec.position config job ∧
      (dec.writeFrameList config job).1 = dec.setBuffer job.destination buffer ∧
        ∀ frames, (dec.writeFrameList config job).2 = .ok frames →
          frames.outputFrameIdx = dec.position config job ∧
            frames.picList = Function.update (dec.visits config job.timestamp job.entries).picList
              (dec.position config job)
              (config.fillRefPic job.destination buffer job.topFieldOrderCnt job.bottomFieldOrderCnt) := by
  simp only [writeFrameList]
  split
  case h_1 => exact ⟨_, rfl, rfl, nofun⟩
  case h_2 attached there =>
    refine ⟨{ attached with picType := job.picType }, Buffer.attachMvCol_position there, rfl, ?_⟩
    rintro frames ⟨⟩
    exact ⟨rfl, rfl⟩

theorem Decoder.jobConfigure_slot (dec : Decoder) (config : Config) (job : Job) (number : ℕ) :
    (dec.jobConfigure config job).1.slot number =
      if number = job.destination then dec.position config job else dec.slot number := by
  obtain ⟨buffer, place, after, -⟩ := dec.writeFrameList_spec config job
  rw [jobConfigure, after, setBuffer_slot, place]

theorem Decoder.jobConfigure_pictureFind (dec : Decoder) (config : Config) (job : Job) (timestamp : ℕ) :
    (dec.jobConfigure config job).1.pictureFind config timestamp = dec.pictureFind config timestamp := by
  obtain ⟨buffer, -, after, -⟩ := dec.writeFrameList_spec config job
  rw [jobConfigure, after]
  simp only [pictureFind, setBuffer_timestamp]

theorem Decoder.jobConfigure_names (dec : Decoder) (config : Config) (job : Job) :
    (dec.jobConfigure config job).1.names config = dec.names config := by
  funext dpb
  rw [names, names, jobConfigure_pictureFind]

/-- A job that is programmed has its frame list written. -/
theorem Decoder.jobConfigure_ok {program : Program} (configured : (dec.jobConfigure config job).2 = .ok program) :
    ∃ frames, (dec.writeFrameList config job).2 = .ok frames ∧
      (dec.jobConfigure config job).1.setParams config job frames = program := by
  change (dec.writeFrameList config job).2.map _ = _ at configured
  cases written : (dec.writeFrameList config job).2 with
  | error =>
    rw [written] at configured
    cases configured
  | ok frames =>
    rw [written] at configured
    exact ⟨frames, rfl, Except.ok.inj configured⟩

theorem Decoder.begin_timestamp (dec : Decoder) (job : Job) :
    ((dec.begin job).picture job.destination).timestamp = some job.timestamp := by
  simp [begin, setTimestamp]

/-- The job finds its output by its own timestamp only. -/
theorem Decoder.begin_destination {timestamp : ℕ}
    (found : (dec.begin job).pictureFind config timestamp = some job.destination) : timestamp = job.timestamp :=
  Option.some.inj ((pictureFind_timestamp found).symm.trans (dec.begin_timestamp job))

/-- The pictures of its DPB stay in their slots. -/
theorem Decoder.jobConfigure_named (apart : (dec.begin job).Apart ((dec.begin job).named config job))
    {picture : Located} (named : picture ∈ (dec.begin job).named config job) :
    ((dec.begin job).jobConfigure config job).1.slot picture.number = (dec.begin job).slot picture.number := by
  rw [jobConfigure_slot]
  split
  case isFalse => rfl
  case isTrue same =>
    have own := begin_destination (same ▸ (mem_named.mp named).2)
    exact (((position_spec apart).2 picture named).mpr own).symm

theorem Decoder.jobConfigure_output (dec : Decoder) (config : Config) (job : Job) :
    (dec.jobConfigure config job).1.slot job.destination = dec.position config job := by
  rw [jobConfigure_slot, if_pos rfl]

/-- If the slots of its DPB are apart, they are after the job, with the slot of its output. -/
theorem Decoder.Apart.jobConfigure (apart : (dec.begin job).Apart ((dec.begin job).named config job)) :
    ((dec.begin job).jobConfigure config job).1.Apart (job.output :: (dec.begin job).named config job) := by
  obtain ⟨below, own⟩ := position_spec apart
  constructor
  · intro picture member
    obtain rfl | named := List.mem_cons.mp member
    · exact (jobConfigure_output _ config job).trans_lt below
    · exact (jobConfigure_named apart named).trans_lt (apart.below picture named)
  · intro picture member other also
    obtain rfl | named := List.mem_cons.mp member <;> obtain rfl | alsoNamed := List.mem_cons.mp also
    · exact iff_of_true rfl rfl
    · rw [jobConfigure_named apart alsoNamed, Job.output, jobConfigure_output, eq_comm, own other alsoNamed, eq_comm]
    · rw [jobConfigure_named apart named, Job.output, jobConfigure_output, own picture named]
    · rw [jobConfigure_named apart named, jobConfigure_named apart alsoNamed]
      exact apart.slots picture named other alsoNamed

/-- A valid entry of the DPB names the picture of the job, which is its first field. -/
def Job.HoldsFirstField (job : Job) : Prop :=
  ∃ dpb ∈ job.entries, dpb.valid = true ∧ dpb.referenceTs = job.timestamp

/-- What the slot of the last output says of the pictures its DPB named: unless one of them is lost, they fill
the slots below, or the output itself is among them. -/
structure Seated (dec : Decoder) (history : History) (first : Job) : Prop where
  pictures : ∀ picture ∈ history.pictures, picture = first.output ∨ picture ∈ history.named
  held : first.HoldsFirstField →
    ∃ picture ∈ history.named, picture.timestamp = first.timestamp ∧
      dec.slot picture.number ≤ dec.slot first.destination
  lower : ¬ first.HoldsFirstField →
    (∀ picture ∈ history.named, dec.slot picture.number ≤ dec.slot first.destination →
      (dec.picture picture.number).timestamp = some picture.timestamp) →
        ∀ slot < dec.slot first.destination, ∃ picture ∈ history.named, dec.slot picture.number = slot

/-- The slots of what the last job named are apart, and its output is among them. -/
structure Kept (s : Recorded Decoder History) : Prop where
  apart : s.state.Apart s.history.pictures
  last : ∀ job ∈ s.history.last, job.output ∈ s.history.pictures
  seated : ∀ job ∈ s.history.last, Seated s.state s.history job

/-- What a job that follows names has its slots apart when it begins. -/
theorem Kept.begin {s : Recorded Decoder History} (kept : Kept s) (follows : Follows config s (.runJob job)) :
    (s.state.begin job).Apart ((s.state.begin job).named config job) := by
  obtain ⟨-, -, -, earlier⟩ := follows
  constructor
  · intro picture named
    rw [Decoder.begin, Decoder.setTimestamp_slot]
    exact kept.apart.below picture (earlier picture named)
  · intro picture named other also
    rw [Decoder.begin, Decoder.setTimestamp_slot, Decoder.setTimestamp_slot]
    exact kept.apart.slots picture (earlier picture named) other (earlier other also)

theorem Decoder.exists_pictureFind (dec : Decoder) (inRange : job.destination < config.pictures) :
    ∃ number, (dec.begin job).pictureFind config job.timestamp = some number := by
  rw [← Option.isSome_iff_exists, pictureFind, List.find?_isSome]
  exact ⟨job.destination, List.mem_range.mpr inRange, decide_eq_true (dec.begin_timestamp job)⟩

/-- The first free slot has no free slot below. -/
theorem testBit_of_lt_findFirstZeroBit {word size bit : ℕ} (below : bit < findFirstZeroBit word size)
    (inside : bit < size) : word.testBit bit = true := by
  rw [findFirstZeroBit] at below
  cases found : (List.range size).find? fun bit => !word.testBit bit with
  | none => simpa using List.find?_eq_none.mp found bit (List.mem_range.mpr inside)
  | some first =>
    rw [found, Option.getD_some] at below
    obtain ⟨-, -, earlier⟩ := List.find?_range_eq_some.mp found
    simpa using earlier bit below

theorem findFirstZeroBit_eq {word size bit : ℕ} (inside : bit < size) (clear : word.testBit bit = false)
    (lower : ∀ other < bit, word.testBit other = true) : findFirstZeroBit word size = bit := by
  have found : (List.range size).find? (fun bit => !word.testBit bit) = some bit := by
    rw [List.find?_range_eq_some]
    exact ⟨by simp [clear], List.mem_range.mpr inside, fun other below => by simp [lower other below]⟩
  rw [findFirstZeroBit, found, Option.getD_some]

/-- A job seats its output. -/
theorem Seated.runJob (inRange : job.destination < config.pictures)
    (apart : (dec.begin job).Apart ((dec.begin job).named config job)) :
    let named := (dec.begin job).named config job
    Seated ((dec.begin job).jobConfigure config job).1 { last := some job, named, pictures := job.output :: named }
      job where
  pictures _ member := List.mem_cons.mp member
  held holds := by
    obtain ⟨number, found⟩ := dec.exists_pictureFind inRange
    have named : ⟨number, job.timestamp⟩ ∈ (dec.begin job).named config job := Decoder.mem_named.mpr ⟨holds, found⟩
    refine ⟨_, named, rfl, ?_⟩
    rw [Decoder.jobConfigure_named apart named, Decoder.jobConfigure_output]
    exact (((Decoder.position_spec apart).2 _ named).mpr rfl).le
  lower lacks _ slot below := by
    rw [Decoder.jobConfigure_output, Decoder.position, FrameList.position] at below
    obtain ⟨owned, -⟩ := @Decoder.visits_output config (dec.begin job) job.timestamp job.entries
    cases output : ((dec.begin job).visits config job.timestamp job.entries).output with
    | some position =>
      obtain ⟨picture, named, same, -⟩ := owned position output
      obtain ⟨dpb, member, valid, named⟩ := (Decoder.mem_named.mp named).1
      exact absurd ⟨dpb, member, valid, named.trans same⟩ lacks
    | none =>
      rw [output, Option.getD_none] at below
      have inside : slot < frameNum :=
        below.trans (findFirstZeroBit_spec ((dec.begin job).exists_free config job)).1
      have used := testBit_of_lt_findFirstZeroBit below inside
      obtain ⟨picture, named, place⟩ := ((dec.begin job).visits_used job.timestamp job.entries slot).mp used
      exact ⟨picture, named, (Decoder.jobConfigure_named apart named).trans place⟩

/-- A buffer that is queued loses its timestamp, and no slot. -/
theorem Seated.queueBuffer {history : History} {first : Job} (seated : Seated dec history first) (number : ℕ) :
    Seated (dec.setTimestamp number none) history first where
  pictures := seated.pictures
  held holds := by
    obtain ⟨picture, named, same, low⟩ := seated.held holds
    exact ⟨picture, named, same, by simpa only [Decoder.setTimestamp_slot] using low⟩
  lower lacks there := by
    simp only [Decoder.setTimestamp_slot] at there ⊢
    refine seated.lower lacks fun picture named low => ?_
    have still := there picture named low
    by_cases queued : picture.number = number
    · simp [Decoder.setTimestamp, queued] at still
    · simpa [Decoder.setTimestamp, Function.update_of_ne queued] using still

/-- A new buffer is in the first slot, and goes by no timestamp. -/
theorem Seated.bufferSetup {history : History} {first : Job} {number : ℕ} (seated : Seated dec history first)
    (other : first.destination ≠ number) :
    Seated { dec with picture := Function.update dec.picture number {} }
      { history with
        last := history.last.filter (·.destination ≠ number)
        pictures := history.pictures.filter (·.number ≠ number) } first := by
  have slots (number' : ℕ) : Decoder.slot { dec with picture := Function.update dec.picture number {} } number' =
      if number' = number then 0 else dec.slot number' := by
    by_cases same : number' = number
    · subst same
      simp [Decoder.slot]
    · simp [Decoder.slot, same]
  refine ⟨fun picture member => seated.pictures picture (List.mem_filter.mp member).1, fun holds => ?_,
    fun lacks there => ?_⟩
  · obtain ⟨picture, named, same, low⟩ := seated.held holds
    refine ⟨picture, named, same, ?_⟩
    rw [slots, slots, if_neg other]
    split
    case isTrue => exact Nat.zero_le _
    case isFalse => exact low
  · have elsewhere : ∀ picture ∈ history.named, picture.number ≠ number := by
      intro picture named same
      have still := there picture named (by rw [slots, if_pos same]; exact Nat.zero_le _)
      simp [same] at still
    intro slot below
    rw [slots, if_neg other] at below
    obtain ⟨picture, named, place⟩ := seated.lower lacks (fun picture named low => by
      have still := there picture named (by rwa [slots, slots, if_neg other, if_neg (elsewhere picture named)])
      simpa [Function.update_of_ne (elsewhere picture named)] using still) slot below
    exact ⟨picture, named, by rw [slots, if_neg (elsewhere picture named), place]⟩

theorem Kept.step {s : Recorded Decoder History} {event : Event} {next : Decoder} (kept : Kept s)
    (follows : Follows config s event) (taken : step config s.state event = some next) :
    Kept ⟨next, History.write config s.state event next s.history⟩ := by
  cases event with
  | queueBuffer number =>
    obtain rfl := Option.some.inj taken
    refine ⟨⟨?_, ?_⟩, kept.last, fun job last => (kept.seated job last).queueBuffer number⟩
    · intro picture member
      rw [Decoder.setTimestamp_slot]
      exact kept.apart.below picture member
    · intro picture member other also
      rw [Decoder.setTimestamp_slot, Decoder.setTimestamp_slot]
      exact kept.apart.slots picture member other also
  | bufferSetup number =>
    obtain rfl := Option.some.inj taken
    have others : ∀ other, other ≠ number →
        Decoder.slot { s.state with picture := Function.update s.state.picture number {} } other =
          s.state.slot other := fun other different =>
      congrArg (fun picture : Picture => picture.buffer.position) (Function.update_of_ne different ..)
    refine ⟨⟨?_, ?_⟩, ?_, ?_⟩
    · intro picture member
      obtain ⟨member, different⟩ := List.mem_filter.mp member
      rw [others _ (of_decide_eq_true different)]
      exact kept.apart.below picture member
    · intro picture member other also
      obtain ⟨member, different⟩ := List.mem_filter.mp member
      obtain ⟨also, alsoDifferent⟩ := List.mem_filter.mp also
      rw [others _ (of_decide_eq_true different), others _ (of_decide_eq_true alsoDifferent)]
      exact kept.apart.slots picture member other also
    · intro job last
      obtain ⟨last, different⟩ := Option.mem_filter_iff.mp last
      exact List.mem_filter.mpr ⟨kept.last job last, different⟩
    · intro job last
      obtain ⟨last, different⟩ := Option.mem_filter_iff.mp last
      exact (kept.seated job last).bufferSetup (of_decide_eq_true different)
  | runJob job =>
    obtain rfl := Option.some.inj taken
    refine ⟨(kept.begin follows).jobConfigure, ?_, ?_⟩
    · rintro _ ⟨⟩
      exact List.mem_cons_self
    · rintro _ ⟨⟩
      exact Seated.runJob follows.1 (kept.begin follows)

theorem kept_of_follows {events : List Event} {s : Recorded Decoder History}
    (follows : Guarded (record (step config) (History.write config)) (Follows config) ⟨{}, {}⟩
      (events ++ [.runJob job]))
    (reached : run (record (step config) (History.write config)) ⟨{}, {}⟩ events = some s) :
    Kept s ∧ Follows config s (.runJob job) := by
  obtain ⟨before, last⟩ := follows.of_append
  have initial : Kept ⟨{}, {}⟩ := by
    refine ⟨⟨?_, ?_⟩, ?_, ?_⟩
    · exact fun _ none => absurd none List.not_mem_nil
    · exact fun _ none => absurd none List.not_mem_nil
    · exact fun _ none => nomatch none
    · exact fun _ none => nomatch none
  refine ⟨before.run_preserves Kept ?_ initial reached, (last s reached).1⟩
  intro s event next kept follows taken
  obtain ⟨state, stepped, rfl⟩ := record_iff.mp taken
  exact kept.step follows stepped

/-- The frame list shows a picture in a slot: the output if it goes by the timestamp of the job, and otherwise
the buffer it is in with the order counts of an active entry. -/
def FrameListWrites.Shows (frames : FrameListWrites) (dec : Decoder) (config : Config) (job : Job) (slot : ℕ)
    (picture : Located) : Prop :=
  if picture.timestamp = job.timestamp then
    slot = frames.outputFrameIdx ∧
      frames.picList slot = config.fillRefPic job.destination (dec.picture job.destination).buffer job.topFieldOrderCnt
        job.bottomFieldOrderCnt
  else
    ∃ dpb ∈ job.entries, dpb.active = true ∧ dpb.referenceTs = picture.timestamp ∧
      frames.picList slot = dec.fills config dpb picture

/-- Each active entry of a reference list whose picture is there carries a slot in which the frame list shows it. -/
def FrameListWrites.Agrees (frames : FrameListWrites) (dec : Decoder) (config : Config) (job : Job) (list : RefList)
    (bytes : List UInt8) : Prop :=
  ∀ i < list.numRef, let dpb := job.dpb (list.refPicList i).index.toNat
    dpb.active = true → ∀ number ∈ dec.pictureFind config dpb.referenceTs,
      ∃ slot byte, bytes[i]? = some byte ∧
        byte.toNat = 2 * slot + (if (list.refPicList i).fields = bottomFieldRef then 1 else 0) ∧
          frames.Shows dec config job slot ⟨number, dpb.referenceTs⟩

/-- An entry of a reference list is the slot and the parity of its field. -/
theorem toNat_slotByte {slot : ℕ} (below : slot < frameNum) (bottom : Prop) [Decidable bottom] :
    (UInt8.ofNat (slot <<< 1) ||| if bottom then 1 else 0).toNat = 2 * slot + if bottom then 1 else 0 := by
  have bit : (if bottom then 1 else 0 : UInt8).toNat = if bottom then 1 else 0 := by split <;> rfl
  have small : (if bottom then 1 else 0) < 2 ^ 1 := by split <;> decide
  have whole : slot <<< 1 < 2 ^ 8 := by
    rw [Nat.shiftLeft_eq]
    exact (Nat.mul_lt_mul_of_pos_right below (by decide)).trans (by decide)
  rw [UInt8.toNat_or, UInt8.toNat_ofNat_of_lt' whole, bit, ← Nat.shiftLeft_add_eq_or_of_lt small, Nat.shiftLeft_eq]
  omega

theorem Decoder.writeRefList_getElem (dec : Decoder) (config : Config) (job : Job) {list : RefList} {i : ℕ}
    (below : i < list.numRef) :
    (dec.writeRefList config job list)[i]? = some (dec.refByte config job (list.refPicList i)) := by
  have numRef : list.numRef ≤ 32 := list.numRefIdxActiveMinus1.isLt
  have aligned : list.numRef ≤ align list.numRef 4 := le_align _ (by decide)
  simp only [writeRefList]
  rw [List.getElem?_take_of_lt (by omega), List.getElem?_map, List.getElem?_range (by omega), Option.map_some,
    if_pos below]

/-- The frame list shows every picture of the DPB with an active entry. -/
theorem Decoder.writeFrameList_shows (apart : (dec.begin job).Apart ((dec.begin job).named config job))
    {frames : FrameListWrites} (written : ((dec.begin job).writeFrameList config job).2 = .ok frames)
    (member : dpb ∈ job.entries) (active : dpb.active = true) {picture : Located}
    (named : (dec.begin job).names config dpb = some picture) :
    let after := ((dec.begin job).jobConfigure config job).1
    frames.Shows after config job (after.slot picture.number) picture := by
  obtain ⟨buffer, place, after, programmed⟩ := (dec.begin job).writeFrameList_spec config job
  obtain ⟨index, picList⟩ := programmed frames written
  have among : picture ∈ (dec.begin job).named config job := List.mem_filterMap.mpr ⟨dpb, member, named⟩
  have own := (position_spec apart).2 picture among
  intro final
  rw [jobConfigure_named apart among, FrameListWrites.Shows, index, picList]
  have final_eq : final = (dec.begin job).setBuffer job.destination buffer := after
  split
  case isTrue same =>
    rw [own.mpr same, final_eq, Function.update_self, setBuffer_buffer, if_pos rfl]
    exact ⟨rfl, rfl⟩
  case isFalse different =>
    obtain ⟨last, lastMember, shown, lastNamed, lastActive, -, clash, filled⟩ :=
      visits_picList job.timestamp job.entries member named active (Ne.symm different)
    have shownAmong : shown ∈ (dec.begin job).named config job := List.mem_filterMap.mpr ⟨last, lastMember, lastNamed⟩
    obtain rfl := named_inj shownAmong among ((apart.slots shown shownAmong picture among).mp clash)
    have elsewhere : shown.number ≠ job.destination := fun same =>
      different (begin_destination (same ▸ (names_iff.mp named).2.2))
    refine ⟨last, lastMember, lastActive, (names_iff.mp lastNamed).2.1, ?_⟩
    rw [Function.update_of_ne (fun same => different (own.mp same)), filled, fills, fills, final_eq, setBuffer_buffer,
      if_neg elsewhere]

/-- The bytes of a reference list agree with the frame list of the job. -/
theorem Decoder.writeRefList_agrees {s : Recorded Decoder History} (kept : Kept s)
    (follows : Follows config s (.runJob job)) {frames : FrameListWrites}
    (written : ((s.state.begin job).writeFrameList config job).2 = .ok frames) {list : RefList}
    (among : list ∈ [job.refList0, job.refList1]) :
    let after := ((s.state.begin job).jobConfigure config job).1
    frames.Agrees after config job list (after.writeRefList config job list) := by
  intro after i below dpb active number found
  have apart := kept.begin follows
  obtain ⟨-, activeValid, indices, -⟩ := follows
  have member : dpb ∈ job.entries := by
    have index : (list.refPicList i).index.toNat < 16 := UInt8.lt_iff_toNat_lt.mp (indices list among i below)
    exact List.mem_map.mpr ⟨_, List.mem_range.mpr index, rfl⟩
  have located : (s.state.begin job).pictureFind config dpb.referenceTs = some number :=
    ((s.state.begin job).jobConfigure_pictureFind config job _).symm.trans found
  have named : (s.state.begin job).names config dpb = some ⟨number, dpb.referenceTs⟩ :=
    names_iff.mpr ⟨activeValid dpb member active, rfl, located⟩
  have shown := writeFrameList_shows apart written member active named
  have inList : after.slot number < frameNum :=
    apart.jobConfigure.below _ (List.mem_cons_of_mem _ (List.mem_filterMap.mpr ⟨dpb, member, named⟩))
  refine ⟨after.slot number, _, after.writeRefList_getElem config job below, ?_, shown⟩
  have byte : after.refByte config job (list.refPicList i) =
      UInt8.ofNat (after.slot number <<< 1) ||| if (list.refPicList i).fields = bottomFieldRef then 1 else 0 := by
    rw [refByte, show job.dpb (list.refPicList i).index.toNat = dpb from rfl, active, found]
    rfl
  rw [byte, toNat_slotByte inList]

/-- The context after the job, and what was programmed for it. -/
def Configured (config : Config) (s : Recorded Decoder History) (job : Job) : Decoder × Except ℤ Program :=
  (s.state.begin job).jobConfigure config job

/-- The pictures of the DPB and the output are in slots of their own, and the reference lists name them. -/
structure SlotsSound (config : Config) (s : Recorded Decoder History) (job : Job) : Prop where
  apart : let after := (Configured config s job).1
    ∀ picture ∈ after.named config job, ∀ other ∈ after.named config job,
      picture ≠ other → after.slot picture.number ≠ after.slot other.number
  below : let after := (Configured config s job).1
    ∀ picture ∈ job.output :: after.named config job, after.slot picture.number < frameNum
  output : let after := (Configured config s job).1
    ∀ picture ∈ after.named config job, picture.timestamp ≠ job.timestamp →
      after.slot picture.number ≠ after.slot job.destination
  lists : let after := (Configured config s job).1
    ∀ program, (Configured config s job).2 = .ok program →
      (∀ bytes ∈ program.refList0, program.frames.Agrees after config job job.refList0 bytes) ∧
        ∀ bytes ∈ program.refList1, program.frames.Agrees after config job job.refList1 bytes

/-- The job decodes the other field of the picture that the last job decoded. -/
def Job.IsSecondField (job first : Job) : Prop :=
  job.output = first.output ∧ first.fieldPic = true ∧ job.fieldPic = true ∧ job.bottomField ≠ first.bottomField

/-- The output of the job stays in the slot it was in. -/
def KeepsSlot (config : Config) (s : Recorded Decoder History) (job : Job) : Prop :=
  (Configured config s job).1.slot job.destination = s.state.slot job.destination

instance (config : Config) (s : Recorded Decoder History) (job : Job) : Decidable (KeepsSlot config s job) :=
  inferInstanceAs (Decidable (_ = _))

/-- The DPB holds the picture of the job, or it still names what the DPB of the last job named in its slot and
below. -/
def HoldsSlot (config : Config) (s : Recorded Decoder History) (job : Job) : Prop :=
  job.HoldsFirstField ∨
    ∀ picture ∈ s.history.named, s.state.slot picture.number ≤ s.state.slot job.destination →
      picture ∈ (s.state.begin job).named config job

instance (job : Job) : Decidable job.HoldsFirstField :=
  inferInstanceAs (Decidable (∃ dpb ∈ job.entries, _))

instance (config : Config) (s : Recorded Decoder History) (job : Job) : Decidable (HoldsSlot config s job) :=
  inferInstanceAs (Decidable (_ ∨ _))

theorem Kept.slotsSound {s : Recorded Decoder History} (kept : Kept s) (follows : Follows config s (.runJob job)) :
    SlotsSound config s job := by
  have apart := (kept.begin follows).jobConfigure
  have same : (Configured config s job).1.named config job = (s.state.begin job).named config job :=
    congrArg job.entries.filterMap (Decoder.jobConfigure_names ..)
  refine ⟨?_, ?_, ?_, ?_⟩
  · intro after picture named other also different clash
    rw [same] at named also
    have timestamps := (apart.slots picture (List.mem_cons_of_mem _ named) other (List.mem_cons_of_mem _ also)).mp clash
    exact different (Decoder.named_inj named also timestamps)
  · intro after picture member
    rw [same] at member
    exact apart.below picture member
  · intro after picture named different clash
    rw [same] at named
    exact different ((apart.slots picture (List.mem_cons_of_mem _ named) job.output List.mem_cons_self).mp clash)
  · intro after program configured
    obtain ⟨frames, written, rfl⟩ := Decoder.jobConfigure_ok configured
    constructor
    · intro bytes there
      simp only [Decoder.setParams, Option.mem_def] at there
      split at there
      case isFalse => cases there
      case isTrue =>
        obtain rfl := Option.some.inj there
        exact Decoder.writeRefList_agrees kept follows written List.mem_cons_self
    · intro bytes there
      simp only [Decoder.setParams, Option.mem_def] at there
      split at there
      case isFalse => cases there
      case isTrue =>
        obtain rfl := Option.some.inj there
        exact Decoder.writeRefList_agrees kept follows written (List.mem_cons_of_mem _ List.mem_cons_self)

/-- A job into the output of the last one keeps its slot if its DPB holds it. -/
theorem Kept.keepsSlot_of_held {s : Recorded Decoder History} {first : Job} (kept : Kept s)
    (follows : Follows config s (.runJob job)) (last : first ∈ s.history.last) (same : job.output = first.output)
    (holds : job.HoldsFirstField) : KeepsSlot config s job := by
  obtain ⟨number, found⟩ := s.state.exists_pictureFind follows.1
  have named : ⟨number, job.timestamp⟩ ∈ (s.state.begin job).named config job := Decoder.mem_named.mpr ⟨holds, found⟩
  have own := (Decoder.position_spec (kept.begin follows)).2 _ named
  have before : s.state.slot number = s.state.slot job.destination :=
    (kept.apart.slots _ (follows.2.2.2 _ named) job.output (same ▸ kept.last first last)).mpr rfl
  rw [KeepsSlot, Configured, Decoder.jobConfigure_output, ← own.mpr rfl, ← before]
  exact Decoder.setTimestamp_slot ..

/-- A DPB that does not hold the output names other pictures. -/
theorem Decoder.named_other {dec : Decoder} {picture : Located} (lacks : ¬ job.HoldsFirstField)
    (named : picture ∈ dec.named config job) : picture.timestamp ≠ job.timestamp := by
  obtain ⟨dpb, member, valid, referenceTs⟩ := (Decoder.mem_named.mp named).1
  exact fun own => lacks ⟨dpb, member, valid, referenceTs.trans own⟩

/-- The buffer of a named picture had its timestamp before the job put its own on the output. -/
theorem Decoder.named_timestamp {dec : Decoder} {picture : Located} (named : picture ∈ (dec.begin job).named config job)
    (other : picture.timestamp ≠ job.timestamp) :
    (dec.picture picture.number).timestamp = some picture.timestamp := by
  have found := (Decoder.mem_named.mp named).2
  have elsewhere : picture.number ≠ job.destination := fun own => other (Decoder.begin_destination (own ▸ found))
  have carried := Decoder.pictureFind_timestamp found
  simpa [Decoder.begin, Decoder.setTimestamp, Function.update_of_ne elsewhere] using carried

theorem Decoder.visits_output_of_lacks (dec : Decoder) (lacks : ¬ job.HoldsFirstField) :
    (dec.visits config job.timestamp job.entries).output = none := by
  obtain ⟨owned, -⟩ := @Decoder.visits_output config dec job.timestamp job.entries
  rw [Option.eq_none_iff_forall_not_mem]
  intro position output
  obtain ⟨picture, named, own, -⟩ := owned position output
  exact Decoder.named_other lacks named own

/-- It also keeps its slot if its DPB does not hold it, and still names the pictures in the slots below. -/
theorem Kept.keepsSlot_of_lacks {s : Recorded Decoder History} {first : Job} (kept : Kept s)
    (follows : Follows config s (.runJob job)) (last : first ∈ s.history.last) (same : job.output = first.output)
    (lacks : ¬ job.HoldsFirstField)
    (still : ∀ picture ∈ s.history.named, s.state.slot picture.number ≤ s.state.slot job.destination →
      picture ∈ (s.state.begin job).named config job) : KeepsSlot config s job := by
  have seated : Seated s.state s.history first := kept.seated first last
  obtain ⟨destination, timestamp⟩ : job.destination = first.destination ∧ job.timestamp = first.timestamp := by
    simpa only [Job.output, Located.mk.injEq] using same
  have firstLacks : ¬ first.HoldsFirstField := by
    intro holds
    obtain ⟨picture, named, own, low⟩ := seated.held holds
    exact Decoder.named_other lacks (still picture named (destination ▸ low)) (own.trans timestamp.symm)
  have there (picture : Located) (named : picture ∈ s.history.named)
      (low : s.state.slot picture.number ≤ s.state.slot first.destination) :
      (s.state.picture picture.number).timestamp = some picture.timestamp := by
    have named := still picture named (destination ▸ low)
    exact Decoder.named_timestamp named (Decoder.named_other lacks named)
  have used (slot : ℕ) := @Decoder.visits_used config (s.state.begin job) job.timestamp job.entries slot
  simp only [Decoder.begin, Decoder.setTimestamp_slot] at used
  have clear : ((s.state.begin job).visits config job.timestamp job.entries).usedDpbs.testBit
      (s.state.slot job.destination) = false := by
    rw [Bool.eq_false_iff]
    intro set
    obtain ⟨picture, named, clash⟩ := (used _).mp set
    have among : job.output ∈ s.history.pictures := same ▸ kept.last first last
    exact Decoder.named_other lacks named
      ((kept.apart.slots picture (follows.2.2.2 picture named) job.output among).mp clash)
  have lower : ∀ slot < s.state.slot job.destination,
      ((s.state.begin job).visits config job.timestamp job.entries).usedDpbs.testBit slot = true := by
    intro slot below
    obtain ⟨picture, named, place⟩ := seated.lower firstLacks there slot (destination ▸ below)
    exact (used slot).mpr ⟨picture, still picture named (by rw [place]; exact below.le), place⟩
  have below : s.state.slot job.destination < frameNum := kept.apart.below job.output (same ▸ kept.last first last)
  rw [KeepsSlot, Configured, Decoder.jobConfigure_output, Decoder.position, FrameList.position,
    Decoder.visits_output_of_lacks _ lacks, Option.getD_none, findFirstZeroBit_eq below clear lower]

/-- In a run whose DPBs name only what the last picture's DPB named and its output, the slots never collide. A
second field, and every further slice into the output of the last job, keeps the slot if its DPB holds that picture,
or still names what the last DPB named up to its slot. -/
theorem slots_never_collide (config : Config) (events : List Event) (s : Recorded Decoder History) (job : Job)
    (follows : Guarded (record (step config) (History.write config)) (Follows config) ⟨{}, {}⟩
      (events ++ [.runJob job]))
    (reached : run (record (step config) (History.write config)) ⟨{}, {}⟩ events = some s) :
    SlotsSound config s job ∧
      ∀ first ∈ s.history.last, job.output = first.output → HoldsSlot config s job → KeepsSlot config s job := by
  obtain ⟨kept, follows⟩ := kept_of_follows follows reached
  refine ⟨kept.slotsSound follows, ?_⟩
  intro first last same holds
  by_cases held : job.HoldsFirstField
  · exact kept.keepsSlot_of_held follows last same held
  · exact kept.keepsSlot_of_lacks follows last same held (holds.resolve_left held)

/-- Three picture buffers of one macroblock. -/
def smallConfig : Config where
  size := ⟨16, 16, by decide, by decide, by decide, by decide⟩
  bytesperline := 16
  pictureHeight := 16
  pictures := 3
  planeDma number := 0x10000 * (number + 1)

/-- A job that names pictures by their timestamps, each as a reference. -/
def smallJob (destination timestamp : ℕ) (names : List ℕ) (fieldPic bottomField : Bool) : Job where
  destination
  timestamp
  dpb i := (names[i]?.map fun referenceTs => { valid := true, active := true, referenceTs }).getD {}
  topFieldOrderCnt := 0
  bottomFieldOrderCnt := 0
  fieldPic
  bottomField
  sps := ⟨true, false⟩
  mbAdaptiveFrameField := false
  sliceType := .p
  refList0 := ⟨fun i => ⟨bottomFieldRef, .ofNat (i % names.length)⟩, 1⟩
  refList1 := ⟨fun _ => ⟨0, 0⟩, 0⟩
  mvColAlloc := some 0x80000

/-- Two frames, then the first field of a third picture. -/
def twoFramesAndField : List Event :=
  [.runJob (smallJob 0 10 [] false false), .runJob (smallJob 1 20 [10] false false),
    .runJob (smallJob 2 30 [10, 20] true false)]

/-- The second field of a reference, which holds the first one, and that of a picture that is no reference, with
the DPB of the first. -/
theorem slots_never_collide_fields :
    ∃ s, run (record (step smallConfig) (History.write smallConfig)) ⟨{}, {}⟩ twoFramesAndField = some s ∧
      (SlotsSound smallConfig s (smallJob 2 30 [20, 30] true true) ∧
        KeepsSlot smallConfig s (smallJob 2 30 [20, 30] true true)) ∧
      SlotsSound smallConfig s (smallJob 2 30 [10, 20] true true) ∧
        KeepsSlot smallConfig s (smallJob 2 30 [10, 20] true true) := by
  refine ⟨_, rfl, ?_, ?_⟩
  · obtain ⟨sound, keeps⟩ := slots_never_collide smallConfig twoFramesAndField _ (smallJob 2 30 [20, 30] true true)
      (by decide) rfl
    exact ⟨sound, keeps _ rfl rfl (by decide)⟩
  · obtain ⟨sound, keeps⟩ := slots_never_collide smallConfig twoFramesAndField _ (smallJob 2 30 [10, 20] true true)
      (by decide) rfl
    exact ⟨sound, keeps _ rfl rfl (by decide)⟩

/-- A second field whose DPB names neither its first field nor the oldest frame moves to the slot that frame had. -/
theorem second_field_moves :
    ¬ ∀ (config : Config) (events : List Event) (s : Recorded Decoder History) (job : Job),
      Guarded (record (step config) (History.write config)) (Follows config) ⟨{}, {}⟩ (events ++ [.runJob job]) →
        run (record (step config) (History.write config)) ⟨{}, {}⟩ events = some s →
          SlotsSound config s job ∧ ∀ first ∈ s.history.last, job.IsSecondField first → KeepsSlot config s job := by
  intro always
  obtain ⟨-, keeps⟩ := always smallConfig twoFramesAndField _ (smallJob 2 30 [20] true true) (by decide) rfl
  exact absurd (keeps _ rfl ⟨rfl, rfl, rfl, by decide⟩) (by decide)

end H618Vpu.DecH264
