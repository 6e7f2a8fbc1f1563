import H618Vpu.Machine.Run
import H618Vpu.Model.Vp9Snapshot

/-! # When a VP9 job works on one snapshot of its controls

Nothing protects the payloads between the two callbacks, so a job sees one value of each field
exactly when no write changes it in between. That is the whole condition: writes before the first
read, after the last one, to other fields, and to fields which the branches `job_finish` is going to
take do not read are harmless. While the condition holds, the flags keep the branches of both
callbacks in step, and every field the second one reads was read by the first.
-/

namespace H618Vpu.Vp9.Snapshot

open Machine Reading

/-- Each field `job_finish` used was read by `job_configure`, and had the value every one of these
reads saw. -/
def State.OneSnapshot (s : State) : Prop :=
  ∀ used ∈ s.used, (∃ programmed ∈ s.programmed, programmed.1 = used.1.word) ∧
    ∀ programmed ∈ s.programmed, programmed.1 = used.1.word → used.1.Same used.2 programmed.2

instance (s : State) : Decidable s.OneSnapshot := by
  dsimp only [State.OneSnapshot]
  infer_instance

/-- What `job_finish` has yet to do. -/
def Phase.toFinish : Phase → Finishing Unit
  | .idle => .done ()
  | .configuring _ | .running => jobFinish true
  | .finishing rest => rest

/-- The fields `job_finish` has yet to read, with the payloads as they are. -/
def State.toRead (s : State) : List Field := s.phase.toFinish.reads s.payload

/-- `job_configure` has read the word. -/
def State.Programmed (s : State) (word : Word) : Prop := ∃ entry ∈ s.programmed, entry.1 = word

instance (s : State) (word : Word) : Decidable (s.Programmed word) := by
  dsimp only [State.Programmed]
  infer_instance

/-- New payloads keep the fields which were read by `job_configure` and will be read by
`job_finish`. -/
def State.Keeps (s : State) (payload : Controls) : Prop :=
  ∀ field ∈ s.toRead, s.Programmed field.word → field.Same s.payload payload

/-- A direct write changes no field between its first read by `job_configure` and its last read by
`job_finish`. -/
def Undisturbed (s : State) : Event → Prop
  | .writeFrame frame featureEnabled => s.Keeps { s.payload with frame, featureEnabled }
  | .writeCompressedHdr compressedHdr => s.Keeps { s.payload with compressedHdr }
  | _ => True

instance (s : State) (event : Event) : Decidable (Undisturbed s event) := by
  cases event <;> dsimp only [Undisturbed] <;> (try dsimp only [State.Keeps]) <;> infer_instance

namespace Field

variable {field : Field} {a b c : Controls}

theorem Same.refl (field : Field) (a : Controls) : field.Same a a := by cases field <;> rfl

theorem Same.symm (same : field.Same a b) : field.Same b a := by cases field <;> exact Eq.symm same

theorem Same.trans (first : field.Same a b) (second : field.Same b c) : field.Same a c := by
  cases field <;> exact Eq.trans first second

/-- When `job_finish` reads a field. -/
def Used (a : Controls) : Field → Prop
  | .segUpdateMap => a.frame.seg.enabled
  | .parallelDecMode => a.frame.refreshFrameCtx
  | .referenceMode | .interpolationFilter | .txMode | .allowHighPrecMv =>
      a.frame.refreshFrameCtx ∧ !a.frame.parallelDecMode ∧ !a.frame.isIntra
  | _ => True

end Field

theorem reads_finishEntropy (a : Controls) :
    finishEntropyReads.reads a = [.isIntra, .refreshFrameCtx] ++
      if a.frame.refreshFrameCtx then [.parallelDecMode] ++
        if !a.frame.parallelDecMode && !a.frame.isIntra then
          [.referenceMode, .interpolationFilter, .txMode, .allowHighPrecMv]
        else []
      else [] := by
  cases refresh : a.frame.refreshFrameCtx <;> cases parallel : a.frame.parallelDecMode <;>
    cases intra : a.frame.isIntra <;> simp [finishEntropyReads, refresh, parallel, intra]

theorem outcome_finishEntropy (a : Controls) : finishEntropyReads.outcome a = some () := by
  cases refresh : a.frame.refreshFrameCtx <;> cases parallel : a.frame.parallelDecMode <;>
    cases intra : a.frame.isIntra <;> simp [finishEntropyReads, refresh, parallel, intra]

theorem mem_reads_jobFinish (recon : Bool) (a : Controls) (field : Field) :
    field ∈ (jobFinish recon).reads a ↔ field.Used a := by
  simp only [jobFinish, reads_bind, reads_finishEntropy, outcome_finishEntropy]
  cases field <;> simp [finishSegmentMapReads, finishReconReads, Field.Used]

/-- `job_finish` goes on as the fields it takes tell it. -/
theorem jobFinish_depends (recon : Bool) : (jobFinish recon).DependsOn Field.Same := by
  refine .bind (.bind (.get fun _ _ same => same) fun enabled => ?_) fun _ =>
    .bind (.bind (.get fun _ _ same => same) fun intra => .bind (.get fun _ _ same => same) fun refresh => ?_) fun _ =>
      .bind (.bind (.get fun _ _ same => same) fun bitDepth => ?_) fun _ => .skip _
  · split
    · exact .skip _
    · trivial
  · split
    · refine .bind (.get fun _ _ same => same) fun parallel => ?_
      split
      · split
        · exact .skip _
        · trivial
      · trivial
    · trivial
  · split
    · exact .skip _
    · trivial

section Finish

variable {size : ℕ} {a b : Controls} (same : ∀ field : Field, field.Used a → field.Same a b)
  (store : Store size) (output : HwOutput size)

include same

theorem finishSegmentMap_of_same :
    store.finishSegmentMap a.frame output.map = store.finishSegmentMap b.frame output.map := by
  have enabled : a.frame.seg.enabled = b.frame.seg.enabled := same .segEnabled trivial
  by_cases used : a.frame.seg.enabled = true
  · have updateMap : a.frame.seg.updateMap = b.frame.seg.updateMap := same .segUpdateMap used
    simp only [Store.finishSegmentMap, enabled, updateMap]
  · have unused : b.frame.seg.enabled = false := enabled ▸ Bool.eq_false_of_not_eq_true used
    simp only [Store.finishSegmentMap, enabled, unused, Bool.false_and]

/-- The adaptation takes its four arguments on inter frames only. -/
theorem adapted_of_same (refresh : a.frame.refreshFrameCtx = true) (serial : a.frame.parallelDecMode = false) :
    store.adapted a.frame a.compressedHdr output.counts = store.adapted b.frame b.compressedHdr output.counts := by
  have intra : a.frame.isIntra = b.frame.isIntra := same .isIntra trivial
  cases inter : a.frame.isIntra
  · have reads : a.frame.refreshFrameCtx ∧ !a.frame.parallelDecMode ∧ !a.frame.isIntra := by
      simp [refresh, serial, inter]
    have mode : a.frame.referenceMode = b.frame.referenceMode := same .referenceMode reads
    have filter : a.frame.interpolationFilter = b.frame.interpolationFilter := same .interpolationFilter reads
    have txMode : a.compressedHdr.txMode = b.compressedHdr.txMode := same .txMode reads
    have highPrec : a.frame.allowHighPrecMv = b.frame.allowHighPrecMv := same .allowHighPrecMv reads
    simp only [Store.adapted, intra, mode, filter, txMode, highPrec]
  · simp only [Store.adapted, ← intra, inter, ite_true]

theorem finishEntropy_of_same :
    store.finishEntropy a.frame a.compressedHdr output.counts =
      store.finishEntropy b.frame b.compressedHdr output.counts := by
  have refresh : a.frame.refreshFrameCtx = b.frame.refreshFrameCtx := same .refreshFrameCtx trivial
  by_cases used : a.frame.refreshFrameCtx = true
  · have parallel : a.frame.parallelDecMode = b.frame.parallelDecMode := same .parallelDecMode used
    cases serial : a.frame.parallelDecMode
    · have adapted := adapted_of_same same store output used serial
      simp only [Store.finishEntropy, ← refresh, ← parallel, serial, adapted]
    · simp only [Store.finishEntropy, ← refresh, ← parallel, serial, ite_true]
  · have unused : a.frame.refreshFrameCtx = false := Bool.eq_false_of_not_eq_true used
    rw [Store.finishEntropy, Store.finishEntropy, ← refresh, unused]
    rfl

end Finish

/-- What `job_finish` computes depends on the fields it reads, and on no other. -/
theorem finish_of_same {size : ℕ} {a b : Controls} {recon : Bool}
    (same : ∀ field ∈ (jobFinish recon).reads a, field.Same a b)
    (store : Store size) (record : Record) (output : HwOutput size) :
    store.finish a.frame a.compressedHdr output = store.finish b.frame b.compressedHdr output ∧
      record.finish a.frame = record.finish b.frame := by
  have same (field : Field) (used : field.Used a) : field.Same a b :=
    same field ((mem_reads_jobFinish recon a field).mpr used)
  have width : a.frame.frameWidthMinus1 = b.frame.frameWidthMinus1 := same .width trivial
  have height : a.frame.frameHeightMinus1 = b.frame.frameHeightMinus1 := same .height trivial
  have bitDepth : a.frame.bitDepth = b.frame.bitDepth := same .bitDepth trivial
  have shown : a.frame.showFrame = b.frame.showFrame := same .showFrame trivial
  have key : a.frame.keyFrame = b.frame.keyFrame := same .keyFrame trivial
  have intra : a.frame.isIntra = b.frame.isIntra := same .isIntra trivial
  constructor
  · simp only [Store.finish, Store.finishPrevious, Frame.width, Frame.height, finishSegmentMap_of_same same,
      finishEntropy_of_same same, width, height, shown, key, intra]
  · simp only [Record.finish, Frame.width, Frame.height, width, height, bitDepth]

/-- The words every successful `job_configure` reads. -/
def alwaysRead : List Word := [.width, .height, .flags, .segFlags, .bitDepth, .txMode]

/-- The words it reads for an inter frame. -/
def interRead : List Word := [.interpolationFilter, .referenceMode]

/-- The words `job_finish` does not always read. -/
def Late (word : Word) : Prop := word = .interpolationFilter ∨ word = .referenceMode ∨ word = .txMode

/-- Where the flags are read, they are those of an inter frame. -/
def SeesInter (word : Word) (seen : Controls) : Prop := word = .flags → seen.frame.isIntra = false

theorem supportedProfile_always : supportedProfile.Always (fun _ _ => True) .bitDepth := by
  refine Always.later fun zero _ => ?_
  dsimp only [Reading.bind]
  by_cases profile : zero.frame.profile = 0
  · simp only [profile, decide_true, ite_true]
    exact .inl rfl
  · simp only [profile, decide_false]
    refine Always.later fun two _ => ?_
    dsimp only [Reading.bind]
    by_cases profile : two.frame.profile = 2
    · simp only [profile, decide_true, ite_true]
      exact .inl rfl
    · simp only [profile, decide_false]
      trivial

theorem fwUpdateInter_always {word : Word} (member : word ∈ interRead) : fwUpdateInterReads.Always SeesInter word := by
  refine Always.later fun key inter => ?_
  have inter := inter rfl
  simp only [Frame.isIntra, Bool.or_eq_false_iff] at inter
  dsimp only [Reading.bind]
  simp only [inter]
  refine Always.later fun intraOnly inter => ?_
  have inter := inter rfl
  simp only [Frame.isIntra, Bool.or_eq_false_iff] at inter
  dsimp only [Reading.bind]
  simp only [inter]
  apply Always.skip
  revert word
  decide

theorem jobConfigure_always (previousValid : Bool) {word : Word} (member : word ∈ alwaysRead) :
    (jobConfigure previousValid).Always (fun _ _ => True) word := by
  have locals (same : word = .width ∨ word = .height ∨ word = .flags) : locals.Always (fun _ _ => True) word := by
    rcases same with rfl | rfl | rfl
    · exact .left (.skip (by decide))
    · exact .left (.skip (by decide))
    · exact .right fun _ => .left (.get _)
  cases word with
  | width => exact .left (locals (.inl rfl))
  | height => exact .left (locals (.inr (.inl rfl)))
  | flags => exact .left (locals (.inr (.inr rfl)))
  | bitDepth => exact .right fun _ => .left supportedProfile_always
  | txMode => exact .right fun _ => .right fun _ => .left (.left (.get _))
  | segFlags =>
    exact .right fun _ => .right fun _ => .right fun _ => .right fun _ => .right fun _ => .left (.skip (by decide))
  | profile | segFeatureEnabled | interpolationFilter | referenceMode => exact absurd member (by decide)

theorem jobConfigure_inter (previousValid : Bool) {word : Word} (member : word ∈ interRead) :
    (jobConfigure previousValid).Always SeesInter word :=
  .right fun _ => .right fun _ => .right fun _ => .right fun _ => .right fun _ => .right fun _ => .right fun _ =>
    .left (.right fun _ => .right fun _ => fwUpdateInter_always member)

/-- The flags are among the local variables. -/
theorem jobConfigure_behind (previousValid : Bool) : (jobConfigure previousValid).Behind .flags Late :=
  .inr ⟨by simp [Late], fun _ => .inr ⟨by simp [Late], fun _ => .inl rfl⟩⟩

/-- What the rest of `job_configure` is going to read, and what it has read. -/
structure Configured (s : State) (rest : Configuring Unit) : Prop where
  unused : s.used = []
  always : ∀ word ∈ alwaysRead, s.Programmed word ∨ rest.Always (fun _ _ => True) word
  inter : ∀ word ∈ interRead, (s.Programmed .flags → s.payload.frame.isIntra = false) →
    s.Programmed word ∨ rest.Always SeesInter word
  behind : s.Programmed .flags ∨ rest.Behind .flags Late ∧ ∀ word, Late word → ¬ s.Programmed word

/-- What `job_configure` saw of a field is what `job_finish` is going to see, of every field it is
going to see, and `job_finish` has read nothing while the job is configured. -/
structure Held (s : State) : Prop where
  ahead : ∀ programmed ∈ s.programmed, ∀ field ∈ s.toRead, programmed.1 = field.word →
    field.Same programmed.2 s.payload
  configured : ∀ rest, s.phase = .configuring rest → Configured s rest
  complete : (∀ rest, s.phase ≠ .configuring rest) → ∀ field ∈ s.toRead, s.Programmed field.word
  depends : s.phase.toFinish.DependsOn Field.Same
  snapshot : s.OneSnapshot

/-- The words that were read decide when they are read again: among the fields of these words, a new
payload that agrees on what will be read adds none. -/
theorem used_of_same {a b : Controls} {seen : Word → Prop} (late : ∀ word, Late word → seen word → seen .flags)
    (same : ∀ field : Field, field.Used a → seen field.word → field.Same a b) {field : Field}
    (before : seen field.word) (used : field.Used b) : field.Used a := by
  have inter (flags : seen .flags)
      (used : b.frame.refreshFrameCtx ∧ !b.frame.parallelDecMode ∧ !b.frame.isIntra) :
      a.frame.refreshFrameCtx ∧ !a.frame.parallelDecMode ∧ !a.frame.isIntra := by
    have refresh : a.frame.refreshFrameCtx = b.frame.refreshFrameCtx := same .refreshFrameCtx trivial flags
    have intra : a.frame.isIntra = b.frame.isIntra := same .isIntra trivial flags
    have parallel : a.frame.parallelDecMode = b.frame.parallelDecMode :=
      same .parallelDecMode (refresh.trans used.1) flags
    rwa [refresh, intra, parallel]
  cases field with
  | segUpdateMap => exact Eq.trans (same .segEnabled trivial before) used
  | parallelDecMode => exact Eq.trans (same .refreshFrameCtx trivial before) used
  | referenceMode => exact inter (late _ (.inr (.inl rfl)) before) used
  | interpolationFilter => exact inter (late _ (.inl rfl) before) used
  | txMode => exact inter (late _ (.inr (.inr rfl)) before) used
  | allowHighPrecMv => exact inter before used
  | segEnabled | isIntra | refreshFrameCtx | bitDepth | width | height | showFrame | keyFrame => trivial

section Programmed

variable {s : State} {first word : Word} {next : Controls → Configuring Unit} {phase : Phase}

/-- The state after a read of `job_configure`. -/
def State.afterConfigureRead (s : State) (word : Word) (rest : Configuring Unit) : State :=
  { s with phase := .configuring rest, programmed := (word, s.payload) :: s.programmed }

theorem programmed_afterConfigureRead {rest : Configuring Unit} :
    (s.afterConfigureRead first rest).Programmed word ↔ first = word ∨ s.Programmed word := by
  simp only [State.Programmed, State.afterConfigureRead, List.exists_mem_cons_iff]

theorem Configured.read (configured : Configured s (.read first next)) :
    Configured (s.afterConfigureRead first (next s.payload)) (next s.payload) where
  unused := configured.unused
  always word member := by
    rw [programmed_afterConfigureRead]
    rcases configured.always word member with before | same | later
    · exact .inl (.inr before)
    · exact .inl (.inl same)
    · exact .inr (later s.payload trivial)
  inter word member inter := by
    rw [programmed_afterConfigureRead] at inter ⊢
    have earlier : s.Programmed .flags → s.payload.frame.isIntra = false := fun before => inter (.inr before)
    rcases configured.inter word member earlier with before | same | later
    · exact .inl (.inr before)
    · exact .inl (.inl same)
    · exact .inr (later s.payload fun same => inter (.inl same))
  behind := by
    rw [programmed_afterConfigureRead]
    rcases configured.behind with before | ⟨same | ⟨early, later⟩, none⟩
    · exact .inl (.inr before)
    · exact .inl (.inl same)
    · refine .inr ⟨later s.payload, fun word late => ?_⟩
      rw [programmed_afterConfigureRead]
      rintro (rfl | before)
      · exact early late
      · exact none word late before

/-- The callback is configured from its first read on. -/
theorem Configured.fresh (payload : Controls) (previousValid : Bool) :
    Configured { payload, phase := .configuring (jobConfigure previousValid) } (jobConfigure previousValid) where
  unused := rfl
  always _ member := .inr (jobConfigure_always previousValid member)
  inter _ member _ := .inr (jobConfigure_inter previousValid member)
  behind := by
    refine .inr ⟨jobConfigure_behind previousValid, fun word _ before => ?_⟩
    obtain ⟨_, member, _⟩ := before
    exact absurd member List.not_mem_nil

end Programmed

namespace Held

variable {s : State} {payload : Controls}

/-- After `job_configure`, new payloads have the same fields read. -/
theorem toRead_eq (held : Held s) (keeps : s.Keeps payload) (later : ∀ rest, s.phase ≠ .configuring rest) :
    ({ s with payload } : State).toRead = s.toRead :=
  held.depends.reads_eq fun field ahead => keeps field ahead (held.complete later field ahead)

/-- Of the words `job_configure` has read, new payloads add nothing to what `job_finish` will read. -/
theorem mem_toRead (held : Held s) (keeps : s.Keeps payload) {field : Field}
    (ahead : field ∈ ({ s with payload } : State).toRead) (before : s.Programmed field.word) : field ∈ s.toRead := by
  by_cases configuring : ∃ rest, s.phase = .configuring rest
  · obtain ⟨rest, phase⟩ := configuring
    have reads (other : Field) (payload : Controls) :
        other ∈ ({ s with payload } : State).toRead ↔ other.Used payload := by
      simp only [State.toRead, phase, Phase.toFinish, mem_reads_jobFinish]
    have late (word : Word) (late : Late word) (before : s.Programmed word) : s.Programmed .flags :=
      (held.configured rest phase).behind.resolve_right fun none => none.2 word late before
    have same (other : Field) (used : other.Used s.payload) (before : s.Programmed other.word) :
        other.Same s.payload payload := keeps other ((reads other s.payload).mpr used) before
    exact (reads field s.payload).mpr (used_of_same late same before ((reads field payload).mp ahead))
  · rwa [held.toRead_eq keeps fun rest phase => configuring ⟨rest, phase⟩] at ahead

theorem write (held : Held s) (keeps : s.Keeps payload) : Held { s with payload } where
  ahead programmed member field ahead same := by
    have before : s.Programmed field.word := ⟨programmed, member, same⟩
    have still : field ∈ s.toRead := held.mem_toRead keeps ahead before
    exact (held.ahead programmed member field still same).trans (keeps field still before)
  configured rest phase := by
    have configured : Configured s rest := held.configured rest phase
    have reads : .isIntra ∈ s.toRead := by
      have phase : s.phase = .configuring rest := phase
      simp only [State.toRead, phase, Phase.toFinish, mem_reads_jobFinish, Field.Used]
    refine ⟨configured.unused, configured.always, fun word member inter => ?_, configured.behind⟩
    refine configured.inter word member fun before => ?_
    have same : s.payload.frame.isIntra = payload.frame.isIntra := keeps .isIntra reads before
    exact same.trans (inter before)
  complete later field ahead := by
    rw [held.toRead_eq keeps later] at ahead
    exact held.complete later field ahead
  depends := held.depends
  snapshot := held.snapshot

/-- Before any read there is nothing to compare. -/
theorem fresh (payload : Controls) (previousValid : Bool) :
    Held { payload, phase := .configuring (jobConfigure previousValid) } where
  ahead _ member := absurd member List.not_mem_nil
  configured rest phase := by
    obtain rfl := Phase.configuring.inj phase
    exact .fresh payload previousValid
  complete later := absurd rfl (later _)
  depends := jobFinish_depends true
  snapshot _ member := absurd member List.not_mem_nil

/-- A job that is over reads nothing more. -/
theorem leave (held : Held s) : Held { s with phase := .idle } where
  ahead _ _ _ ahead := absurd ahead List.not_mem_nil
  configured _ phase := by cases phase
  complete _ _ ahead := absurd ahead List.not_mem_nil
  depends := trivial
  snapshot := held.snapshot

theorem configureRead (held : Held s) {word : Word} {next : Controls → Configuring Unit}
    (phase : s.phase = .configuring (.read word next)) : Held (s.afterConfigureRead word (next s.payload)) where
  ahead programmed member field ahead same := by
    rcases List.mem_cons.mp member with rfl | member
    · exact Field.Same.refl ..
    · have still : field ∈ s.toRead := by
        simp only [State.toRead, phase]
        exact ahead
      exact held.ahead programmed member field still same
  configured rest same := by
    obtain rfl := Phase.configuring.inj same
    exact (held.configured _ phase).read
  complete later := absurd rfl (later _)
  depends := jobFinish_depends true
  snapshot used member := by
    have unused : s.used = [] := (held.configured _ phase).unused
    change used ∈ s.used at member
    rw [unused] at member
    exact absurd member List.not_mem_nil

/-- A job is triggered once `job_configure` has read every word `job_finish` will take something
from. -/
theorem trigger (held : Held s) (phase : s.phase = .configuring (.done ())) : Held { s with phase := .running } where
  ahead programmed member field ahead same := by
    have still : field ∈ s.toRead := by
      simp only [State.toRead, phase]
      exact ahead
    exact held.ahead programmed member field still same
  configured _ same := by cases same
  complete _ field ahead := by
    have configured := held.configured _ phase
    have always (word : Word) (member : word ∈ alwaysRead) : s.Programmed word :=
      (configured.always word member).resolve_right id
    have used : field.Used s.payload := (mem_reads_jobFinish true s.payload field).mp ahead
    cases field with
    | referenceMode | interpolationFilter =>
      have inter : s.payload.frame.isIntra = false := Bool.not_eq_true' _ ▸ used.2.2
      exact (configured.inter _ (by decide) fun _ => inter).resolve_right id
    | segEnabled | segUpdateMap | isIntra | refreshFrameCtx | parallelDecMode | txMode | allowHighPrecMv | bitDepth
        | width | height | showFrame | keyFrame =>
      exact always _ (by decide)
  depends := jobFinish_depends true
  snapshot := held.snapshot

theorem done (held : Held s) (phase : s.phase = .running) (recon : Bool) :
    Held { s with phase := .finishing (jobFinish recon) } := by
  have still (field : Field) (ahead : field ∈ (jobFinish recon).reads s.payload) : field ∈ s.toRead := by
    simp only [State.toRead, phase, Phase.toFinish]
    rwa [mem_reads_jobFinish] at ahead ⊢
  have later (rest : Configuring Unit) : s.phase ≠ .configuring rest := by simp [phase]
  exact
    { ahead := fun programmed member field ahead => held.ahead programmed member field (still field ahead)
      configured := fun _ same => by cases same
      complete := fun _ field ahead => held.complete later field (still field ahead)
      depends := jobFinish_depends recon
      snapshot := held.snapshot }

theorem finishRead (held : Held s) {field : Field} {next : Controls → Finishing Unit}
    (phase : s.phase = .finishing (.read field next)) :
    Held { s with phase := .finishing (next s.payload), used := (field, s.payload) :: s.used } := by
  have toRead : s.toRead = field :: (next s.payload).reads s.payload := by
    simp only [State.toRead, phase, Phase.toFinish, Reading.reads]
  have later (rest : Configuring Unit) : s.phase ≠ .configuring rest := by simp [phase]
  have still (other : Field) (ahead : other ∈ (next s.payload).reads s.payload) : other ∈ s.toRead := by
    rw [toRead]
    exact List.mem_cons_of_mem _ ahead
  have now : field ∈ s.toRead := by
    rw [toRead]
    exact List.mem_cons_self
  have depends := held.depends
  rw [phase] at depends
  refine
    { ahead := fun programmed member other ahead => held.ahead programmed member other (still other ahead)
      configured := fun _ same => by cases same
      complete := fun _ other ahead => held.complete later other (still other ahead)
      depends := depends.2 s.payload
      snapshot := fun used member => ?_ }
  rcases List.mem_cons.mp member with rfl | member
  · exact ⟨held.complete later field now, fun programmed member same =>
      (held.ahead programmed member field now same).symm⟩
  · exact held.snapshot used member

theorem step {event : Event} {next : State} (held : Held s) (undisturbed : Undisturbed s event)
    (taken : Snapshot.step s event = some next) : Held next := by
  cases event with
  | writeFrame frame featureEnabled =>
    obtain rfl := Option.some.inj taken
    exact held.write undisturbed
  | writeCompressedHdr compressedHdr =>
    obtain rfl := Option.some.inj taken
    exact held.write undisturbed
  | jobPrepare previousValid =>
    simp only [Snapshot.step] at taken
    split at taken
    case h_1 =>
      obtain rfl := Option.some.inj taken
      exact fresh ..
    case h_2 => cases taken
  | read =>
    simp only [Snapshot.step] at taken
    split at taken
    case h_1 word rest phase =>
      obtain rfl := Option.some.inj taken
      exact held.configureRead phase
    case h_2 field rest phase =>
      obtain rfl := Option.some.inj taken
      exact held.finishRead phase
    case h_3 => cases taken
  | jobTrigger =>
    simp only [Snapshot.step] at taken
    split at taken
    case h_1 phase =>
      obtain rfl := Option.some.inj taken
      exact held.trigger phase
    case h_2 => cases taken
  | jobFailed =>
    simp only [Snapshot.step] at taken
    split at taken
    case h_1 | h_2 =>
      obtain rfl := Option.some.inj taken
      exact held.leave
    case h_3 => cases taken
  | jobDone recon =>
    simp only [Snapshot.step] at taken
    split at taken
    case h_1 phase =>
      obtain rfl := Option.some.inj taken
      exact held.done phase recon
    case h_2 => cases taken
  | finished =>
    simp only [Snapshot.step] at taken
    split at taken
    case h_1 =>
      obtain rfl := Option.some.inj taken
      exact held.leave
    case h_2 => cases taken

/-- Nothing has been read of a context that has had no job. -/
theorem initial (payload : Controls) : Held { payload } where
  ahead _ member := absurd member List.not_mem_nil
  configured _ phase := by cases phase
  complete _ _ ahead := absurd ahead List.not_mem_nil
  depends := trivial
  snapshot _ member := absurd member List.not_mem_nil

end Held

/-- In every interleaving whose writes change no field between its first read by `job_configure` and
its last read by `job_finish`, each job works on one snapshot. -/
theorem one_snapshot_of_undisturbed (payload : Controls) (events : List Event) (final : State)
    (undisturbed : Guarded step Undisturbed { payload } events)
    (reached : run step { payload } events = some final) : final.OneSnapshot :=
  (undisturbed.run_preserves Held Held.step (Held.initial payload) reached).snapshot

/-- A key frame of 64 × 64 that saves its entropy context. -/
def keyFrame : Controls where
  frame :=
    { Frame.stdInit with
      keyFrame := true, showFrame := true, refreshFrameCtx := true, frameWidthMinus1 := 63, frameHeightMinus1 := 63 }
  compressedHdr := .stdInit

/-- A whole job, with one write while the hardware runs; `before` and `after` are the numbers of
reads. -/
def jobWithWrite (write : Event) (before after : ℕ) : List Event :=
  [.jobPrepare false] ++ List.replicate before .read ++ [.jobTrigger, write, .jobDone false] ++
    List.replicate after .read

/-- While the hardware decodes a key frame, the transform mode of the next frame is written. -/
theorem one_snapshot_txMode_written :
    ∃ final, run step { payload := keyFrame }
        (jobWithWrite (.writeCompressedHdr { txMode := 4, deltas := .zero }) 38 11) = some final ∧
      final.used.length = 11 ∧ final.payload.compressedHdr.txMode = 4 ∧ final.OneSnapshot :=
  ⟨_, rfl, rfl, rfl, one_snapshot_of_undisturbed keyFrame
    (jobWithWrite (.writeCompressedHdr { txMode := 4, deltas := .zero }) 38 11) _ (by decide +kernel) rfl⟩

/-- A frame of half the width is written while the hardware runs: `job_finish` records that width. -/
theorem not_always_one_snapshot :
    ¬ ∀ (payload : Controls) (events : List Event) (final : State),
      run step { payload } events = some final → final.OneSnapshot := by
  intro always
  have snapshot := always keyFrame (jobWithWrite
    (.writeFrame { keyFrame.frame with frameWidthMinus1 := 31 } keyFrame.featureEnabled) 38 11) _ rfl
  revert snapshot
  decide

end H618Vpu.Vp9.Snapshot
