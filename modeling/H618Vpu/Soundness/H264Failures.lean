import H618Vpu.Machine.History
import H618Vpu.Soundness.H264Order

/-! # What failed jobs leave of a stream

`job_prepare` and `job_configure` move the counters, the step of the headers, the forced key frame and the
last reconstruction on before it is known whether the job succeeds, and nothing is taken back when it fails.
The pictures that are published still follow one another if the first job that succeeds after failed ones
starts the GOP over, with its parameter sets when none was published before it.
-/

namespace H618Vpu.H264

open Machine

/-- A picture as it is published: the number of its job, what was written for it (the newest first), its slice
header, the job whose reconstruction a P slice is predicted from, and whether a key frame was asked for. -/
structure Picture where
  number : ℕ
  items : List Item
  header : SliceHeader
  reference : Option ℕ
  requested : Bool

/-- What happened since the stream was started. The current job is the `number`-th one. It found `step` at
`due` when it started its headers, and it was sampled at the start of a GOP, or with a key frame forced, if
`restarts`. A key frame is `wanted` from its request until a job is sampled, and again when this job fails.
`recLast` is the job whose reconstruction `rec_last_dma` addresses, and jobs have `failed` since the last one
that succeeded. -/
structure Stream where
  number : ℕ := 0
  items : List Item := []
  due : Step := .start
  restarts : Bool := false
  reference : Option ℕ := none
  recLast : Option ℕ := none
  wanted : Bool := false
  requested : Bool := false
  failed : Bool := false
  published : List Picture := []

namespace Stream

/-- The payloads of the published pictures, the newest item first. -/
def payload (stream : Stream) : List Item := stream.published.flatMap Picture.items

def sample (stream : Stream) (ctx : Context) : Stream :=
  { stream with
    number := stream.number + 1
    items := []
    restarts := ctx.forceKeyFrame || ctx.gopIndex = 0
    reference := none
    requested := stream.wanted
    wanted := false }

/-- `cedrus_enc_h264_job_configure` takes the last reconstruction as reference of a P job, and makes the one of
the job the last. -/
def configure (stream : Stream) (job : Job) : Stream :=
  { stream with
    reference := if job.frameType = .p then stream.recLast else none
    recLast := some stream.number }

def publish (stream : Stream) : Stream :=
  match stream.items with
  | .slice header _ :: _ =>
      let picture : Picture :=
        ⟨stream.number, stream.items, header, stream.reference, stream.requested⟩
      { stream with failed := false, published := picture :: stream.published }
  | _ => stream

def fail (stream : Stream) : Stream :=
  { stream with failed := true, wanted := stream.wanted || stream.requested }

end Stream

def note (s : State) (event : Event) (next : State) (stream : Stream) : Stream :=
  match event with
  | .streamOn _ _ => {}
  | .forceKeyFrame => { stream with wanted := stream.wanted || s.context.isSome }
  | .jobPrepare => s.context.elim stream stream.sample
  | .formatConfigure true => { stream with due := s.context.elim .start Context.step }
  | .headerCase => { stream with items := next.log.take (next.log.length - s.log.length) ++ stream.items }
  | .program =>
      match s.phase with
      | .sliced job => stream.configure job
      | _ => stream
  | .jobFinish true => stream.publish
  | .formatConfigure false | .jobFinish false => stream.fail
  | .writeCtrl _ _ | .writeDone | .setInput _ | .streamOff | .headerStep => stream

/-- The parameter sets precede every slice of a log. -/
def Announced : List Item → Prop
  | [] => True
  | .slice _ _ :: older => ((lastSps older).isSome ∧ (lastPps older).isSome) ∧ Announced older
  | .sps _ :: older | .pps _ :: older | .program _ :: older | .finish _ :: older => Announced older

/-- A P slice is predicted from the picture before it, the frame number increases by one unless the picture is
an IDR picture, which it is when a key frame was asked for. -/
structure Picture.Follows (picture : Picture) (previous : Option Picture) : Prop where
  predicted : picture.header.sliceType = 0 → ∃ prev ∈ previous, picture.reference = some prev.number
  numbered : picture.header.nalUnitType ≠ 5 →
    ∃ prev ∈ previous, picture.header.frameNum = (prev.header.frameNum + 1) % 256
  forced : picture.requested = true → picture.header.nalUnitType = 5

/-- Every picture follows the one published before it. -/
def InOrder : List Picture → Prop
  | [] => True
  | picture :: older => picture.Follows older.head? ∧ InOrder older

structure Stream.Decodable (stream : Stream) : Prop where
  announced : Announced stream.payload
  inOrder : InOrder stream.published

/-- After failed jobs, a job that succeeds was sampled at the start of a GOP or with a key frame forced, and
found both parameter sets due if no picture was published yet. -/
def Recovers (s : Recorded State Stream) : Event → Prop
  | .jobFinish true => s.history.failed = true →
      s.history.restarts = true ∧ (s.history.published = [] → s.history.due.rank ≤ Step.sps.rank)
  | _ => True

instance (s : Recorded State Stream) (event : Event) : Decidable (Recovers s event) :=
  match event with
  | .jobFinish true => by
    dsimp only [Recovers]
    haveI : Decidable (s.history.published = []) :=
      match s.history.published with
      | [] => .isTrue rfl
      | _ :: _ => .isFalse nofun
    infer_instance
  | .jobFinish false | .writeCtrl _ _ | .writeDone | .forceKeyFrame | .setInput _ | .streamOn _ _ | .streamOff
  | .jobPrepare | .formatConfigure _ | .headerCase | .headerStep | .program => instDecidableTrue

theorem lastSps_append {first second : List Item} (first_or_second : (lastSps first).isSome ∨ (lastSps second).isSome) :
    (lastSps (first ++ second)).isSome := by
  induction first with
  | nil => exact first_or_second.resolve_left nofun
  | cons item first ih =>
    cases item with
    | sps => rfl
    | _ => exact ih first_or_second

theorem lastPps_append {first second : List Item} (first_or_second : (lastPps first).isSome ∨ (lastPps second).isSome) :
    (lastPps (first ++ second)).isSome := by
  induction first with
  | nil => exact first_or_second.resolve_left nofun
  | cons item first ih =>
    cases item with
    | pps => rfl
    | _ => exact ih first_or_second

/-- What has no slice needs no parameter sets. -/
theorem Announced.append {first second : List Item} (announced : Announced second) (none : slices first = []) :
    Announced (first ++ second) := by
  induction first with
  | nil => exact announced
  | cons item first ih =>
    cases item with
    | slice => cases none
    | _ => exact ih none

/-- Both parameter sets are in a log. -/
def HasSets (log : List Item) : Prop := (lastSps log).isSome ∧ (lastPps log).isSome

/-- Between jobs: a picture was published, or the next one starts the stream; the counters continue the last
one, and its reconstruction is the last, unless jobs failed. -/
structure Stream.Resting (stream : Stream) (ctx : Context) : Prop where
  wanted : stream.wanted = true → ctx.forceKeyFrame = true ∨ stream.failed = true
  opening : stream.failed = false → stream.published = [] → ctx.gopIndex = 0 ∧ ctx.step.rank = 0
  following : stream.failed = false → ∀ prev ∈ stream.published.head?,
    ctx.frameNum = (prev.header.frameNum + 1) % 256 ∧ stream.recLast = some prev.number

/-- A job was sampled: it is an IDR picture or continues the last one that was published, unless jobs failed. -/
structure Stream.Sampled (stream : Stream) (ctx : Context) (job : Job) : Prop where
  wanted : stream.wanted = true → ctx.forceKeyFrame = true
  requested : stream.requested = true → job.frameType = .idr ∨ stream.failed = true
  restarts : stream.restarts = true → job.frameType = .idr
  noB : job.frameType ≠ .b
  counted : ctx.frameNum = (job.frameNum + 1) % 256
  following : stream.failed = false → job.frameType ≠ .idr →
    ∃ prev ∈ stream.published.head?, job.frameNum = (prev.header.frameNum + 1) % 256

/-- The last reconstruction is that of the last picture, unless jobs failed. -/
def Stream.Unprogrammed (stream : Stream) : Prop :=
  stream.failed = false → ∀ prev ∈ stream.published.head?, stream.recLast = some prev.number

/-- The reconstruction of the job is the last one, and a P slice refers to the last picture unless jobs failed. -/
def Stream.Programmed (stream : Stream) (job : Job) : Prop :=
  stream.recLast = some stream.number ∧ (stream.failed = false → job.frameType = .p →
    ∀ prev ∈ stream.published.head?, stream.reference = some prev.number)

/-- The headers of the job so far, up to a step: the parameter sets below it were written if both were due. -/
structure Stream.Headers (stream : Stream) (step : Step) : Prop where
  none : slices stream.items = []
  opening : stream.failed = false → stream.published = [] → stream.due.rank ≤ Step.sps.rank
  sps : stream.due.rank ≤ Step.sps.rank → Step.sps.rank < step.rank → (lastSps stream.items).isSome
  pps : stream.due.rank ≤ Step.sps.rank → Step.pps.rank < step.rank → (lastPps stream.items).isSome

/-- The headers of the job are written, the slice header last. -/
def Stream.Written (stream : Stream) (job : Job) : Prop :=
  ∃ ctx older, stream.items = .slice (jobConfigureSliceHeader ctx job) job :: older ∧ slices older = [] ∧
    (stream.failed = false → stream.published = [] → stream.due.rank ≤ Step.sps.rank) ∧
    (stream.due.rank ≤ Step.sps.rank → HasSets older)

/-- What a stream and a context have in common in each phase of a job. -/
def Stream.InPhase (stream : Stream) (ctx : Context) : Phase → Prop
  | .idle => stream.Resting ctx
  | .prepared job => stream.Sampled ctx job ∧ stream.Unprogrammed ∧ stream.items = [] ∧
      (stream.failed = false → stream.published = [] → ctx.step.rank ≤ Step.sps.rank)
  | .headers job => stream.Sampled ctx job ∧ stream.Unprogrammed ∧ stream.Headers ctx.step
  | .header job next => stream.Sampled ctx job ∧ stream.Unprogrammed ∧ stream.Headers next
  | .sliced job => stream.Sampled ctx job ∧ stream.Unprogrammed ∧ stream.Written job
  | .running job => stream.Sampled ctx job ∧ stream.Programmed job ∧ stream.Written job

/-- The published pictures follow one another, and the stream is in the phase of the file. -/
structure Following (s : Recorded State Stream) : Prop where
  decodable : s.history.Decodable
  announced : s.history.published ≠ [] → HasSets s.history.payload
  idle : s.state.context = none → s.state.phase = .idle
  eightBits : ∀ ctx, s.state.context = some ctx → ctx.EightBits
  inPhase : ∀ ctx, s.state.context = some ctx → s.history.InPhase ctx s.state.phase

/-- The encoder makes no B pictures. -/
theorem Context.jobPrepare_noB (ctx : Context) : ctx.jobPrepare.2.frameType ≠ .b := by
  rw [jobPrepare_frameType, nextFrameType, gopFrameType]
  repeat' split
  all_goals decide

namespace Stream

variable {stream : Stream} {ctx after : Context} {job : Job}

/-- Of the context, the counters and the step matter, and a step may be lowered. -/
theorem InPhase.contextWritten {phase : Phase} (inPhase : stream.InPhase ctx phase)
    (same : after.counters = ctx.counters) (low : after.step.rank ≤ ctx.step.rank) : stream.InPhase after phase := by
  obtain ⟨gopIndex, frameNum, -, force⟩ := Context.of_counters same
  have sampled {job : Job} (sampled : stream.Sampled ctx job) : stream.Sampled after job :=
    { sampled with
      wanted := by
        rw [force]
        exact sampled.wanted
      counted := by
        rw [frameNum]
        exact sampled.counted }
  cases phase with
  | idle =>
    refine ⟨?_, ?_, ?_⟩
    · rw [force]
      exact Resting.wanted inPhase
    · intro succeeded first
      obtain ⟨start, due⟩ := Resting.opening inPhase succeeded first
      exact ⟨gopIndex.trans start, Nat.le_zero.mp (low.trans_eq due)⟩
    · rw [frameNum]
      exact Resting.following inPhase
  | prepared job =>
    obtain ⟨before, unprogrammed, items, due⟩ := inPhase
    exact ⟨sampled before, unprogrammed, items, fun succeeded first => low.trans (due succeeded first)⟩
  | headers job =>
    obtain ⟨before, unprogrammed, headers⟩ := inPhase
    exact ⟨sampled before, unprogrammed, { headers with
      sps := fun due past => headers.sps due (past.trans_le low)
      pps := fun due past => headers.pps due (past.trans_le low) }⟩
  | header | sliced | running =>
    obtain ⟨before, rest⟩ := inPhase
    exact ⟨sampled before, rest⟩

/-- A request for a key frame is wanted, and the next job will see it. -/
theorem InPhase.forceKeyFrame {phase : Phase} (inPhase : stream.InPhase ctx phase) :
    InPhase { stream with wanted := true } { ctx with forceKeyFrame := true } phase := by
  have sampled {job : Job} (sampled : stream.Sampled ctx job) :
      Sampled { stream with wanted := true } { ctx with forceKeyFrame := true } job :=
    { sampled with wanted := fun _ => rfl }
  cases phase with
  | idle =>
    have resting : stream.Resting ctx := inPhase
    exact { resting with wanted := fun _ => .inl rfl }
  | prepared | sliced | running =>
    obtain ⟨before, rest⟩ := inPhase
    exact ⟨sampled before, rest⟩
  | headers | header =>
    obtain ⟨before, unprogrammed, headers⟩ := inPhase
    exact ⟨sampled before, unprogrammed, { headers with }⟩

/-- A job is sampled. -/
theorem Resting.sample (resting : stream.Resting ctx) (eightBits : ctx.EightBits) :
    (stream.sample ctx).InPhase ctx.jobPrepare.1 (.prepared ctx.jobPrepare.2) := by
  obtain ⟨numbers, counted, -⟩ := Context.jobPrepare_counts eightBits
  have forced (force : ctx.forceKeyFrame = true) : ctx.jobPrepare.2.frameType = .idr := by
    rw [Context.jobPrepare_frameType, Context.nextFrameType, if_pos force]
  have start (opening : ctx.gopIndex = 0) : ctx.jobPrepare.2.frameType = .idr := by
    rw [Context.jobPrepare_frameType, Context.nextFrameType, Context.gopFrameType_start opening, ite_self]
  refine ⟨⟨?_, ?_, ?_, ctx.jobPrepare_noB, counted, ?_⟩, ?_, rfl, ?_⟩
  · exact fun sampled => absurd sampled Bool.false_ne_true
  · intro requested
    exact (resting.wanted requested).imp_left forced
  · intro restarts
    rcases Bool.or_eq_true_iff.mp restarts with force | opening
    · exact forced force
    · exact start (of_decide_eq_true opening)
  · intro succeeded other
    rw [if_neg other] at numbers
    cases last : stream.published with
    | nil => exact absurd (start (resting.opening succeeded last).1) other
    | cons prev older =>
      refine ⟨prev, congrArg List.head? last, ?_⟩
      exact numbers.1.trans (resting.following succeeded prev (congrArg List.head? last)).1
  · intro succeeded prev last
    exact (resting.following succeeded prev last).2
  · intro succeeded first
    obtain ⟨-, due⟩ := resting.opening succeeded first
    rcases ctx.jobPrepare_step with sps | same
    · rw [sps]
    · rw [same, due]
      exact Nat.zero_le _

/-- After a job that failed nothing is claimed of the counters. -/
theorem fail_resting (stream : Stream) (ctx : Context) : stream.fail.Resting ctx :=
  ⟨fun _ => .inr rfl, nofun, nofun⟩

/-- A parameter set of a job is written. -/
theorem Headers.push {step next : Step} {item : Item} (headers : stream.Headers step)
    (none : slices (item :: stream.items) = slices stream.items)
    (sps : stream.due.rank ≤ Step.sps.rank → Step.sps.rank < next.rank → (lastSps (item :: stream.items)).isSome)
    (pps : stream.due.rank ≤ Step.sps.rank → Step.pps.rank < next.rank → (lastPps (item :: stream.items)).isSome) :
    Headers { stream with items := item :: stream.items } next :=
  { headers with none := none.trans headers.none, sps, pps }

/-- A turn of the header loop. -/
theorem InPhase.headerCase {s : State} (inPhase : stream.InPhase ctx (.headers job)) :
    (note s .headerCase (s.headerCase ctx job) stream).InPhase ctx (s.headerCase ctx job).phase := by
  obtain ⟨sampled, unprogrammed, headers⟩ := inPhase
  have pushed (item : Item) :
      (item :: s.log).take ((item :: s.log).length - s.log.length) ++ stream.items = item :: stream.items := by
    rw [List.length_cons, Nat.add_sub_cancel_left]
    rfl
  have still (items : List Item) : Sampled { stream with items } ctx job := { sampled with }
  simp only [State.headerCase, note]
  cases step : ctx.step with
  | start =>
    rw [step] at headers
    rw [Nat.sub_self]
    refine ⟨still _, unprogrammed, headers.none, headers.opening, ?_, ?_⟩
    · exact fun _ past => absurd past (lt_irrefl _)
    · exact fun _ past => absurd past (by decide)
  | sps =>
    simp only [pushed]
    exact ⟨still _, unprogrammed, headers.push rfl (fun _ _ => rfl) fun _ past => absurd past (lt_irrefl _)⟩
  | pps =>
    simp only [pushed]
    rw [step] at headers
    exact ⟨still _, unprogrammed, headers.push rfl (fun due _ => headers.sps due (by decide)) fun _ _ => rfl⟩
  | slice =>
    simp only [pushed]
    rw [step] at headers
    exact ⟨still _, unprogrammed, ctx, stream.items, rfl, headers.none, headers.opening,
      fun due => ⟨headers.sps due (by decide), headers.pps due (by decide)⟩⟩

/-- The references of a job are programmed. -/
theorem InPhase.configure (inPhase : stream.InPhase ctx (.sliced job)) :
    (stream.configure job).InPhase ctx (.running job) := by
  obtain ⟨sampled, unprogrammed, written⟩ := inPhase
  refine ⟨{ sampled with }, ⟨rfl, ?_⟩, written⟩
  intro succeeded predicted prev last
  exact (if_pos predicted).trans (unprogrammed succeeded prev last)

/-- A job that succeeds is published, and follows the last one that was. -/
theorem InPhase.publish (inPhase : stream.InPhase ctx (.running job)) (decodable : stream.Decodable)
    (announced : stream.published ≠ [] → HasSets stream.payload)
    (recovers : stream.failed = true →
      stream.restarts = true ∧ (stream.published = [] → stream.due.rank ≤ Step.sps.rank)) :
    stream.publish.Resting ctx ∧ stream.publish.Decodable ∧ HasSets stream.publish.payload := by
  obtain ⟨sampled, ⟨recLast, predicted⟩, before, older, items, none, opening, due⟩ := inPhase
  have restarted (failed : stream.failed = true) : job.frameType = .idr := sampled.restarts (recovers failed).1
  have follows (other : job.frameType ≠ .idr) : stream.failed = false ∧
      ∃ prev ∈ stream.published.head?, job.frameNum = (prev.header.frameNum + 1) % 256 := by
    have succeeded : stream.failed = false := Bool.eq_false_iff.mpr fun failed => other (restarted failed)
    exact ⟨succeeded, sampled.following succeeded other⟩
  have sets : HasSets (older ++ stream.payload) := by
    by_cases first : stream.published = []
    · have bothDue : stream.due.rank ≤ Step.sps.rank := by
        cases failed : stream.failed with
        | false => exact opening failed first
        | true => exact (recovers failed).2 first
      exact ⟨lastSps_append (.inl (due bothDue).1), lastPps_append (.inl (due bothDue).2)⟩
    · exact ⟨lastSps_append (.inr (announced first).1), lastPps_append (.inr (announced first).2)⟩
  simp only [Stream.publish, items]
  refine ⟨⟨?_, nofun, ?_⟩, ⟨?_, ?_, decodable.inOrder⟩, sets⟩
  · exact fun wanted => .inl (sampled.wanted wanted)
  · rintro succeeded prev ⟨⟩
    exact ⟨sampled.counted, recLast⟩
  · exact ⟨sets, decodable.announced.append none⟩
  · refine ⟨fun slice => ?_, fun nonIdr => ?_, fun requested => ?_⟩
    · have type : job.frameType = .p := by
        cases type : job.frameType with
        | p => rfl
        | b => exact absurd type sampled.noB
        | idr | i => simp [jobConfigureSliceHeader, type] at slice
      obtain ⟨succeeded, prev, last, -⟩ := follows (by rw [type]; exact nofun)
      exact ⟨prev, last, predicted succeeded type prev last⟩
    · have other : job.frameType ≠ .idr := by
        intro idr
        simp [jobConfigureSliceHeader, idr] at nonIdr
      exact (follows other).2
    · have idr : job.frameType = .idr := (sampled.requested requested).elim id restarted
      simp [jobConfigureSliceHeader, idr]

end Stream

namespace Following

variable {s : Recorded State Stream}

/-- Steps that publish nothing keep the pictures. -/
theorem frame {next : Recorded State Stream} (following : Following s)
    (published : next.history.published = s.history.published)
    (idle : next.state.context = none → next.state.phase = .idle)
    (inPhase : ∀ after, next.state.context = some after →
      after.EightBits ∧ next.history.InPhase after next.state.phase) : Following next where
  decodable := by
    refine ⟨?_, ?_⟩
    · rw [Stream.payload, published]
      exact following.decodable.announced
    · rw [published]
      exact following.decodable.inOrder
  announced := by
    rw [Stream.payload, published]
    exact following.announced
  idle := idle
  eightBits after streaming := (inPhase after streaming).1
  inPhase after streaming := (inPhase after streaming).2

theorem contextWritten {next : State} (following : Following s) (phase : next.phase = s.state.phase)
    (written : ContextWritten s.state next) (stopped : next.context = none → s.state.context = none) :
    Following ⟨next, s.history⟩ := by
  refine following.frame rfl (fun off => phase.trans (following.idle (stopped off))) fun after streaming => ?_
  obtain ⟨ctx, before, same, low⟩ := written after streaming
  refine ⟨(following.eightBits ctx before).of_counters same, ?_⟩
  rw [phase]
  exact (following.inPhase ctx before).contextWritten same low

/-- The job moves on, with the same context. -/
theorem advance {next : State} {stream : Stream} (following : Following s)
    (published : stream.published = s.history.published) (context : next.context = s.state.context)
    (busy : s.state.phase ≠ .idle)
    (inPhase : ∀ ctx, s.state.context = some ctx → s.history.InPhase ctx s.state.phase →
      stream.InPhase ctx next.phase) : Following ⟨next, stream⟩ := by
  refine following.frame published (fun off => ?_) fun after streaming => ?_
  · exact absurd (following.idle (context.symm.trans off)) busy
  · have before := context.symm.trans streaming
    exact ⟨following.eightBits after before, inPhase after before (following.inPhase after before)⟩

theorem jobFinish {job : Job} (following : Following s) (done : Bool) (recovers : Recovers s (.jobFinish done))
    (phase : s.state.phase = .running job) :
    Following ⟨{ s.state with phase := .idle, log := .finish done :: s.state.log },
      note s.state (.jobFinish done) { s.state with phase := .idle, log := .finish done :: s.state.log }
        s.history⟩ := by
  cases done with
  | false =>
    exact following.advance rfl rfl (by rw [phase]; exact nofun) fun ctx _ _ => Stream.fail_resting s.history ctx
  | true =>
    obtain ⟨ctx, streaming⟩ : ∃ ctx, s.state.context = some ctx := by
      refine Option.ne_none_iff_exists'.mp fun off => ?_
      have idle := following.idle off
      rw [phase] at idle
      cases idle
    have running := following.inPhase ctx streaming
    rw [phase] at running
    obtain ⟨resting, decodable, sets⟩ := running.publish following.decodable following.announced recovers
    refine ⟨decodable, fun _ => sets, fun _ => rfl, following.eightBits, fun after also => ?_⟩
    obtain rfl := Option.some.inj (streaming.symm.trans also)
    exact resting

theorem step {event : Event} {next : Recorded State Stream} (following : Following s) (recovers : Recovers s event)
    (taken : record H264.step note s event = some next) : Following next := by
  obtain ⟨state, stepped, rfl⟩ := record_iff.mp taken
  cases taken_of_step stepped with
  | writeCtrl ctrl value =>
    apply following.contextWritten (s.state.writeCtrl_phase ctrl value) (s.state.writeCtrl_contextWritten ctrl value)
    intro off
    have counters := s.state.writeCtrl_counters ctrl value
    rw [off] at counters
    exact Option.map_eq_none_iff.mp counters.symm
  | writeDone =>
    exact following.contextWritten rfl (s.state.writeDone_contextWritten _ _) fun off => Option.map_eq_none_iff.mp off
  | forceKeyFrame =>
    refine following.frame rfl (fun off => following.idle (Option.map_eq_none_iff.mp off)) fun after streaming => ?_
    obtain ⟨ctx, before, rfl⟩ := Option.map_eq_some_iff.mp streaming
    refine ⟨following.eightBits ctx before, ?_⟩
    simp only [note, before, Option.isSome_some, Bool.or_true]
    exact (following.inPhase ctx before).forceKeyFrame
  | setInput =>
    exact following.frame rfl following.idle fun ctx also =>
      ⟨following.eightBits ctx also, following.inPhase ctx also⟩
  | streamOn width height free phase =>
    obtain ⟨ctx, streaming, counters⟩ := s.state.setup_counters width height
    obtain ⟨same, -, due⟩ := s.state.setup_spec width height
    refine ⟨⟨trivial, trivial⟩, fun some => absurd rfl some, fun _ => same.trans phase, ?_, ?_⟩
    · intro after also
      obtain rfl := Option.some.inj (streaming.symm.trans also)
      exact ⟨congrArg Context.log2MaxFrameNum counters, congrArg Context.log2MaxPicOrderCntLsb counters,
        congrArg Context.picOrderCntType counters⟩
    · intro after also
      rw [same, phase]
      obtain rfl := Option.some.inj (streaming.symm.trans also)
      exact ⟨nofun, fun _ _ => ⟨congrArg Context.gopIndex counters, due ctx streaming⟩, nofun⟩
  | streamOff free phase => exact following.frame rfl (fun _ => phase) nofun
  | @jobPrepare ctx free phase streaming =>
    have eightBits := following.eightBits ctx streaming
    have resting := following.inPhase ctx streaming
    rw [phase] at resting
    simp only [note, streaming, Option.elim_some]
    refine following.frame rfl nofun ?_
    rintro after ⟨⟩
    exact ⟨eightBits, Stream.Resting.sample resting eightBits⟩
  | @formatConfigured job phase =>
    refine following.advance rfl rfl (by rw [phase]; exact nofun) fun ctx streaming prepared => ?_
    rw [phase] at prepared
    obtain ⟨sampled, unprogrammed, items, due⟩ := prepared
    simp only [note, streaming, Option.elim_some]
    refine ⟨{ sampled with }, unprogrammed, congrArg slices items, due, ?_, ?_⟩
    · exact fun due past => absurd (due.trans_lt past) (lt_irrefl _)
    · exact fun due past => absurd (due.trans_lt (lt_trans (by decide) past)) (lt_irrefl _)
  | @formatFailed job phase =>
    exact following.advance rfl rfl (by rw [phase]; exact nofun) fun ctx _ _ => Stream.fail_resting s.history ctx
  | @headerCase ctx job phase streaming =>
    refine following.advance rfl (s.state.headerCase_frame ctx job).2.2 (by rw [phase]; exact nofun) ?_
    intro after also headers
    obtain rfl := Option.some.inj (streaming.symm.trans also)
    rw [phase] at headers
    exact headers.headerCase
  | @headerStep ctx job raised phase streaming =>
    refine following.frame rfl nofun ?_
    rintro after ⟨⟩
    have header := following.inPhase ctx streaming
    rw [phase] at header
    obtain ⟨sampled, rest⟩ := header
    exact ⟨following.eightBits ctx streaming, { sampled with }, rest⟩
  | @program job phase =>
    simp only [note, phase]
    refine following.advance rfl rfl (by rw [phase]; exact nofun) fun ctx _ sliced => ?_
    rw [phase] at sliced
    exact sliced.configure
  | jobFinish done phase => exact following.jobFinish done recovers phase

theorem initial : Following ⟨{}, {}⟩ where
  decodable := ⟨trivial, trivial⟩
  announced some := absurd rfl some
  idle _ := rfl
  eightBits _ streaming := by cases streaming
  inPhase _ streaming := by cases streaming

end Following

/-- Whatever jobs fail, the published pictures are decodable if each job that succeeds after failed ones was
sampled at the start of a GOP or with a key frame forced, with its parameter sets due unless a picture was
published before. -/
theorem stream_decodable_of_recovers (events : List Event) (final : Recorded State Stream)
    (recovers : Guarded (record step note) Recovers ⟨{}, {}⟩ events)
    (reached : run (record step note) ⟨{}, {}⟩ events = some final) : final.history.Decodable :=
  (recovers.run_preserves Following Following.step .initial reached).decodable

/-- A job that fails in hardware. -/
def failingJob : List Event := [.jobPrepare, .formatConfigure true, .headerCase, .program, .jobFinish false]

/-- A picture is lost, and a key frame is forced for the next one. -/
def lostAndForced : List Event :=
  [.streamOn 1280 720] ++ firstHeaders ++ lastHeader ++ failingJob ++ [.forceKeyFrame] ++ sliceOnly

theorem stream_decodable_lost_and_forced :
    ∃ final, run (record step note) ⟨{}, {}⟩ lostAndForced = some final ∧ final.history.published.length = 2 ∧
      final.history.Decodable :=
  ⟨_, rfl, rfl, stream_decodable_of_recovers lostAndForced _ (by decide) rfl⟩

/-- A picture is lost, and the next one is predicted from it. -/
def lost : List Event := [.streamOn 1280 720] ++ firstHeaders ++ lastHeader ++ failingJob ++ sliceOnly

theorem stream_not_always_decodable :
    ¬ ∀ (events : List Event) (final : Recorded State Stream),
      run (record step note) ⟨{}, {}⟩ events = some final → final.history.Decodable := by
  intro always
  have decodable := always lost _ rfl
  obtain ⟨prev, last, predicted⟩ := decodable.inOrder.1.predicted rfl
  obtain rfl := Option.some.inj last
  revert predicted
  decide

end H618Vpu.H264
