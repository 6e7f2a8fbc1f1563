import H618Vpu.Machine.Run
import H618Vpu.Model.Power

/-! # Power over the runs of a device

A file contributes to the usage count while its coded queue streams, so the device is powered whenever some file can
run a job, and off once all have stopped and runtime PM has seen it. A resume that fails leaves the clocks as they were.
-/

namespace H618Vpu.Power

open Formats (BufferType Proc decProc)
open Machine
open Streaming hiding Event step

/-- Moving buffers does not change what the file holds and which of its queues stream. -/
structure Unmoved (s next : State) : Prop where
  proc : next.proc = s.proc
  engine : next.engine = s.engine
  engineCtx : next.engineCtx = s.engineCtx
  engineJob : next.engineJob = s.engineJob
  pmUsage : next.pmUsage = s.pmUsage
  streaming : ∀ type, (next.queue type).streaming = (s.queue type).streaming
  slots : ∀ type, (next.queue type).slots = (s.queue type).slots

namespace Unmoved

variable {s next last : State}

theorem refl (s : State) : Unmoved s s := ⟨rfl, rfl, rfl, rfl, rfl, fun _ => rfl, fun _ => rfl⟩

theorem trans (first : Unmoved s next) (second : Unmoved next last) : Unmoved s last where
  proc := second.proc.trans first.proc
  engine := second.engine.trans first.engine
  engineCtx := second.engineCtx.trans first.engineCtx
  engineJob := second.engineJob.trans first.engineJob
  pmUsage := second.pmUsage.trans first.pmUsage
  streaming type := (second.streaming type).trans (first.streaming type)
  slots type := (second.slots type).trans (first.slots type)

/-- A queue may change but for its buffers and whether it streams. -/
theorem setQueue (s : State) {type : BufferType} {queue : Queue}
    (streaming : queue.streaming = (s.queue type).streaming) (slots : queue.slots = (s.queue type).slots) :
    Unmoved s (s.setQueue type queue) := by
  cases type with
  | output =>
    refine ⟨rfl, rfl, rfl, rfl, rfl, fun other => ?_, fun other => ?_⟩
    · cases other with
      | output => exact streaming
      | capture => rfl
    · cases other with
      | output => exact slots
      | capture => rfl
  | capture =>
    refine ⟨rfl, rfl, rfl, rfl, rfl, fun other => ?_, fun other => ?_⟩
    · cases other with
      | output => rfl
      | capture => exact streaming
    · cases other with
      | output => rfl
      | capture => exact slots

/-- The records of where buffers went do not matter. -/
theorem of_records (same : next = { s with
    held := next.held, nextSerial := next.nextSerial, returned := next.returned, reclaimed := next.reclaimed
    completed := next.completed }) : Unmoved s next := by
  rw [same]
  exact ⟨rfl, rfl, rfl, rfl, rfl, fun type => by cases type <;> rfl, fun type => by cases type <;> rfl⟩

theorem bufferQueue (s : State) (type : BufferType) (queued : Queued) : Unmoved s (s.bufferQueue type queued) := by
  have added : Unmoved s (s.setQueue type
      { s.queue type with ready := (s.queue type).ready ++ [⟨queued, s.nextSerial⟩] }) := setQueue s rfl rfl
  exact added.trans (of_records rfl)

theorem handOver (s : State) (type : BufferType) : Unmoved s (s.handOver type) := by
  have loop (waiting : List Queued) (s : State) : Unmoved s (State.handOverLoop type waiting s) := by
    induction waiting generalizing s with
    | nil => exact refl s
    | cons queued rest ih => exact (bufferQueue s type queued).trans (ih _)
  have taken : Unmoved s (s.setQueue type { s.queue type with waiting := [] }) := setQueue s rfl rfl
  exact taken.trans (loop _ _)

theorem bufDone (s : State) (type : BufferType) (buffer : Buffer) (state : BufState) :
    Unmoved s (s.bufDone type buffer state) := by
  have noted : Unmoved s { s with returned := s.returned ++ [⟨buffer, state⟩] } := of_records rfl
  cases state with
  | queued =>
    refine noted.trans ?_
    exact setQueue _ rfl rfl
  | done => exact noted
  | error => exact noted

theorem requestComplete (s : State) (request : Option ℕ) : Unmoved s (s.requestComplete request) := of_records rfl

theorem queueCleanup (s : State) (type : BufferType) (error : Bool) : Unmoved s (s.queueCleanup type error) := by
  have loop (state : BufState) (ready : List Buffer) (s : State) :
      Unmoved s (State.queueCleanupLoop type state ready s) := by
    induction ready generalizing s with
    | nil => exact refl s
    | cons buffer rest ih =>
      have removed : Unmoved s (s.setQueue type { s.queue type with ready := rest }) := setQueue s rfl rfl
      have completed := removed.trans (requestComplete _ buffer.request)
      exact (completed.trans (bufDone _ type buffer state)).trans (ih _)
  exact loop _ _ s

theorem reclaim (s : State) (type : BufferType) : Unmoved s (s.reclaim type) := by
  have emptied : Unmoved s (s.setQueue type { s.queue type with ready := [] }) := setQueue s rfl rfl
  exact emptied.trans (of_records rfl)

theorem qbuf (s : State) (type : BufferType) (queued : Queued) : Unmoved s (s.qbuf type queued) := by
  rw [State.qbuf]
  split_ifs
  · exact refl s
  · exact refl s
  · exact refl s
  · exact bufferQueue s type queued
  · exact setQueue s rfl rfl

/-- The lists of ready buffers may change. -/
theorem of_ready (s : State) (sources destinations : List Buffer) (held : Bool) :
    Unmoved s { s with
      output := { s.output with ready := sources }, capture := { s.capture with ready := destinations }, held } :=
  ⟨rfl, rfl, rfl, rfl, rfl, fun type => by cases type <;> rfl, fun type => by cases type <;> rfl⟩

theorem job {state : BufState} {hold : Bool} (taken : s.job state hold = some next) : Unmoved s next := by
  unfold State.job at taken
  split at taken
  case h_2 => cases taken
  case h_1 source sources destination destinations _ _ =>
    split at taken
    case isTrue => cases taken
    case isFalse =>
      obtain rfl := Option.some.inj taken
      refine Unmoved.trans ?_ (bufDone _ .output source state)
      cases hold with
      | true => exact (requestComplete s _).trans (of_ready _ sources s.capture.ready true)
      | false =>
        refine Unmoved.trans ?_ (bufDone _ .capture destination state)
        exact (requestComplete s _).trans (of_ready _ sources destinations false)

theorem newFrame (taken : s.newFrame = some next) : Unmoved s next := by
  unfold State.newFrame at taken
  split at taken
  case h_2 => cases taken
  case h_1 buffer rest _ _ =>
    obtain rfl := Option.some.inj taken
    exact (of_ready s s.output.ready rest false).trans (bufDone _ .capture buffer .done)

end Unmoved

/-- The coded queue of the file streams. -/
def streams (s : State) : Bool := (s.queue (codedType s.proc.role)).streaming

/-- A file has its use of the device, its context and its job exactly while its coded queue streams. -/
structure Holds (s : State) : Prop where
  pmUsage : s.pmUsage = if streams s then 1 else 0
  engineCtx : s.engineCtx = (streams s && hasCtx s.engine)
  engineJob : s.engineJob = streams s
  slots : streams s = true → (s.queue (codedType s.proc.role)).slots ≠ 0

theorem formatType_eq_coded_iff {proc : Proc} {type : BufferType} :
    proc.formatType type = .coded ↔ type = codedType proc.role := by
  cases role : proc.role <;> cases type <;> simp [Proc.formatType, codedType, role]

variable {s next : State}

theorem Unmoved.streams (unmoved : Unmoved s next) : streams next = streams s := by
  rw [Power.streams, unmoved.proc, unmoved.streaming, Power.streams]

theorem Unmoved.holds (unmoved : Unmoved s next) (holds : Holds s) : Holds next where
  pmUsage := by rw [unmoved.pmUsage, unmoved.streams, holds.pmUsage]
  engineCtx := by rw [unmoved.engineCtx, unmoved.streams, unmoved.engine, holds.engineCtx]
  engineJob := by rw [unmoved.engineJob, unmoved.streams, holds.engineJob]
  slots streaming := by
    rw [unmoved.proc, unmoved.slots]
    exact holds.slots (unmoved.streams ▸ streaming)

/-- A file that does not stream holds nothing. -/
theorem Holds.stopped (holds : Holds s) (off : streams s = false) :
    s.pmUsage = 0 ∧ s.engineCtx = false ∧ s.engineJob = false := by
  refine ⟨?_, ?_, ?_⟩
  · rw [holds.pmUsage, off, if_neg Bool.false_ne_true]
  · rw [holds.engineCtx, off, Bool.false_and]
  · rw [holds.engineJob, off]

/-- On the coded queue a start takes everything or leaves the file as it was. -/
theorem startStreaming_cases {type : BufferType} (coded : type = codedType s.proc.role) (holds : Holds s)
    (stopped : streams s = false) (answers : Answers) :
    let started := s.startStreaming type answers
    (started.2 = 0 ∧ answers.resume = 0 ∧
        started.1 = { s with pmUsage := 1, engineCtx := hasCtx s.engine, engineJob := true }) ∨
      (started.2 ≠ 0 ∧ Unmoved s started.1) := by
  have coded := formatType_eq_coded_iff.mpr coded
  obtain ⟨unused, noCtx, noJob⟩ := holds.stopped stopped
  dsimp only
  rw [State.startStreaming, if_neg (not_not.mpr coded)]
  by_cases resumed : answers.resume = 0
  case neg =>
    rw [if_pos resumed]
    exact .inr ⟨resumed, Unmoved.queueCleanup s _ false⟩
  rw [if_neg (not_not.mpr resumed)]
  have undone {before : State} (same : before = { s with
      pmUsage := s.pmUsage + 1 - 1, engineCtx := before.engineCtx, engineJob := before.engineJob })
      (ctx : before.engineCtx = false) (job : before.engineJob = false) :
      Unmoved s (before.queueCleanup type false) := by
    refine Unmoved.trans ?_ (Unmoved.queueCleanup before _ false)
    rw [same]
    exact ⟨rfl, rfl, ctx.trans noCtx.symm, job.trans noJob.symm, add_sub_cancel_right ..,
      fun type => by cases type <;> rfl, fun type => by cases type <;> rfl⟩
  dsimp only
  split
  · exact .inr ⟨(by decide : enomem ≠ 0), undone rfl noCtx noJob⟩
  split
  · exact .inr ⟨(by decide : enomem ≠ 0), undone rfl rfl noJob⟩
  split
  case isTrue failed => exact .inr ⟨failed, undone rfl rfl rfl⟩
  case isFalse =>
    refine .inl ⟨rfl, resumed, ?_⟩
    rw [noCtx, unused]
    simp

theorem streams_setQueue (s : State) (type : BufferType) (queue : Queue) :
    streams (s.setQueue type queue) = if type = codedType s.proc.role then queue.streaming else streams s := by
  cases type <;> cases role : s.proc.role <;> simp [streams, codedType, State.setQueue, State.queue, role]

/-- The picture queue does not matter to what the file holds. -/
theorem Holds.setQueue (holds : Holds s) {type : BufferType} (picture : type ≠ codedType s.proc.role) (queue : Queue) :
    Holds (s.setQueue type queue) := by
  have same : streams (s.setQueue type queue) = streams s := (streams_setQueue s type queue).trans (if_neg picture)
  have coded : ((s.setQueue type queue).queue (codedType s.proc.role)) = s.queue (codedType s.proc.role) := by
    cases type <;> cases role : s.proc.role <;> simp [role, codedType] at picture ⊢ <;> rfl
  obtain ⟨pmUsage, engineCtx, engineJob, slots⟩ := holds
  cases type <;>
    exact ⟨pmUsage.trans (by rw [same]), engineCtx.trans (by rw [same]; rfl), engineJob.trans same.symm,
      fun streaming => coded ▸ slots (same ▸ streaming)⟩

/-- Holding nothing is right for a file that does not stream. -/
theorem Holds.of_stopped (unused : s.pmUsage = 0 ∧ s.engineCtx = false ∧ s.engineJob = false)
    (stopped : streams s = false) : Holds s where
  pmUsage := by rw [unused.1, stopped, if_neg Bool.false_ne_true]
  engineCtx := by rw [unused.2.1, stopped, Bool.false_and]
  engineJob := unused.2.2.trans stopped.symm
  slots streaming := by rw [stopped] at streaming; cases streaming

theorem Holds.of_stopped_setQueue {type : BufferType} {queue : Queue} (coded : type = codedType s.proc.role)
    (off : queue.streaming = false) (unused : s.pmUsage = 0 ∧ s.engineCtx = false ∧ s.engineJob = false) :
    Holds (s.setQueue type queue) ∧ streams (s.setQueue type queue) = false := by
  have stopped : streams (s.setQueue type queue) = false :=
    (streams_setQueue s type queue).trans ((if_pos coded).trans off)
  refine ⟨Holds.of_stopped ?_ stopped, stopped⟩
  cases type <;> exact unused

/-- A file whose coded queue has just started holds everything. -/
theorem Holds.of_started {type : BufferType} (coded : type = codedType s.proc.role)
    (slots : (s.queue type).slots ≠ 0) :
    let taken := { s with pmUsage := 1, engineCtx := hasCtx s.engine, engineJob := true }
    Holds (taken.setQueue type { taken.queue type with streaming := true }) := by
  intro taken
  have streaming : streams (taken.setQueue type { taken.queue type with streaming := true }) = true :=
    (streams_setQueue taken type _).trans (if_pos coded)
  have kept : ((taken.setQueue type { taken.queue type with streaming := true }).queue type).slots =
      (s.queue type).slots := by cases type <;> rfl
  have role : (taken.setQueue type { taken.queue type with streaming := true }).proc.role = s.proc.role := by
    cases type <;> rfl
  constructor
  · rw [streaming, if_pos rfl]
    cases type <;> rfl
  · rw [streaming, Bool.true_and]
    cases type <;> rfl
  · rw [streaming]
    cases type <;> rfl
  · rw [role, ← coded, kept]
    exact fun _ => slots

theorem streamOn_holds (holds : Holds s) (type : BufferType) (answers : Answers) :
    Holds (s.streamOn type answers) ∧
      (streams (s.streamOn type answers) = true → streams s = true ∨ asksPower s type = true ∧ answers.resume = 0) := by
  by_cases refused : (s.queue type).slots = 0 ∨ (s.queue type).streaming = true
  · rw [State.streamOn, if_pos refused]
    exact ⟨holds, .inl⟩
  have handed := Unmoved.handOver s type
  rw [State.streamOn, if_neg refused]
  obtain ⟨slots, stopped⟩ := not_or.mp refused
  by_cases coded : type = codedType s.proc.role
  · have codedHanded : type = codedType (s.handOver type).proc.role := by rwa [handed.proc]
    have started := startStreaming_cases codedHanded (handed.holds holds)
      (handed.streams.trans (by rw [streams, ← coded]; exact Bool.eq_false_iff.mpr stopped)) answers
    dsimp only at started ⊢
    rcases started with ⟨succeeded, resumed, taken⟩ | ⟨failed, unmoved⟩
    · rw [if_pos succeeded, taken]
      refine ⟨Holds.of_started codedHanded (by rwa [handed.slots]), fun _ => .inr ⟨?_, resumed⟩⟩
      simp [asksPower, slots, Bool.eq_false_iff.mpr stopped, formatType_eq_coded_iff.mpr coded]
    · rw [if_neg failed]
      have back := (handed.trans unmoved).trans (Unmoved.reclaim _ type)
      exact ⟨back.holds holds, fun streaming => .inl (back.streams ▸ streaming)⟩
  · have picture : (s.handOver type).proc.formatType type ≠ .coded := by
      rwa [handed.proc, Ne, formatType_eq_coded_iff]
    have other : type ≠ codedType (s.handOver type).proc.role := by rwa [handed.proc]
    rw [State.startStreaming, if_pos picture]
    dsimp only
    rw [if_pos rfl, streams_setQueue, if_neg other]
    exact ⟨(handed.holds holds).setQueue other _, fun streaming => .inl (handed.streams ▸ streaming)⟩

/-- A stop of the coded queue gives everything back. -/
theorem stopStreaming_unmoved (s : State) :
    Unmoved { s with engineCtx := false, engineJob := false, pmUsage := s.pmUsage - 1 }
      (s.stopStreaming (codedType s.proc.role)) := by
  have coded := formatType_eq_coded_iff.mpr (rfl : codedType s.proc.role = _)
  rw [State.stopStreaming, if_neg (not_not.mpr coded)]
  have cleaned := Unmoved.queueCleanup { s with engineCtx := false, engineJob := false } (codedType s.proc.role) true
  exact ⟨cleaned.proc, cleaned.engine, cleaned.engineCtx, cleaned.engineJob, congrArg (· - 1) cleaned.pmUsage,
    cleaned.streaming, cleaned.slots⟩

/-- What a cancel leaves of the file, before the queue itself is emptied. -/
theorem queueCancel_eq (s : State) (type : BufferType) :
    ∃ next, Unmoved (if (s.queue type).streaming then s.stopStreaming type else s) next ∧
      ∃ queue, queue.streaming = false ∧ Unmoved (next.setQueue type queue) (s.queueCancel type) := by
  rw [State.queueCancel]
  generalize (if (s.queue type).streaming then s.stopStreaming type else s) = stopped
  have emptied : Unmoved (stopped.reclaim type) { stopped.reclaim type with completed :=
    (stopped.reclaim type).completed ++ ((stopped.reclaim type).queue type).waiting.filterMap Queued.request } :=
    Unmoved.of_records rfl
  exact ⟨_, (Unmoved.reclaim stopped type).trans emptied, _, rfl, Unmoved.of_records rfl⟩

theorem queueCancel_holds (holds : Holds s) (type : BufferType) :
    Holds (s.queueCancel type) ∧
      streams (s.queueCancel type) = (streams s && !(decide (type = codedType s.proc.role))) := by
  obtain ⟨next, unmoved, queue, off, final⟩ := queueCancel_eq s type
  rw [final.streams, streams_setQueue]
  by_cases coded : type = codedType s.proc.role
  · have stopped : ∃ before : State, before.proc = s.proc ∧
        (before.pmUsage = 0 ∧ before.engineCtx = false ∧ before.engineJob = false) ∧ Unmoved before next := by
      cases streaming : streams s with
      | true =>
        have queue : (s.queue type).streaming = true := by rwa [coded]
        rw [if_pos queue, coded] at unmoved
        refine ⟨{ s with engineCtx := false, engineJob := false, pmUsage := s.pmUsage - 1 }, rfl, ⟨?_, rfl, rfl⟩,
          (stopStreaming_unmoved s).trans unmoved⟩
        change s.pmUsage - 1 = 0
        rw [holds.pmUsage, if_pos streaming, sub_self]
      | false =>
        have queue : (s.queue type).streaming = false := by rwa [coded]
        rw [queue, if_neg Bool.false_ne_true] at unmoved
        exact ⟨s, rfl, holds.stopped streaming, unmoved⟩
    obtain ⟨before, proc, ⟨pmUsage, engineCtx, engineJob⟩, unmoved⟩ := stopped
    have codedNext : type = codedType next.proc.role := by rwa [unmoved.proc, proc]
    rw [if_pos codedNext, off, decide_eq_true coded, Bool.not_true, Bool.and_false]
    refine ⟨final.holds (Holds.of_stopped_setQueue codedNext off ⟨?_, ?_, ?_⟩).1, rfl⟩
    · exact unmoved.pmUsage.trans pmUsage
    · exact unmoved.engineCtx.trans engineCtx
    · exact unmoved.engineJob.trans engineJob
  · have still : (if (s.queue type).streaming then s.stopStreaming type else s) = s := by
      split
      · exact if_pos (mt formatType_eq_coded_iff.mp coded)
      · rfl
    rw [still] at unmoved
    have other : type ≠ codedType next.proc.role := by rwa [unmoved.proc]
    rw [if_neg other, unmoved.streams, decide_eq_false coded, Bool.not_false, Bool.and_true]
    exact ⟨final.holds ((unmoved.holds holds).setQueue other queue), rfl⟩

theorem queueCancel_proc (s : State) (type : BufferType) : (s.queueCancel type).proc = s.proc := by
  obtain ⟨next, unmoved, queue, -, final⟩ := queueCancel_eq s type
  have kept : (next.setQueue type queue).proc = next.proc := by cases type <;> rfl
  rw [final.proc, kept, unmoved.proc]
  split
  · by_cases coded : type = codedType s.proc.role
    · rw [coded]
      exact (stopStreaming_unmoved s).proc
    · exact congrArg State.proc (if_pos (mt formatType_eq_coded_iff.mp coded))
  · rfl

theorem reqbufs_holds (holds : Holds s) (type : BufferType) (count : ℕ) :
    Holds (s.reqbufs type count) ∧ (streams (s.reqbufs type count) = true → streams s = true) := by
  rw [State.reqbufs]
  split_ifs with streaming
  · exact ⟨holds, id⟩
  obtain ⟨cancelled, off⟩ := queueCancel_holds holds type
  have proc := queueCancel_proc s type
  dsimp only
  generalize s.queueCancel type = cancel at *
  by_cases coded : type = codedType cancel.proc.role
  · rw [decide_eq_true (proc ▸ coded), Bool.not_true, Bool.and_false] at off
    have quiet : (cancel.queue type).streaming = false := by rwa [streams, ← coded] at off
    let queue := { cancel.queue type with slots := count }
    have emptied : Holds (cancel.setQueue type queue) ∧ streams (cancel.setQueue type queue) = false :=
      Holds.of_stopped_setQueue coded quiet (cancelled.stopped off)
    exact ⟨emptied.1, fun streaming => absurd streaming (Bool.eq_false_iff.mp emptied.2)⟩
  · refine ⟨cancelled.setQueue coded _, fun streaming => ?_⟩
    rw [streams_setQueue, if_neg coded, off] at streaming
    exact (Bool.and_eq_true _ _ ▸ streaming).1

/-- What a step of a file keeps, and the one way in which its coded queue starts to stream. -/
theorem step_holds (holds : Holds s) {event : Streaming.Event} (taken : Streaming.step s event = some next) :
    Holds next ∧ (streams next = true → streams s = true ∨
      ∃ type answers, event = .streamOn type answers ∧ asksPower s type = true ∧ answers.resume = 0) := by
  cases event with
  | reqbufs type count =>
    obtain rfl := Option.some.inj taken
    exact ⟨(reqbufs_holds holds type count).1, fun streaming => .inl ((reqbufs_holds holds type count).2 streaming)⟩
  | qbuf type queued =>
    obtain rfl := Option.some.inj taken
    have unmoved := Unmoved.qbuf s type queued
    exact ⟨unmoved.holds holds, fun streaming => .inl (unmoved.streams ▸ streaming)⟩
  | streamOn type answers =>
    obtain rfl := Option.some.inj taken
    obtain ⟨held, starts⟩ := streamOn_holds holds type answers
    exact ⟨held, fun streaming => (starts streaming).imp_right fun asked => ⟨type, answers, rfl, asked⟩⟩
  | streamOff type =>
    obtain rfl := Option.some.inj taken
    obtain ⟨held, off⟩ := queueCancel_holds holds type
    exact ⟨held, fun streaming => .inl (Bool.and_eq_true _ _ ▸ off ▸ streaming).1⟩
  | job state hold =>
    have unmoved := Unmoved.job taken
    exact ⟨unmoved.holds holds, fun streaming => .inl (unmoved.streams ▸ streaming)⟩
  | newFrame =>
    have unmoved := Unmoved.newFrame taken
    exact ⟨unmoved.holds holds, fun streaming => .inl (unmoved.streams ▸ streaming)⟩
  | engineUpdate engine =>
    simp only [Streaming.step] at taken
    split at taken
    case isFalse => cases taken
    case isTrue allowed =>
      obtain rfl := Option.some.inj taken
      have off : streams s = false := Bool.eq_false_iff.mpr fun streaming => holds.slots streaming allowed.2
      exact ⟨Holds.of_stopped (holds.stopped off) off, .inl⟩

namespace Lines

/-- Every clock is enabled once, and the engine is out of reset. -/
def On (lines : Lines) : Prop := lines = ⟨1, 1, 1, false⟩

/-- No clock is enabled. -/
def Off (lines : Lines) : Prop := lines.clockAhb = 0 ∧ lines.clockMod = 0 ∧ lines.clockRam = 0

/-- A resume enables everything, or gives back what it has enabled. -/
theorem Off.resume {lines : Lines} (off : lines.Off) (answers : ResumeAnswers) :
    let resumed := lines.resume answers
    if resumed.2 = 0 then resumed.1.On else resumed.1.Off := by
  obtain ⟨ahb, mod, ram⟩ := off
  simp only [Lines.resume, errorClockMod, errorClockAhb, errorReset]
  split_ifs with reset clockAhb clockMod clockRam <;> simp_all [On, Off]

theorem On.suspend {lines : Lines} (on : lines.On) : lines.suspend.Off ∧ lines.suspend.resetAsserted = true := by
  rw [On] at on
  subst on
  exact ⟨⟨rfl, rfl, rfl⟩, rfl⟩

end Lines

/-- The file is open, and its coded queue streams. -/
def Device.streams (dev : Device) (number : ℕ) : Bool := (dev.file number).elim false Power.streams

theorem Device.setFile_file (dev : Device) (number other : ℕ) (file : Option State) :
    (dev.setFile number file).file other = if other = number then file else dev.file other :=
  Function.update_apply ..

/-- What each file holds, and the device with them. -/
structure Sound (dev : Device) : Prop where
  left : dev.left = 0
  fresh : ∀ number, dev.opened ≤ number → dev.file number = none
  holds : ∀ number file, dev.file number = some file → Holds file
  active : ∀ number, dev.streams number = true → dev.active = true
  lines : if dev.active then dev.lines.On else dev.lines.Off

namespace Sound

variable {dev : Device}

/-- The files that stream count in the usage of the device, and no others. -/
theorem usage_eq (sound : Sound dev) : dev.usage = ((List.range dev.opened).countP dev.streams : ℤ) := by
  have each (number : ℕ) : dev.contribution number = if dev.streams number then 1 else 0 := by
    rw [Device.contribution, Device.streams]
    cases there : dev.file number with
    | none => rfl
    | some file => exact (sound.holds number file there).pmUsage
  rw [Device.usage, sound.left, zero_add]
  induction List.range dev.opened with
  | nil => rfl
  | cons number rest ih =>
    rw [List.map_cons, List.sum_cons, ih, each, List.countP_cons]
    split <;> push_cast <;> ring

theorem opened_of_streams (sound : Sound dev) {number : ℕ} (streaming : dev.streams number = true) :
    number < dev.opened := by
  by_contra fresh
  rw [Device.streams, sound.fresh number (not_lt.mp fresh)] at streaming
  cases streaming

theorem usage_eq_zero_iff (sound : Sound dev) : dev.usage = 0 ↔ ∀ number, dev.streams number = false := by
  rw [sound.usage_eq, Int.natCast_eq_zero, List.countP_eq_zero]
  constructor
  · intro none number
    by_contra streaming
    have streaming : dev.streams number = true := Bool.eq_true_of_not_eq_false streaming
    exact none number (List.mem_range.mpr (sound.opened_of_streams streaming)) streaming
  · intro none number _
    rw [none number]
    exact Bool.false_ne_true

theorem initial (resetAsserted : Bool) : Sound { lines := { resetAsserted } } where
  left := rfl
  fresh _ _ := rfl
  holds _ _ none := by cases none
  active _ none := by cases none
  lines := ⟨rfl, rfl, rfl⟩

/-- A file whose coded queue streams only while the device is active. -/
theorem setFile (sound : Sound dev) {number : ℕ} {file : Option State} (opened : number < dev.opened)
    (holds : ∀ s, file = some s → Holds s) (powered : file.elim false Power.streams = true → dev.active = true) :
    Sound (dev.setFile number file) where
  left := sound.left
  fresh other above := by
    have different : other ≠ number := by
      rintro rfl
      exact absurd opened (not_lt.mpr above)
    rw [Device.setFile_file, if_neg different]
    exact sound.fresh other above
  holds other s there := by
    rw [Device.setFile_file] at there
    split at there
    case isTrue => exact holds s there
    case isFalse => exact sound.holds other s there
  active other streaming := by
    rw [Device.streams, Device.setFile_file] at streaming
    split at streaming
    case isTrue => exact powered streaming
    case isFalse => exact sound.active other streaming
  lines := sound.lines

/-- Whatever a resume answers, the device stays in order; without an error it is active. -/
theorem resumeAndGet (sound : Sound dev) (answers : ResumeAnswers) :
    let resumed := dev.resumeAndGet answers
    Sound resumed.1 ∧ resumed.1.file = dev.file ∧ resumed.1.opened = dev.opened ∧
      (resumed.2 = 0 ∨ dev.active = true → resumed.1.active = true) := by
  dsimp only
  rw [Device.resumeAndGet]
  split
  case isTrue refused => exact ⟨sound, rfl, rfl, fun active => active.resolve_left refused⟩
  split
  case isTrue active => exact ⟨sound, rfl, rfl, fun _ => active⟩
  case isFalse inactive =>
    have off : dev.lines.Off := by
      have lines := sound.lines
      rwa [if_neg inactive] at lines
    have none (number : ℕ) : dev.streams number ≠ true := fun streaming => inactive (sound.active number streaming)
    have resumed := off.resume answers
    dsimp only at resumed ⊢
    refine ⟨⟨sound.left, sound.fresh, sound.holds, fun number streaming => absurd streaming (none number), ?_⟩,
      rfl, rfl, fun active => ?_⟩
    · dsimp only
      by_cases succeeded : (dev.lines.resume answers).2 = 0
      · rw [if_pos (decide_eq_true succeeded)]
        rwa [if_pos succeeded] at resumed
      · rw [if_neg (by simpa using succeeded)]
        rwa [if_neg succeeded] at resumed
    · exact decide_eq_true (active.resolve_right inactive)

theorem opened_of_file (sound : Sound dev) {number : ℕ} {file : State} (there : dev.file number = some file) :
    number < dev.opened := by
  by_contra fresh
  rw [sound.fresh number (not_lt.mp fresh)] at there
  cases there

theorem active_of_file (sound : Sound dev) {number : ℕ} {file : State} (there : dev.file number = some file)
    (streaming : Power.streams file = true) : dev.active = true :=
  sound.active number (by rwa [Device.streams, there])

/-- A coded queue starts to stream only with the device resumed. -/
theorem fileStep (sound : Sound dev) {number : ℕ} {file : State} (there : dev.file number = some file)
    {answers : ResumeAnswers} {event : Streaming.Event} {next : Device}
    (taken : Power.fileStep dev number file answers event = some next) : Sound next := by
  have opened : number < dev.opened := sound.opened_of_file there
  have holds : Holds file := sound.holds number file there
  have moved {after : State} (stepped : Streaming.step file event = some after) (starts : ∀ type answers,
      event = .streamOn type answers → asksPower file type = true → answers.resume = 0 → dev.active = true) :
      Sound (dev.setFile number (some after)) := by
    obtain ⟨held, streaming⟩ := step_holds holds stepped
    refine sound.setFile opened (fun _ same => Option.some.inj same ▸ held) fun started => ?_
    rcases streaming started with before | ⟨type, answers, same, asked, resumed⟩
    · exact sound.active_of_file there before
    · exact starts type answers same asked resumed
  cases event with
  | streamOn type started =>
    rw [Power.fileStep] at taken
    split at taken
    case isFalse quiet =>
      obtain rfl := Option.some.inj taken
      refine moved rfl fun type answers same asked => ?_
      cases same
      exact absurd asked quiet
    case isTrue asked =>
      obtain rfl := Option.some.inj taken
      obtain ⟨kept, files, count, active⟩ := sound.resumeAndGet answers
      obtain ⟨held, streaming⟩ := streamOn_holds holds type { started with resume := (dev.resumeAndGet answers).2 }
      refine kept.setFile (count ▸ opened) (fun _ same => Option.some.inj same ▸ held) fun started => active ?_
      exact (streaming started).symm.imp And.right (sound.active_of_file there)
  | reqbufs | qbuf | streamOff | job | newFrame | engineUpdate =>
    rw [Power.fileStep] at taken
    · obtain ⟨after, stepped, rfl⟩ := Option.map_eq_some_iff.mp taken
      exact moved stepped fun _ _ same => by cases same
    · exact fun _ _ same => by cases same

end Sound

/-- A file that is closed has given back its use of the device. -/
theorem release_pmUsage {file : State} (holds : Holds file) : (release file).pmUsage = 0 := by
  obtain ⟨capture, captureOff⟩ := queueCancel_holds holds .capture
  obtain ⟨output, outputOff⟩ := queueCancel_holds capture .output
  have off : streams (release file) = false := by
    rw [release, outputOff, captureOff, queueCancel_proc]
    cases file.proc.role <;> simp [codedType]
  have pmUsage := output.pmUsage
  change (release file).pmUsage = if streams (release file) then 1 else 0 at pmUsage
  rwa [off, if_neg Bool.false_ne_true] at pmUsage

/-- Runtime PM suspends a device that no file streams on, and no other. -/
theorem Sound.idle {dev next : Device} (sound : Sound dev) (taken : step dev .idle = some next) :
    Sound next ∧ next.file = dev.file ∧ (next.active = true ↔ ∃ number, dev.streams number = true) := by
  simp only [step] at taken
  split at taken
  case isTrue due =>
    obtain ⟨unused, active⟩ := due
    obtain rfl := Option.some.inj taken
    have none := sound.usage_eq_zero_iff.mp unused
    have on := sound.lines
    rw [if_pos active] at on
    refine ⟨⟨sound.left, sound.fresh, sound.holds, fun number streaming => ?_, on.suspend.1⟩, rfl, ?_⟩
    · exact absurd streaming (Bool.eq_false_iff.mp (none number))
    · exact iff_of_false Bool.false_ne_true fun ⟨number, streaming⟩ => Bool.eq_false_iff.mp (none number) streaming
  case isFalse busy =>
    obtain rfl := Option.some.inj taken
    refine ⟨sound, rfl, fun active => ?_, fun ⟨number, streaming⟩ => sound.active number streaming⟩
    by_contra none
    have unused : dev.usage = 0 :=
      sound.usage_eq_zero_iff.mpr fun number => Bool.eq_false_iff.mpr fun streaming => none ⟨number, streaming⟩
    exact busy ⟨unused, active⟩

theorem Sound.step {dev next : Device} {event : Event} (sound : Sound dev) (taken : Power.step dev event = some next) :
    Sound next := by
  cases event with
  | openFile proc =>
    obtain rfl := Option.some.inj taken
    have stopped : Holds (State.opened proc) := by
      refine Holds.of_stopped ⟨rfl, rfl, rfl⟩ ?_
      cases role : proc.role <;> simp [streams, State.opened, State.queue, codedType, role]
    have more : Sound { dev with opened := dev.opened + 1 } :=
      ⟨sound.left, fun number above => sound.fresh number (by dsimp only at above; omega), sound.holds, sound.active,
        sound.lines⟩
    refine more.setFile (Nat.lt_succ_self dev.opened) (fun _ same => Option.some.inj same ▸ stopped) fun streaming => ?_
    cases role : proc.role <;> simp [streams, State.opened, State.queue, codedType, role] at streaming
  | file number event answers =>
    obtain ⟨file, there, taken⟩ := Option.bind_eq_some_iff.mp taken
    exact sound.fileStep there taken
  | close number =>
    obtain ⟨file, there, rfl⟩ := Option.map_eq_some_iff.mp taken
    have closed : Sound (dev.setFile number none) :=
      sound.setFile (sound.opened_of_file there) (fun _ same => by cases same) fun streaming => by cases streaming
    refine ⟨?_, closed.fresh, closed.holds, closed.active, closed.lines⟩
    change dev.left + (release file).pmUsage = 0
    rw [sound.left, release_pmUsage (sound.holds number file there), zero_add]
  | idle => exact (sound.idle taken).1

/-- What the device is like with its files: each has its context and its job while its coded queue streams, the usage
count is the number of these files, with one of them the device is on, and otherwise the next suspend turns it off. -/
structure Powered (dev : Device) : Prop where
  files : ∀ number file, dev.file number = some file →
    file.engineJob = streams file ∧ file.engineCtx = (streams file && hasCtx file.engine)
  usage : dev.usage = ((List.range dev.opened).countP dev.streams : ℤ)
  active : ∀ number, dev.streams number = true → dev.active = true
  lines : if dev.active then dev.lines.On else dev.lines.Off
  idle : ∀ next, step dev .idle = some next → (next.active = true ↔ ∃ number, dev.streams number = true) ∧
    if next.active then next.lines.On else next.lines.Off

/-- In every run of any number of files, with any failures. -/
theorem device_powered (resetAsserted : Bool) (events : List Event) (dev : Device)
    (reached : run step { lines := { resetAsserted } } events = some dev) : Powered dev := by
  have sound : Sound dev := run_preserves Sound Sound.step (.initial resetAsserted) reached
  refine ⟨fun number file there => ?_, sound.usage_eq, sound.active, sound.lines, fun next taken => ?_⟩
  · have holds := sound.holds number file there
    exact ⟨holds.engineJob, holds.engineCtx⟩
  · obtain ⟨after, -, suspended⟩ := sound.idle taken
    exact ⟨suspended, after.lines⟩

/-- Two decoders: the module clock fails for the first one, then both stream, and the second one is closed. -/
def twoFiles : List Event :=
  [.openFile decProc, .openFile decProc, .file 0 (.reqbufs .output 1) {},
    .file 0 (.streamOn .output {}) { clockMod := -5 }, .file 0 (.streamOn .output {}) {},
    .file 1 (.reqbufs .output 1) {}, .file 1 (.streamOn .output {}) {}, .close 1]

theorem device_powered_two :
    ∃ dev, run step { lines := { resetAsserted := true } } twoFiles = some dev ∧ dev.usage = 1 ∧ dev.lines.On ∧
      Powered dev :=
  ⟨_, rfl, by decide, rfl, device_powered true twoFiles _ rfl⟩

end H618Vpu.Power
