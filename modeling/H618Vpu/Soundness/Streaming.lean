import H618Vpu.Machine.Run
import H618Vpu.Model.Streaming

/-! # Whether the end of streaming returns every buffer

`cedrus_context_queue_cleanup` hands back what the driver owns of a queue, and a failed start always gets
there. `stop_streaming` leaves before it on the picture queue, whose buffers vb2 has to take back itself.
-/

namespace H618Vpu.Streaming

open Machine
open Formats (BufferType Engine Proc decProc)

/-- How often a serial number is among the buffers the driver owns, returned, or lost to vb2. -/
def State.places (s : State) (serial : ℕ) : ℕ :=
  s.output.ready.countP (·.serial = serial) + s.capture.ready.countP (·.serial = serial) +
    s.reclaimed.countP (·.serial = serial) + s.returned.countP (·.buffer.serial = serial)

/-- Every buffer the driver was given is in one place, and in one only. -/
def State.Accounted (s : State) : Prop := ∀ serial, s.places serial = if serial < s.nextSerial then 1 else 0

/-- The driver owns no buffer of the queue any more: each one it owned has been handed back once, with its
request completed. -/
def HandedBack (type : BufferType) (before after : State) : Prop :=
  (after.queue type).ready = [] ∧
    ∀ buffer ∈ (before.queue type).ready,
      after.returned.countP (·.buffer.serial = buffer.serial) = 1 ∧
        ∀ request ∈ buffer.request, request ∈ after.completed

/-- Everything is handed back when the queue stops, and when its start fails. -/
def State.ReturnsEverything (s : State) (type : BufferType) : Prop :=
  HandedBack type s (s.stopStreaming type) ∧
    ∀ answers, ((s.handOver type).startStreaming type answers).2 ≠ 0 →
      HandedBack type (s.handOver type) ((s.handOver type).startStreaming type answers).1

/-- The buffers of the driver and the records of where they went are the same. -/
structure Kept (s next : State) : Prop where
  output : next.output.ready = s.output.ready
  capture : next.capture.ready = s.capture.ready
  reclaimed : next.reclaimed = s.reclaimed
  returned : next.returned = s.returned
  nextSerial : next.nextSerial = s.nextSerial

theorem Kept.accounted {s next : State} (kept : Kept s next) (accounted : s.Accounted) : next.Accounted := by
  intro serial
  rw [State.places, kept.output, kept.capture, kept.reclaimed, kept.returned, kept.nextSerial]
  exact accounted serial

theorem Kept.refl (s : State) : Kept s s := ⟨rfl, rfl, rfl, rfl, rfl⟩

theorem Kept.setQueue {s : State} {type : BufferType} {queue : Queue} (ready : queue.ready = (s.queue type).ready) :
    Kept s (s.setQueue type queue) := by
  cases type with
  | output => exact ⟨ready, rfl, rfl, rfl, rfl⟩
  | capture => exact ⟨rfl, ready, rfl, rfl, rfl⟩

@[simp]
theorem State.queue_setQueue (s : State) (type : BufferType) (queue : Queue) :
    (s.setQueue type queue).queue type = queue := by
  cases type <;> rfl

/-- The number of places changes as the list does. -/
theorem State.places_setQueue (s : State) (type : BufferType) (queue : Queue) (serial : ℕ) :
    (s.setQueue type queue).places serial + (s.queue type).ready.countP (·.serial = serial) =
      s.places serial + queue.ready.countP (·.serial = serial) := by
  cases type <;> simp only [State.places, State.setQueue, State.queue] <;> omega

theorem State.Accounted.bufferQueue {s : State} (accounted : s.Accounted) (type : BufferType) (queued : Queued) :
    (s.bufferQueue type queued).Accounted := by
  intro serial
  have moved := s.places_setQueue type
    { s.queue type with ready := (s.queue type).ready ++ [⟨queued, s.nextSerial⟩] } serial
  have before := accounted serial
  simp only [List.countP_append, List.countP_singleton, decide_eq_true_eq] at moved
  change (s.setQueue type _).places serial = if serial < s.nextSerial + 1 then 1 else 0
  split at moved <;> split at before <;> split <;> omega

theorem State.Accounted.handOver {s : State} (accounted : s.Accounted) (type : BufferType) :
    (s.handOver type).Accounted := by
  have loop (waiting : List Queued) (s : State) (accounted : s.Accounted) :
      (State.handOverLoop type waiting s).Accounted := by
    induction waiting generalizing s with
    | nil => exact accounted
    | cons queued rest ih => exact ih _ (accounted.bufferQueue type queued)
  have emptied : Kept s (s.setQueue type { s.queue type with waiting := [] }) := .setQueue rfl
  exact loop _ _ (emptied.accounted accounted)

theorem State.Accounted.reclaim {s : State} (accounted : s.Accounted) (type : BufferType) :
    (s.reclaim type).Accounted := by
  intro serial
  have moved : (s.reclaim type).places serial = s.places serial := by
    cases type <;>
      simp only [State.places, State.reclaim, State.setQueue, State.queue, List.countP_nil, List.countP_append] <;>
      omega
  have unchanged : (s.reclaim type).nextSerial = s.nextSerial := by cases type <;> rfl
  rw [moved, unchanged]
  exact accounted serial

/-- All ready buffers of a queue are returned in this state, in order, with their requests completed. -/
structure Cleaned (type : BufferType) (state : BufState) (s after : State) : Prop where
  ready : (after.queue type).ready = []
  returned : after.returned = s.returned ++ (s.queue type).ready.map (⟨·, state⟩)
  completed : after.completed = s.completed ++ (s.queue type).ready.flatMap (·.request.toList)
  places : ∀ serial, after.places serial = s.places serial
  nextSerial : after.nextSerial = s.nextSerial

theorem Cleaned.accounted {type : BufferType} {state : BufState} {s after : State}
    (cleaned : Cleaned type state s after)
    (accounted : s.Accounted) : after.Accounted := by
  intro serial
  rw [cleaned.places, cleaned.nextSerial]
  exact accounted serial

/-- What is returned once is in no other place. -/
theorem Cleaned.handedBack {type : BufferType} {state : BufState} {s after : State}
    (cleaned : Cleaned type state s after) (accounted : s.Accounted) : HandedBack type s after := by
  refine ⟨cleaned.ready, fun buffer owned => ⟨?_, fun request named => ?_⟩⟩
  · have member : (⟨buffer, state⟩ : Returned) ∈ after.returned := by
      rw [cleaned.returned]
      exact List.mem_append_right _ (List.mem_map_of_mem owned)
    have found : 0 < after.returned.countP (·.buffer.serial = buffer.serial) :=
      List.countP_pos_iff.mpr ⟨_, member, decide_eq_true rfl⟩
    have single := cleaned.accounted accounted buffer.serial
    rw [State.places] at single
    split at single <;> omega
  · rw [cleaned.completed]
    exact List.mem_append_right _ (List.mem_flatMap.mpr ⟨buffer, owned, Option.mem_toList.mpr named⟩)

/-- One turn of the loop. -/
theorem bufDone_first {type : BufferType} {s : State} {buffer : Buffer} {rest : List Buffer} (state : BufState)
    (current : (s.queue type).ready = buffer :: rest) :
    let next := ((s.setQueue type { s.queue type with ready := rest }).requestComplete buffer.request).bufDone
      type buffer state
    (next.queue type).ready = rest ∧ next.returned = s.returned ++ [⟨buffer, state⟩] ∧
      next.completed = s.completed ++ buffer.request.toList ∧ (∀ serial, next.places serial = s.places serial) ∧
      next.nextSerial = s.nextSerial := by
  have counted (serial : ℕ) : (buffer :: rest).countP (·.serial = serial) =
      rest.countP (·.serial = serial) + [buffer].countP (·.serial = serial) := by
    simp only [List.countP_cons, List.countP_nil, Nat.zero_add]
  cases type <;> simp only [State.queue] at current <;> cases state <;>
    refine ⟨rfl, rfl, rfl, fun serial => ?_, rfl⟩ <;>
    simp only [State.places, State.bufDone, State.requestComplete, State.setQueue, State.queue, current, counted,
      List.countP_append, List.countP_singleton] <;>
    omega

theorem queueCleanupLoop_cleaned (type : BufferType) (state : BufState) (ready : List Buffer) (s : State)
    (current : (s.queue type).ready = ready) : Cleaned type state s (State.queueCleanupLoop type state ready s) := by
  induction ready generalizing s with
  | nil =>
    refine ⟨current, ?_, ?_, fun _ => rfl, rfl⟩
    · rw [current]
      exact (List.append_nil _).symm
    · rw [current]
      exact (List.append_nil _).symm
  | cons buffer rest ih =>
    obtain ⟨ready, returned, completed, places, nextSerial⟩ := bufDone_first state current
    have cleaned := ih _ ready
    refine ⟨cleaned.ready, cleaned.returned.trans ?_, cleaned.completed.trans ?_,
      fun serial => (cleaned.places serial).trans (places serial), cleaned.nextSerial.trans nextSerial⟩
    · rw [ready, returned, current, List.map_cons, List.append_assoc, List.singleton_append]
    · rw [ready, completed, current, List.flatMap_cons, List.append_assoc]

theorem State.queueCleanup_cleaned (s : State) (type : BufferType) (error : Bool) :
    Cleaned type (if error then .error else .queued) s (s.queueCleanup type error) :=
  queueCleanupLoop_cleaned type _ _ s rfl

/-- Other fields of the context do not matter to the loop. -/
theorem Cleaned.of_kept {type : BufferType} {state : BufState} {s before after : State} (kept : Kept s before)
    (completed : before.completed = s.completed) (cleaned : Cleaned type state before after) :
    Cleaned type state s after := by
  have ready : (before.queue type).ready = (s.queue type).ready := by
    cases type with
    | output => exact kept.output
    | capture => exact kept.capture
  refine ⟨cleaned.ready, ?_, ?_, fun serial => ?_, cleaned.nextSerial.trans kept.nextSerial⟩
  · rw [cleaned.returned, kept.returned, ready]
  · rw [cleaned.completed, completed, ready]
  · rw [cleaned.places, State.places, kept.output, kept.capture, kept.reclaimed, kept.returned]
    rfl

/-- A start succeeds and moves nothing, or fails and hands everything back as queued. -/
theorem State.startStreaming_spec (s : State) (type : BufferType) (answers : Answers) :
    ((s.startStreaming type answers).2 = 0 ∧ Kept s (s.startStreaming type answers).1) ∨
      Cleaned type .queued s (s.startStreaming type answers).1 := by
  have cleaned (before : State) (kept : Kept s before) (completed : before.completed = s.completed) :
      Cleaned type .queued s (before.queueCleanup type false) :=
    (before.queueCleanup_cleaned type false).of_kept kept completed
  unfold State.startStreaming
  split
  · exact .inl ⟨rfl, .refl s⟩
  split
  · exact .inr (cleaned s (.refl s) rfl)
  dsimp only
  split
  · exact .inr (cleaned _ ⟨rfl, rfl, rfl, rfl, rfl⟩ rfl)
  split
  · exact .inr (cleaned _ ⟨rfl, rfl, rfl, rfl, rfl⟩ rfl)
  split
  · exact .inr (cleaned _ ⟨rfl, rfl, rfl, rfl, rfl⟩ rfl)
  · exact .inl ⟨rfl, rfl, rfl, rfl, rfl, rfl⟩

/-- On the coded queue a stop hands everything back. -/
theorem State.stopStreaming_coded (s : State) {type : BufferType} (coded : s.proc.formatType type = .coded) :
    Cleaned type .error s (s.stopStreaming type) := by
  have cleaned := queueCleanup_cleaned { s with engineCtx := false, engineJob := false } type true
  rw [State.stopStreaming, if_neg (not_not.mpr coded)]
  obtain ⟨ready, returned, completed, places, nextSerial⟩ := cleaned.of_kept ⟨rfl, rfl, rfl, rfl, rfl⟩ rfl
  cases type <;> exact ⟨ready, returned, completed, places, nextSerial⟩

/-- On the picture queue a stop does nothing. -/
theorem State.stopStreaming_picture (s : State) {type : BufferType} (picture : s.proc.formatType type ≠ .coded) :
    s.stopStreaming type = s :=
  if_pos picture

namespace State.Accounted

variable {s : State}

theorem startStreaming (accounted : s.Accounted) (type : BufferType) (answers : Answers) :
    (s.startStreaming type answers).1.Accounted := by
  rcases s.startStreaming_spec type answers with ⟨-, kept⟩ | cleaned
  · exact kept.accounted accounted
  · exact cleaned.accounted accounted

theorem stopStreaming (accounted : s.Accounted) (type : BufferType) : (s.stopStreaming type).Accounted := by
  by_cases coded : s.proc.formatType type = .coded
  · exact (s.stopStreaming_coded coded).accounted accounted
  · rw [s.stopStreaming_picture coded]
    exact accounted

theorem setQueue (accounted : s.Accounted) {type : BufferType} {queue : Queue}
    (ready : queue.ready = (s.queue type).ready) : (s.setQueue type queue).Accounted :=
  (Kept.setQueue ready).accounted accounted

theorem qbuf (accounted : s.Accounted) (type : BufferType) (queued : Queued) : (s.qbuf type queued).Accounted := by
  unfold State.qbuf
  dsimp only
  split
  · exact accounted
  split
  · exact accounted
  split
  · exact accounted
  split
  · exact accounted.bufferQueue type queued
  · exact accounted.setQueue rfl

theorem streamOn (accounted : s.Accounted) (type : BufferType) (answers : Answers) :
    (s.streamOn type answers).Accounted := by
  unfold State.streamOn
  split
  · exact accounted
  · have started := (accounted.handOver type).startStreaming type answers
    dsimp only
    split
    · exact started.setQueue rfl
    · exact started.reclaim type

theorem queueCancel (accounted : s.Accounted) (type : BufferType) : (s.queueCancel type).Accounted := by
  unfold State.queueCancel
  have stopped : (if (s.queue type).streaming then s.stopStreaming type else s).Accounted := by
    split
    · exact accounted.stopStreaming type
    · exact accounted
  generalize (if (s.queue type).streaming then s.stopStreaming type else s) = s at stopped
  refine Kept.accounted ?_ (stopped.reclaim type)
  cases type <;> exact ⟨rfl, rfl, rfl, rfl, rfl⟩

theorem reqbufs (accounted : s.Accounted) (type : BufferType) (count : ℕ) : (s.reqbufs type count).Accounted := by
  unfold State.reqbufs
  split
  · exact accounted
  · exact (accounted.queueCancel type).setQueue rfl

/-- A finished job moves the first buffers from the ready lists to the returned ones. -/
theorem job (accounted : s.Accounted) {state : BufState} {hold : Bool} {next : State}
    (taken : s.job state hold = some next) : next.Accounted := by
  unfold State.job at taken
  split at taken
  case h_2 => cases taken
  case h_1 source sources destination destinations output capture =>
    split at taken
    case isTrue => cases taken
    case isFalse enabled =>
      obtain rfl := Option.some.inj taken
      have returns : state = .done ∨ state = .error := by
        cases state with
        | queued => exact absurd (.inr (.inr (.inl rfl))) enabled
        | done => exact .inl rfl
        | error => exact .inr rfl
      intro serial
      rcases returns with rfl | rfl <;> cases hold <;> refine Eq.trans ?_ (accounted serial) <;>
        simp only [State.places, State.bufDone, State.requestComplete, if_true, Bool.false_eq_true, if_false,
          output, capture, List.countP_append, List.countP_cons, List.countP_nil] <;>
        omega

theorem newFrame (accounted : s.Accounted) {next : State} (taken : s.newFrame = some next) : next.Accounted := by
  unfold State.newFrame at taken
  split at taken
  case h_2 => cases taken
  case h_1 buffer rest held capture =>
    obtain rfl := Option.some.inj taken
    intro serial
    refine Eq.trans ?_ (accounted serial)
    simp only [State.places, State.bufDone, capture, List.countP_append, List.countP_cons, List.countP_nil]
    omega

theorem step {event : Event} {next : State} (accounted : s.Accounted) (taken : Streaming.step s event = some next) :
    next.Accounted := by
  cases event with
  | reqbufs type count => exact Option.some.inj taken ▸ accounted.reqbufs type count
  | qbuf type queued => exact Option.some.inj taken ▸ accounted.qbuf type queued
  | streamOn type answers => exact Option.some.inj taken ▸ accounted.streamOn type answers
  | streamOff type => exact Option.some.inj taken ▸ accounted.queueCancel type
  | job state hold => exact accounted.job taken
  | newFrame => exact accounted.newFrame taken
  | engineUpdate engine =>
    obtain ⟨-, selected⟩ := Option.ite_none_right_eq_some.mp taken
    exact Option.some.inj selected ▸ accounted

theorem opened (proc : Proc) : (State.opened proc).Accounted := fun _ => rfl

end State.Accounted

/-- In every reachable state, a queue is returned completely exactly if it is the coded queue, or the driver
owns none of its buffers. -/
theorem returnsEverything_iff (proc : Proc) (events : List Event) (s : State)
    (reached : run step (State.opened proc) events = some s) (type : BufferType) :
    s.ReturnsEverything type ↔ s.proc.formatType type = .coded ∨ (s.queue type).ready = [] := by
  have accounted := run_preserves State.Accounted State.Accounted.step (.opened proc) reached
  have started : ∀ answers, ((s.handOver type).startStreaming type answers).2 ≠ 0 →
      HandedBack type (s.handOver type) ((s.handOver type).startStreaming type answers).1 := by
    intro answers failed
    rcases (s.handOver type).startStreaming_spec type answers with ⟨success, -⟩ | cleaned
    · exact absurd success failed
    · exact cleaned.handedBack (accounted.handOver type)
  constructor
  · rintro ⟨stopped, -⟩
    by_cases coded : s.proc.formatType type = .coded
    · exact .inl coded
    · rw [s.stopStreaming_picture coded] at stopped
      exact .inr stopped.1
  · intro condition
    refine ⟨?_, started⟩
    by_cases coded : s.proc.formatType type = .coded
    · exact (s.stopStreaming_coded coded).handedBack accounted
    · have empty := condition.resolve_left coded
      rw [s.stopStreaming_picture coded]
      refine ⟨empty, fun buffer owned => ?_⟩
      rw [empty] at owned
      cases owned

/-- Both queues of a decoder are started with a buffer each. -/
def startBoth : List Event :=
  [.reqbufs .output 1, .qbuf .output ⟨0, some 0⟩, .streamOn .output {}, .reqbufs .capture 1, .qbuf .capture ⟨0, none⟩,
    .streamOn .capture {}]

theorem returnsEverything_coded :
    ∃ s, run step (State.opened decProc) startBoth = some s ∧ s.output.ready ≠ [] ∧
      (s.ReturnsEverything .output ↔ s.proc.formatType .output = .coded ∨ (s.queue .output).ready = []) :=
  ⟨_, rfl, by decide, returnsEverything_iff decProc startBoth _ rfl .output⟩

theorem not_always_returnsEverything :
    ¬ ∀ (proc : Proc) (events : List Event) (s : State), run step (State.opened proc) events = some s →
      ∀ type, s.ReturnsEverything type := by
  intro always
  have stopped := (always decProc startBoth _ rfl .capture).1.1
  revert stopped
  decide

end H618Vpu.Streaming
