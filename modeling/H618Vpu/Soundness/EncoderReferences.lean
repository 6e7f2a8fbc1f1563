import H618Vpu.Machine.History
import H618Vpu.Soundness.EncoderGeometry

/-! # The reference memory of P pictures

The engine remembers the addresses of the last reconstruction, not the buffer they belong to. They are good
as reference if the last job succeeded, its picture buffer still has the same memory, and the P job was not
given this buffer again.
-/

namespace H618Vpu.Encoder

open Formats (FormatsKept)
open H264 (Job)
open Machine

/-- A job that was configured: its number, the allocation it writes to, and whether it is done. -/
structure Use where
  number : ℕ
  serial : ℕ
  done : Bool := false
deriving DecidableEq, Repr

/-- The last configured job of the stream and the one before it, and the pictures whose reconstruction the
allocations hold. -/
structure Contents where
  number : ℕ := 0
  preceding : Option Use := none
  last : Option Use := none
  holds : ℕ → Option ℕ := fun _ => none

namespace Contents

/-- The job starts to overwrite the memory of its picture buffer. -/
def configure (contents : Contents) (buffer : H264Buffer) : Contents :=
  { number := contents.number + 1
    preceding := contents.last
    last := some { number := contents.number, serial := buffer.serial }
    holds := Function.update contents.holds buffer.serial none }

/-- The last job is done. -/
def complete (contents : Contents) : Contents :=
  match contents.last with
  | none => contents
  | some use =>
      { contents with
        last := some { use with done := true }
        holds := Function.update contents.holds use.serial (some use.number) }

end Contents

def note (s : State) (event : Event) (next : State) (contents : Contents) : Contents :=
  match event with
  | .file .program => s.jobPicture.elim contents contents.configure
  | .file (.jobFinish true) => contents.complete
  | .file _ => contents
  | .sFmt .. | .reqbufs .. | .qbuf .. | .streamOn .. | .streamOff _ | .jpegJob =>
      -- a stream that starts has no last job
      if s.file.context.isNone && next.file.context.isSome then { contents with preceding := none, last := none }
      else contents

/-- What was programmed for a P job: its reference is memory of a picture buffer, which holds the picture of
the job before and is apart from what the job writes. -/
def Referenced (s : Recorded State Contents) : Prop :=
  ∀ job, s.state.file.phase = .running job → job.frameType = .p →
    ∃ use ∈ s.history.preceding, ∃ last own,
      (s.state.Live last ∧ s.history.holds last.serial = some use.number) ∧
        (s.state.addresses.ref0Y = last.recDma ∧ s.state.addresses.ref0C = last.recDma + last.recLumaSize ∧
          s.state.addresses.subpixLast = last.subpixDma) ∧
        (s.state.addresses.recY = own.recDma ∧ s.state.addresses.recC = own.recDma + own.recLumaSize ∧
          s.state.addresses.subpixNew = own.subpixDma) ∧ s.state.Live own ∧ last.Apart own

/-- A P job is configured after a job that succeeded, whose picture buffer has kept its memory and is not
that of the P job. -/
def ReferenceKept (s : Recorded State Contents) : Event → Prop
  | .file .program => ∀ job, s.state.file.phase = .sliced job → job.frameType = .p →
      ∃ use ∈ s.history.last, use.done = true ∧
        (∃ picture ∈ s.state.pictures, picture.map H264Buffer.serial = some use.serial) ∧
          s.state.jobPicture.map H264Buffer.serial ≠ some use.serial
  | _ => True

instance (s : Recorded State Contents) (event : Event) : Decidable (ReferenceKept s event) :=
  match event with
  | .file .program =>
      match phase : s.state.file.phase with
      | .sliced job =>
          decidable_of_iff (job.frameType = .p → ∃ use ∈ s.history.last, use.done = true ∧
            (∃ picture ∈ s.state.pictures, picture.map H264Buffer.serial = some use.serial) ∧
              s.state.jobPicture.map H264Buffer.serial ≠ some use.serial)
            (by simp only [ReferenceKept, phase, H264.Phase.sliced.injEq, forall_eq'])
      | .idle | .prepared _ | .headers _ | .header _ _ | .running _ =>
          .isTrue fun _ sliced => nomatch phase.symm.trans sliced
  | .file (.writeCtrl ..) | .file .writeDone | .file .forceKeyFrame | .file (.setInput _) | .file (.streamOn ..)
  | .file .streamOff | .file .jobPrepare | .file (.formatConfigure _) | .file .headerCase | .file .headerStep
  | .file (.jobFinish _) | .sFmt .. | .reqbufs .. | .qbuf .. | .streamOn .. | .streamOff _ | .jpegJob =>
      instDecidableTrue

/-- What is allocated is apart and numbered; if the buffer of the last job still is, the remembered addresses
are those of its memory, which holds the picture when the job is done. -/
structure Remembered (s : Recorded State Contents) : Prop where
  allocated : Allocated s.state.pictures
  numbered : Numbered s.state.pictures s.state.nextSerial
  known : ∀ use ∈ s.history.last, use.serial < s.state.nextSerial ∧
    (use.done = true → s.history.holds use.serial = some use.number)
  addressed : ∀ use ∈ s.history.last, ∀ buffer, s.state.Live buffer → buffer.serial = use.serial →
    s.state.recLastDma = buffer.recDma ∧ s.state.recLastLumaSize = buffer.recLumaSize ∧
      s.state.subpixLastDma = buffer.subpixDma

/-- The stream starts without a last job, or nothing happens to it. -/
theorem note_call {s next : State} {event : Event} (call : event.IsCall) (contents : Contents) :
    (note s event next contents).holds = contents.holds ∧
      ((note s event next contents).last = contents.last ∨ (note s event next contents).last = none) := by
  cases event with
  | file internal => exact absurd rfl (call internal)
  | _ =>
    simp only [note]
    split
    · exact ⟨rfl, .inr rfl⟩
    · exact ⟨rfl, .inl rfl⟩

theorem note_start {s next : State} {event : Event} (call : event.IsCall) (contents : Contents)
    (stopped : s.file.context = none) (started : next.file.context.isSome = true) :
    (note s event next contents).holds = contents.holds ∧ (note s event next contents).last = none := by
  cases event with
  | file internal => exact absurd rfl (call internal)
  | _ =>
    simp only [note, stopped, started]
    exact ⟨rfl, rfl⟩

/-- A stream starts from none. -/
theorem context_of_start {s next : H264.State} {width height : ℕ}
    (taken : H264.step s (.streamOn width height) = some next) : s.context = none ∧ next.context.isSome = true := by
  simp only [H264.step] at taken
  split at taken
  · rename_i stopped
    obtain rfl := Option.some.inj taken
    obtain ⟨ctx, started, -⟩ := s.setup_counters width height
    exact ⟨stopped, by rw [started]; rfl⟩
  · cases taken

theorem State.live_jobPicture {s : State} {buffer : H264Buffer} (own : s.jobPicture = some buffer) : s.Live buffer := by
  obtain ⟨index, -, slot⟩ := Option.bind_eq_some_iff.mp own
  exact List.mem_of_getElem? (Option.join_eq_some_iff.mp slot)

instance : Std.Symm H264Buffer.Apart where
  symm := by
    rintro first second ⟨⟨recs, recSubpix⟩, subpixRec, subpixes⟩
    exact ⟨⟨recs.symm, subpixRec.symm⟩, recSubpix.symm, subpixes.symm⟩

/-- Two buffers of a queue are apart, and their addresses are not zero. -/
theorem Allocated.apart {s : State} (allocated : Allocated s.pictures) {first second : H264Buffer}
    (live : s.Live first) (other : s.Live second) (differ : first ≠ second) : first.Apart second :=
  allocated.1.forall (List.mem_filterMap.mpr ⟨_, live, rfl⟩) (List.mem_filterMap.mpr ⟨_, other, rfl⟩) differ

theorem Allocated.positive {s : State} (allocated : Allocated s.pictures) {buffer : H264Buffer} (live : s.Live buffer) :
    0 < buffer.subpixDma :=
  (allocated.2 buffer (List.mem_filterMap.mpr ⟨_, live, rfl⟩)).2

/-- A number belongs to one buffer. -/
theorem Numbered.eq_of_serial {s : State} (numbered : Numbered s.pictures s.nextSerial) {first second : H264Buffer}
    (live : s.Live first) (other : s.Live second) (same : first.serial = second.serial) : first = second := by
  obtain ⟨i, foundFirst⟩ := List.getElem?_of_mem live
  obtain ⟨j, foundSecond⟩ := List.getElem?_of_mem other
  obtain rfl := numbered.distinct i j first second foundFirst foundSecond same
  exact Option.some.inj (Option.some.inj (foundFirst.symm.trans foundSecond))

namespace Remembered

variable {s : Recorded State Contents}

/-- The memory and what is remembered of it stay. -/
theorem frame {next : State} {contents : Contents} (remembered : Remembered s)
    (pictures : next.pictures = s.state.pictures) (nextSerial : next.nextSerial = s.state.nextSerial)
    (addresses : next.recLastDma = s.state.recLastDma ∧ next.recLastLumaSize = s.state.recLastLumaSize ∧
      next.subpixLastDma = s.state.subpixLastDma)
    (holds : contents.holds = s.history.holds)
    (last : contents.last = s.history.last ∨ contents.last = none) : Remembered ⟨next, contents⟩ := by
  have member {use : Use} (is : use ∈ contents.last) : use ∈ s.history.last := by
    rcases last with same | none
    · exact same ▸ is
    · rw [none] at is
      cases is
  constructor
  · rw [pictures]
    exact remembered.allocated
  · rw [pictures, nextSerial]
    exact remembered.numbered
  · intro use is
    rw [nextSerial, holds]
    exact remembered.known use (member is)
  · intro use is buffer live same
    obtain ⟨recLast, lumaSize, subpix⟩ := addresses
    rw [recLast, lumaSize, subpix]
    rw [State.Live, pictures] at live
    exact remembered.addressed use (member is) buffer live same

/-- A job that succeeds completes the memory it was given. -/
theorem complete {next : State} (remembered : Remembered s) (pictures : next.pictures = s.state.pictures)
    (nextSerial : next.nextSerial = s.state.nextSerial)
    (addresses : next.recLastDma = s.state.recLastDma ∧ next.recLastLumaSize = s.state.recLastLumaSize ∧
      next.subpixLastDma = s.state.subpixLastDma) : Remembered ⟨next, s.history.complete⟩ := by
  rw [Contents.complete]
  split
  case h_1 => exact remembered.frame pictures nextSerial addresses rfl (.inl rfl)
  case h_2 use last =>
    obtain ⟨allocated, numbered, known, addressed⟩ := remembered.frame pictures nextSerial addresses rfl (.inl rfl)
    refine ⟨allocated, numbered, ?_, ?_⟩
    · rintro after ⟨⟩
      exact ⟨(known use last).1, fun _ => Function.update_self ..⟩
    · rintro after ⟨⟩ buffer live same
      exact addressed use last buffer live same

/-- The addresses of the job's own memory are remembered. -/
theorem configure {file : H264.State} {job : Job} {own : H264Buffer} (remembered : Remembered s)
    (found : s.state.jobPicture = some own) :
    Remembered ⟨{ s.state.jobConfigure job own with file }, s.history.configure own⟩ := by
  have live := State.live_jobPicture found
  refine ⟨remembered.allocated, remembered.numbered, ?_, ?_⟩
  · rintro use ⟨⟩
    obtain ⟨i, slot⟩ := List.getElem?_of_mem live
    exact ⟨remembered.numbered.below i own slot, nofun⟩
  · rintro use ⟨⟩ buffer also same
    obtain rfl := remembered.numbered.eq_of_serial also live same
    exact ⟨rfl, rfl, rfl⟩

theorem step {event : Event} {next : State} (remembered : Remembered s)
    (stepped : Encoder.step s.state event = some next) : Remembered ⟨next, note s.state event next s.history⟩ := by
  cases taken_of_step stepped with
  | sFmt type request =>
    have call : (Event.sFmt type request).IsCall := nofun
    obtain ⟨holds, last⟩ := note_call call s.history
    exact remembered.frame rfl rfl ⟨rfl, rfl, rfl⟩ holds last
  | queue call | stopped call =>
    obtain ⟨holds, last⟩ := note_call call s.history
    exact remembered.frame rfl rfl ⟨rfl, rfl, rfl⟩ holds last
  | memory call kept slots refilled =>
    obtain ⟨holds, last⟩ := note_call call s.history
    have before : Remembered ⟨s.state, note s.state event _ s.history⟩ :=
      remembered.frame rfl rfl ⟨rfl, rfl, rfl⟩ holds last
    refine ⟨refilled.allocated, refilled.numbered remembered.numbered, fun use is => ?_,
      fun use is buffer live same => ?_⟩
    · obtain ⟨old, done⟩ := before.known use is
      exact ⟨Nat.lt_add_right _ old, done⟩
    · obtain ⟨i, found⟩ := List.getElem?_of_mem live
      rcases refilled.origin i buffer found with old | ⟨new, -⟩
      · exact before.addressed use is buffer (List.mem_of_getElem? old) same
      · exact absurd (before.known use is).1 (same ▸ new).not_gt
  | @started event node file call kept slots start =>
    obtain ⟨stopped, streaming⟩ := context_of_start start
    let next : State := { s.state with node, file, recLastDma := 0, recLastLumaSize := 0, subpixLastDma := 0 }
    have none : (note s.state event next s.history).last = none :=
      (note_start call s.history stopped streaming).2
    refine ⟨remembered.allocated, remembered.numbered, fun use is => ?_, fun use is => ?_⟩ <;>
    · rw [none] at is
      cases is
  | @file event node file kept slots running taken =>
    have still : Remembered ⟨{ s.state with node, file }, s.history⟩ :=
      remembered.frame rfl rfl ⟨rfl, rfl, rfl⟩ rfl (.inl rfl)
    cases event with
    | jobFinish done =>
      cases done with
      | true => exact remembered.complete rfl rfl ⟨rfl, rfl, rfl⟩
      | false => exact still
    | program => exact absurd rfl running.2.2
    | _ => exact still
  | program phase own taken =>
    simp only [note, own, Option.elim_some]
    exact remembered.configure own

theorem opened (node : Formats.State) : Remembered ⟨.opened node, {}⟩ where
  allocated := ⟨.nil, nofun⟩
  numbered := ⟨nofun, nofun⟩
  known := nofun
  addressed := nofun

/-- A P job that is configured with its reference kept is referenced. -/
theorem referenced {next : State} (remembered : Remembered s) (kept : ReferenceKept s (.file .program))
    (stepped : Encoder.step s.state (.file .program) = some next) :
    Referenced ⟨next, note s.state (.file .program) next s.history⟩ := by
  cases taken_of_step stepped with
  | queue call | memory call | started call | stopped call => exact absurd rfl (call _)
  | file _ _ running => exact absurd rfl running.2.2
  | @program job own file phase found taken =>
    rintro running current predicted
    have same : running = job := by
      cases H264.taken_of_step taken with
      | program sliced =>
        obtain rfl := H264.Phase.sliced.inj (sliced.symm.trans phase)
        exact (H264.Phase.running.inj current).symm
    obtain rfl := same
    obtain ⟨use, last, done, ⟨picture, member, number⟩, other⟩ := kept running phase predicted
    obtain ⟨buffer, rfl, serial⟩ := Option.map_eq_some_iff.mp number
    have live := State.live_jobPicture found
    have differ : buffer ≠ own := by
      rintro rfl
      exact other (by rw [found]; exact number)
    obtain ⟨recLast, lumaSize, subpix⟩ := remembered.addressed use last buffer member serial
    have holds := (remembered.known use last).2 done
    have positive := remembered.allocated.positive member
    simp only [note, found, Option.elim_some]
    refine ⟨use, last, buffer, own, ⟨member, ?_⟩, ⟨?_, ?_, ?_⟩, ⟨rfl, rfl, rfl⟩, live,
      remembered.allocated.apart member live differ⟩
    · have apart : buffer.serial ≠ own.serial := fun same => differ (remembered.numbered.eq_of_serial member live same)
      exact (Function.update_of_ne apart ..).trans (serial ▸ holds)
    · simp only [State.jobConfigure, predicted, decide_true, if_true, recLast]
    · simp only [State.jobConfigure, predicted, decide_true, if_true, recLast, lumaSize]
    · simp only [State.jobConfigure, subpix, if_neg positive.ne']

end Remembered

/-- Whatever is called on the two queues, a P job is configured with a reference that is live, holds the last
picture and is apart from what the job writes, if the last job succeeded and its picture buffer has kept its
memory and is not used again for the P job. -/
theorem references_live_of_kept (node : Formats.State) (events : List Event) (final : Recorded State Contents)
    (kept : Guarded (record step note) ReferenceKept ⟨.opened node, {}⟩ (events ++ [.file .program]))
    (reached : run (record step note) ⟨.opened node, {}⟩ (events ++ [.file .program]) = some final) :
    Referenced final := by
  obtain ⟨before, after⟩ := kept.of_append
  obtain ⟨middle, came, ends⟩ := run_append.mp reached
  have remembered : Remembered middle := by
    refine run_preserves Remembered ?_ (.opened node) came
    intro s event next remembered taken
    obtain ⟨state, stepped, rfl⟩ := record_iff.mp taken
    exact remembered.step stepped
  obtain ⟨last, taken, same⟩ := run_cons_iff.mp ends
  obtain ⟨state, stepped, rfl⟩ := record_iff.mp taken
  obtain rfl := Option.some.inj same
  exact remembered.referenced (after middle came).1 stepped

/-- Both queues stream with two buffers queued, and the first job makes an IDR picture. -/
def firstPicture : List Event :=
  [.reqbufs .capture .mmap 2 2 [], .qbuf .capture 0 Formats.noDmaBuf (0, 0), .qbuf .capture 1 Formats.noDmaBuf (0, 0),
    .streamOn .capture true,
    .reqbufs .output .mmap 2 2 [(0x40000000, 0x41000000), (0x42000000, 0x43000000)],
    .qbuf .output 0 Formats.noDmaBuf (0, 0), .qbuf .output 1 Formats.noDmaBuf (0, 0), .streamOn .output true] ++
      (H264.firstHeaders ++ H264.lastHeader).map .file

/-- A job with no parameter set due, up to its configuration. -/
def configured : List Event := [H264.Event.jobPrepare, .formatConfigure true, .headerCase].map .file

/-- The formats of an encoder file that was just opened. -/
def encNode : Formats.State := (Formats.State.setup Formats.encProc).toOption.get rfl

theorem references_live_two_buffers :
    ∃ final, run (record step note) ⟨.opened encNode, {}⟩ ((firstPicture ++ configured) ++ [.file .program]) =
        some final ∧ final.state.addresses.ref0Y = 0x41000000 ∧ Referenced final :=
  ⟨_, rfl, rfl, references_live_of_kept encNode (firstPicture ++ configured) _ (by decide) rfl⟩

/-- Between two jobs of the stream, the picture buffers are replaced by others. -/
def replaced : List Event :=
  firstPicture ++
    [.streamOff .output, .reqbufs .output .mmap 1 1 [(0x44000000, 0x45000000)],
      .qbuf .output 0 Formats.noDmaBuf (0, 0), .streamOn .output true] ++ configured

theorem references_not_always_live :
    ¬ ∀ (node : Formats.State) (events : List Event) (final : Recorded State Contents),
      run (record step note) ⟨.opened node, {}⟩ (events ++ [.file .program]) = some final → Referenced final := by
  intro always
  have referenced := always encNode replaced _ rfl
  obtain ⟨use, -, last, own, ⟨live, -⟩, ⟨ref0Y, -⟩, -⟩ := referenced _ rfl rfl
  have dangling : some last ∈ [some (bufferSetup encNode.formatPicture 0x44000000 0x45000000 2)] := live
  obtain rfl := Option.some.inj (List.mem_singleton.mp dangling)
  revert ref0Y
  decide

end H618Vpu.Encoder
