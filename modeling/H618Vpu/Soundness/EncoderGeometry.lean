import H618Vpu.Model.EncoderFile
import H618Vpu.Soundness.FormatConstraints
import H618Vpu.Soundness.H264Order

/-! # The macroblocks of a picture and those of its stream

The encoder counts the macroblocks once, when the coded queue starts to stream. The picture format is the
matter of the other queue, where `S_FMT` is accepted whenever it has no buffers, and new picture buffers have
memory for the format of their time. The counts stay current if each `S_FMT` that is accepted there during a
stream keeps them.
-/

namespace H618Vpu.Encoder

open Formats (BufferType FormatsKept FormatType Memory DmaBuf PixFormat applyFrmsizeConstraints)
open Machine Math

/-- A picture buffer has this engine buffer. -/
def State.Live (s : State) (buffer : H264Buffer) : Prop := some buffer ∈ s.pictures

/-- Memory for a picture of so many macroblocks. -/
def H264Buffer.SizedFor (buffer : H264Buffer) (widthMbs heightMbs : ℕ) : Prop :=
  buffer = bufferLayout widthMbs heightMbs buffer.subpixDma buffer.recDma buffer.serial

/-- The macroblocks of a picture format. -/
def macroblocks (format : PixFormat) : ℕ × ℕ := (divRoundUp format.width 16, divRoundUp format.height 16)

/-- While a job runs, the counts of its stream are those of the picture format, and every picture buffer has
the memory for them. -/
def State.GeometryCurrent (s : State) : Prop :=
  ∀ ctx, s.file.context = some ctx → s.file.phase.job ≠ none →
    (ctx.widthMbs, ctx.heightMbs) = macroblocks s.node.formatPicture ∧
      ∀ buffer, s.Live buffer → buffer.SizedFor ctx.widthMbs ctx.heightMbs

/-- An `S_FMT` that is accepted on the picture queue during a stream keeps the macroblocks. -/
def MacroblocksKept (s : State) : Event → Prop
  | .sFmt type request =>
      s.file.context.isSome = true → s.node.proc.formatType type = .picture →
        s.node.formatAccepted type request = true →
          let size := applyFrmsizeConstraints request.width request.height s.node.engine.frmsize
          macroblocks { width := size.1, height := size.2 } = macroblocks s.node.formatPicture
  | _ => True

instance (s : State) (event : Event) : Decidable (MacroblocksKept s event) :=
  match event with
  | .sFmt _ _ => by
    dsimp only [MacroblocksKept]
    infer_instance
  | .reqbufs .. | .qbuf .. | .streamOn .. | .streamOff _ | .jpegJob | .file _ => instDecidableTrue

/-- Every allocation has a number of its own, and the next number is not given yet. -/
structure Numbered (pictures : Pictures) (nextSerial : ℕ) : Prop where
  below : ∀ (i : ℕ) (buffer : H264Buffer), pictures[i]? = some (some buffer) → buffer.serial < nextSerial
  distinct : ∀ (i j : ℕ) (first second : H264Buffer), pictures[i]? = some (some first) →
    pictures[j]? = some (some second) → first.serial = second.serial → i = j

/-- Some slots got memory for the picture format, under new numbers; the others have what they had. -/
structure Refilled (s : State) (pictures : Pictures) (count : ℕ) : Prop where
  allocated : Allocated pictures
  origin : ∀ (i : ℕ) (buffer : H264Buffer), pictures[i]? = some (some buffer) →
    s.pictures[i]? = some (some buffer) ∨
      s.nextSerial ≤ buffer.serial ∧
        buffer = bufferSetup s.node.formatPicture buffer.subpixDma buffer.recDma buffer.serial
  numbered : Numbered s.pictures s.nextSerial → Numbered pictures (s.nextSerial + count)

/-- The event does not come from the file itself. -/
def Event.IsCall (event : Event) : Prop := ∀ internal, event ≠ .file internal

/-- What each event does to a state in which it is enabled: an ioctl that leaves the slots of the picture
queue alone, one that changes their memory, one that starts or stops the engine, and the events of the file. -/
inductive Taken (s : State) : Event → State → Prop where
  | sFmt (type : BufferType) (request : PixFormat) :
      Taken s (.sFmt type request) (s.withNode (s.node.sFmt type request).1)
  | queue {event : Event} {node : Formats.State} (call : event.IsCall) (kept : FormatsKept s.node node)
      (slots : node.picture.buffers.length = s.node.picture.buffers.length) : Taken s event (s.withNode node)
  | memory {event : Event} {node : Formats.State} {pictures : Pictures} {count : ℕ} (call : event.IsCall)
      (kept : FormatsKept s.node node)
      (slots : s.pictures.length = s.node.picture.buffers.length → pictures.length = node.picture.buffers.length)
      (refilled : Refilled s pictures count) :
      Taken s event { s.withNode node with pictures, nextSerial := s.nextSerial + count }
  | started {event : Event} {node : Formats.State} {file : H264.State} (call : event.IsCall)
      (kept : FormatsKept s.node node)
      (slots : node.picture.buffers.length = s.node.picture.buffers.length)
      (start : H264.step s.file (.streamOn s.node.formatPicture.width s.node.formatPicture.height) = some file) :
      Taken s event { s with node, file, recLastDma := 0, recLastLumaSize := 0, subpixLastDma := 0 }
  | stopped {event : Event} {node : Formats.State} {file : H264.State} (call : event.IsCall)
      (kept : FormatsKept s.node node)
      (slots : node.picture.buffers.length = s.node.picture.buffers.length)
      (stop : H264.step s.file .streamOff = some file) : Taken s event { s with node, file }
  | file {event : H264.Event} {node : Formats.State} {file : H264.State} (kept : FormatsKept s.node node)
      (slots : node.picture.buffers.length = s.node.picture.buffers.length)
      (running : (∀ width height, event ≠ .streamOn width height) ∧ event ≠ .streamOff ∧ event ≠ .program)
      (taken : H264.step s.file event = some file) : Taken s (.file event) { s with node, file }
  | program {job : H264.Job} {buffer : H264Buffer} {file : H264.State} (phase : s.file.phase = .sliced job)
      (own : s.jobPicture = some buffer) (taken : H264.step s.file .program = some file) :
      Taken s (.file .program) { s.jobConfigure job buffer with file }

section

variable {s next : State}

/-- A new slot has memory for the format, under its number. -/
theorem State.slotSetup_spec {buffer : Formats.Buffer} {dma : ℕ × ℕ} {serial : ℕ} {made : H264Buffer}
    (set : s.slotSetup buffer dma serial = some made) :
    made.serial = serial ∧ made = bufferSetup s.node.formatPicture made.subpixDma made.recDma made.serial := by
  rw [State.slotSetup] at set
  split at set
  · obtain rfl := Option.some.inj set
    exact ⟨rfl, rfl⟩
  · cases set

theorem reqbufs_picture (s : Formats.State) (memory : Memory) (count allocated : ℕ) :
    (s.reqbufs .coded memory count allocated).picture = s.picture := by
  unfold Formats.State.reqbufs
  split
  · rfl
  · dsimp only
    split <;> rfl

theorem qbuf_picture (s : Formats.State) (index : ℕ) (dmabuf : DmaBuf) :
    (s.qbuf .coded index dmabuf).picture = s.picture := by
  unfold Formats.State.qbuf
  dsimp only
  split
  · rfl
  split <;> rfl

theorem streamOn_buffers (s : Formats.State) (type : FormatType) (started : Bool) :
    (s.streamOn type started).picture.buffers = s.picture.buffers := by
  unfold Formats.State.streamOn
  dsimp only
  split
  · rfl
  split
  · rfl
  · cases type <;> rfl

theorem qbuf_slots (s : Formats.State) (index : ℕ) (dmabuf : DmaBuf) :
    (s.qbuf .picture index dmabuf).picture.buffers.length = s.picture.buffers.length := by
  unfold Formats.State.qbuf
  dsimp only
  split
  · rfl
  split
  · rfl
  · exact List.length_set

/-- The slots after `REQBUFS` are all new. -/
theorem State.taken_reqbufs {event : Event} {memory : Memory} {count allocated : ℕ} {dmas : List (ℕ × ℕ)}
    (call : event.IsCall) (step : s.reqbufsPicture memory count allocated dmas = some next) : Taken s event next := by
  rw [State.reqbufsPicture] at step
  dsimp only at step
  split at step
  case isTrue streaming =>
    obtain rfl := Option.some.inj step
    have refused : s.node.reqbufs .picture memory count allocated = s.node := if_pos streaming
    rw [refused]
    exact .queue call (.refl s.node) rfl
  case isFalse =>
    obtain ⟨enough, step⟩ := Option.ite_none_right_eq_some.mp step
    obtain ⟨fits, step⟩ := Option.ite_none_right_eq_some.mp step
    obtain rfl := Option.some.inj step
    have kept := FormatsKept.reqbufs s.node .picture memory count allocated
    generalize s.node.reqbufs .picture memory count allocated = node at enough fits kept ⊢
    have numbered (i : ℕ) (made : H264Buffer)
        (found : ((node.picture.buffers.zip (dmas.zipIdx s.nextSerial)).map
          fun slot => s.slotSetup slot.1 slot.2.1 slot.2.2)[i]? = some (some made)) :
        made.serial = s.nextSerial + i ∧ i < dmas.length ∧
          made = bufferSetup s.node.formatPicture made.subpixDma made.recDma made.serial := by
      rw [List.getElem?_map] at found
      obtain ⟨⟨buffer, dma, serial⟩, zipped, set⟩ := Option.map_eq_some_iff.mp found
      obtain ⟨-, indexed⟩ := List.getElem?_zip_eq_some.mp zipped
      rw [List.getElem?_zipIdx] at indexed
      obtain ⟨given, there, numbers⟩ := Option.map_eq_some_iff.mp indexed
      obtain ⟨-, rfl⟩ := Prod.mk.inj numbers
      obtain ⟨number, layout⟩ := State.slotSetup_spec set
      exact ⟨number, (List.getElem?_eq_some_iff.mp there).1, layout⟩
    refine .memory call kept (fun _ => ?_) ⟨fits, ?_, ?_⟩
    · rw [List.length_map, List.length_zip, List.length_zipIdx, enough, min_self]
    · intro i made found
      obtain ⟨serial, -, layout⟩ := numbered i made found
      exact .inr ⟨by omega, layout⟩
    · refine fun _ => ⟨fun i made found => ?_, fun i j first second foundFirst foundSecond same => ?_⟩
      · obtain ⟨serial, within, -⟩ := numbered i made found
        omega
      · obtain ⟨serialFirst, -⟩ := numbered i first foundFirst
        obtain ⟨serialSecond, -⟩ := numbered j second foundSecond
        omega

/-- `QBUF` changes at most the memory of the slot it names. -/
theorem State.taken_qbuf {event : Event} {index : ℕ} {dmabuf : DmaBuf} {dma : ℕ × ℕ}
    (call : event.IsCall) (step : s.qbufPicture index dmabuf dma = some next) : Taken s event next := by
  have kept := FormatsKept.qbuf s.node .picture index dmabuf
  have slots := qbuf_slots s.node index dmabuf
  have changed (i : ℕ) (after : Formats.Buffer) (buffer : H264Buffer)
      (found : (s.pictures.set index (s.slotSetup after dma s.nextSerial))[i]? = some (some buffer)) :
      i ≠ index ∧ s.pictures[i]? = some (some buffer) ∨ i = index ∧ buffer.serial = s.nextSerial ∧
        buffer = bufferSetup s.node.formatPicture buffer.subpixDma buffer.recDma buffer.serial := by
    rw [List.getElem?_set] at found
    split at found
    case isTrue same =>
      obtain ⟨-, set⟩ := Option.ite_none_right_eq_some.mp found
      exact .inr ⟨same.symm, State.slotSetup_spec (Option.some.inj set)⟩
    case isFalse other => exact .inl ⟨fun same => other same.symm, found⟩
  rw [State.qbufPicture] at step
  split at step
  case h_1 before after _ _ =>
    split at step
    case isTrue =>
      obtain rfl := Option.some.inj step
      exact .queue call kept slots
    case isFalse =>
      obtain ⟨fits, step⟩ := Option.ite_none_right_eq_some.mp step
      obtain rfl := Option.some.inj step
      refine .memory call kept (fun length => ?_) ⟨fits, ?_, ?_⟩
      · rw [List.length_set, length, slots]
      · intro i buffer found
        rcases changed i after buffer found with ⟨-, old⟩ | ⟨-, serial, layout⟩
        · exact .inl old
        · exact .inr ⟨serial.ge, layout⟩
      · refine fun numbered => ⟨fun i buffer found => ?_, fun i j first second foundFirst foundSecond same => ?_⟩
        · rcases changed i after buffer found with ⟨-, old⟩ | ⟨-, serial, -⟩
          · exact Nat.lt_succ_of_lt (numbered.below i buffer old)
          · exact serial.trans_lt (Nat.lt_succ_self _)
        · rcases changed i after first foundFirst with ⟨-, oldFirst⟩ | ⟨atFirst, serialFirst, -⟩ <;>
            rcases changed j after second foundSecond with ⟨-, oldSecond⟩ | ⟨atSecond, serialSecond, -⟩
          · exact numbered.distinct i j first second oldFirst oldSecond same
          · have := numbered.below i first oldFirst
            omega
          · have := numbered.below j second oldSecond
            omega
          · rw [atFirst, atSecond]
  case h_2 =>
    obtain rfl := Option.some.inj step
    exact .queue call kept slots

/-- `STREAMON` of the coded queue starts the engine, or changes nothing but the queue. -/
theorem State.taken_streamOn {event : Event} {started : Bool} (call : event.IsCall)
    (step : s.streamOnCoded started = some next) : Taken s event next := by
  have kept := FormatsKept.streamOn s.node .coded started
  have slots := congrArg List.length (streamOn_buffers s.node .coded started)
  rw [State.streamOnCoded] at step
  split at step
  · obtain ⟨file, start, rfl⟩ := Option.map_eq_some_iff.mp step
    exact .started call kept slots start
  · obtain rfl := Option.some.inj step
    exact .queue call kept slots

theorem State.taken_fileStep {event : H264.Event} (step : s.fileStep event = some next) :
    Taken s (.file event) next := by
  have same := FormatsKept.refl s.node
  cases event with
  | streamOn | streamOff => cases step
  | jobPrepare =>
    obtain ⟨-, step⟩ := Option.ite_none_right_eq_some.mp step
    obtain ⟨file, taken, rfl⟩ := Option.map_eq_some_iff.mp step
    exact .file same rfl ⟨nofun, nofun, nofun⟩ taken
  | setInput =>
    obtain ⟨file, taken, rfl⟩ := Option.map_eq_some_iff.mp step
    exact .file ⟨rfl, rfl, rfl, rfl⟩ rfl ⟨nofun, nofun, nofun⟩ taken
  | program =>
    simp only [State.fileStep] at step
    split at step
    · rename_i job buffer phase own
      obtain ⟨file, taken, rfl⟩ := Option.map_eq_some_iff.mp step
      exact .program phase own taken
    · cases step
  | formatConfigure ok =>
    cases ok <;> obtain ⟨file, taken, rfl⟩ := Option.map_eq_some_iff.mp step
    · exact .file ⟨rfl, rfl, rfl, rfl⟩ rfl ⟨nofun, nofun, nofun⟩ taken
    · exact .file same rfl ⟨nofun, nofun, nofun⟩ taken
  | jobFinish =>
    obtain ⟨file, taken, rfl⟩ := Option.map_eq_some_iff.mp step
    exact .file ⟨rfl, rfl, rfl, rfl⟩ rfl ⟨nofun, nofun, nofun⟩ taken
  | writeCtrl | writeDone | forceKeyFrame | headerCase | headerStep =>
    obtain ⟨file, taken, rfl⟩ := Option.map_eq_some_iff.mp step
    exact .file same rfl ⟨nofun, nofun, nofun⟩ taken

theorem State.taken_ioctl {event : Event} (step : s.ioctl event = some next) : Taken s event next := by
  cases event with
  | sFmt type request =>
    obtain rfl := Option.some.inj step
    exact .sFmt type request
  | reqbufs type memory count allocated dmas =>
    simp only [State.ioctl] at step
    split at step
    · obtain rfl := Option.some.inj step
      exact .queue nofun (.reqbufs ..) (congrArg (·.buffers.length) (reqbufs_picture ..))
    · exact State.taken_reqbufs nofun step
  | qbuf type index dmabuf dma =>
    simp only [State.ioctl] at step
    split at step
    · obtain rfl := Option.some.inj step
      exact .queue nofun (.qbuf ..) (congrArg (·.buffers.length) (qbuf_picture ..))
    · exact State.taken_qbuf nofun step
  | streamOn type started =>
    simp only [State.ioctl] at step
    split at step
    · exact State.taken_streamOn nofun step
    · obtain rfl := Option.some.inj step
      exact .queue nofun (.streamOn ..) (congrArg List.length (streamOn_buffers ..))
  | streamOff type =>
    simp only [State.ioctl] at step
    split at step
    · obtain ⟨file, stop, rfl⟩ := Option.map_eq_some_iff.mp step
      exact .stopped nofun ((FormatsKept.refl s.node).setQueue ..) rfl stop
    · obtain rfl := Option.some.inj step
      exact .queue nofun ((FormatsKept.refl s.node).setQueue ..) rfl
    · cases step
  | jpegJob =>
    obtain ⟨-, step⟩ := Option.ite_none_right_eq_some.mp step
    obtain rfl := Option.some.inj step
    exact .queue nofun ⟨rfl, rfl, rfl, rfl⟩ rfl
  | file => cases step

theorem taken_of_step {event : Event} (step : step s event = some next) : Taken s event next := by
  cases event with
  | file => exact State.taken_fileStep step
  | _ =>
    simp only [Encoder.step] at step
    split at step
    · exact State.taken_ioctl step
    · cases step

end

/-- Only the start of a stream counts macroblocks. -/
theorem macroblocks_of_step {s next : H264.State} {event : H264.Event}
    (other : ∀ width height, event ≠ .streamOn width height)
    (taken : H264.step s event = some next) {after : H264.Context} (streaming : next.context = some after) :
    ∃ ctx, s.context = some ctx ∧ (after.widthMbs, after.heightMbs) = (ctx.widthMbs, ctx.heightMbs) := by
  have counted {ctx : H264.Context} (same : after.counters = ctx.counters) :
      (after.widthMbs, after.heightMbs) = (ctx.widthMbs, ctx.heightMbs) := by
    have pair := congrArg (fun ctx : H264.Context => (ctx.widthMbs, ctx.heightMbs)) same
    exact pair
  cases H264.taken_of_step taken with
  | writeCtrl ctrl value =>
    obtain ⟨ctx, before, same, -⟩ := s.writeCtrl_contextWritten ctrl value after streaming
    exact ⟨ctx, before, counted same⟩
  | writeDone =>
    obtain ⟨ctx, before, same, -⟩ := s.writeDone_contextWritten _ _ after streaming
    exact ⟨ctx, before, counted same⟩
  | forceKeyFrame =>
    obtain ⟨ctx, before, rfl⟩ := Option.map_eq_some_iff.mp streaming
    exact ⟨ctx, before, rfl⟩
  | streamOn width height => exact absurd rfl (other width height)
  | streamOff => cases streaming
  | @jobPrepare ctx free phase before | @headerStep ctx job raised phase before =>
    obtain rfl := Option.some.inj streaming
    exact ⟨ctx, before, rfl⟩
  | @headerCase ctx job phase before =>
    exact ⟨after, (s.headerCase_frame ctx job).2.2.symm.trans streaming, rfl⟩
  | setInput | formatConfigured | formatFailed | program | jobFinish => exact ⟨after, streaming, rfl⟩

/-- A stream starts with the macroblocks of the picture. -/
theorem macroblocks_of_start {s next : H264.State} {width height : ℕ}
    (taken : H264.step s (.streamOn width height) = some next) {after : H264.Context}
    (streaming : next.context = some after) :
    (after.widthMbs, after.heightMbs) = (divRoundUp width 16, divRoundUp height 16) := by
  cases H264.taken_of_step taken with
  | streamOn =>
    obtain ⟨ctx, started, counters⟩ := s.setup_counters width height
    obtain rfl := Option.some.inj (started.symm.trans streaming)
    exact congrArg (fun ctx : H264.Context => (ctx.widthMbs, ctx.heightMbs)) counters

/-- The counts of a stream and the memory of the picture buffers are those of the picture format. -/
structure State.Sized (s : State) : Prop where
  role : s.node.proc.role = .encoder
  slots : s.pictures.length = s.node.picture.buffers.length
  counted : ∀ ctx, s.file.context = some ctx → (ctx.widthMbs, ctx.heightMbs) = macroblocks s.node.formatPicture
  memory : ∀ buffer, s.Live buffer →
    buffer = bufferSetup s.node.formatPicture buffer.subpixDma buffer.recDma buffer.serial

namespace State.Sized

variable {s : State}

theorem geometryCurrent (sized : s.Sized) : s.GeometryCurrent := by
  intro ctx streaming _
  have counted := sized.counted ctx streaming
  refine ⟨counted, fun buffer live => ?_⟩
  obtain ⟨width, height⟩ := Prod.mk.inj counted
  rw [H264Buffer.SizedFor, width, height]
  exact sized.memory buffer live

/-- Neither the format nor the memory of the slots changes. -/
theorem frame {next : State} (sized : s.Sized) (kept : FormatsKept s.node next.node)
    (slots : next.node.picture.buffers.length = s.node.picture.buffers.length) (pictures : next.pictures = s.pictures)
    (counted : ∀ ctx, next.file.context = some ctx →
      (ctx.widthMbs, ctx.heightMbs) = macroblocks s.node.formatPicture) : next.Sized where
  role := (congrArg Formats.Proc.role kept.proc).trans sized.role
  slots := by rw [pictures, slots, sized.slots]
  counted := by
    rw [kept.formatPicture]
    exact counted
  memory buffer live := by
    rw [Live, pictures] at live
    rw [kept.formatPicture]
    exact sized.memory buffer live

theorem sFmt (sized : s.Sized) (type : BufferType) (request : PixFormat)
    (kept : MacroblocksKept s (.sFmt type request)) : (s.withNode (s.node.sFmt type request).1).Sized := by
  obtain ⟨⟨proc, -, picture⟩, -, same | ⟨⟨named, accepted, empty⟩, size⟩⟩ :=
    Formats.sFmt_encoder sized.role type request
  · refine ⟨(congrArg Formats.Proc.role proc).trans sized.role, ?_, ?_, ?_⟩
    · exact sized.slots.trans (congrArg (·.buffers.length) picture).symm
    · intro ctx streaming
      exact (sized.counted ctx streaming).trans (congrArg macroblocks same).symm
    · intro buffer live
      exact (sized.memory buffer live).trans (congrArg (bufferSetup · _ _ _) same).symm
  · have none : s.pictures = [] := List.eq_nil_of_length_eq_zero (sized.slots.trans (congrArg List.length empty))
    refine ⟨(congrArg Formats.Proc.role proc).trans sized.role, ?_, ?_, ?_⟩
    · exact sized.slots.trans (congrArg (·.buffers.length) picture).symm
    · intro ctx streaming
      have counts := kept (by rw [show s.file.context = some ctx from streaming]; rfl) named accepted
      rw [sized.counted ctx streaming, ← counts, ← size]
      rfl
    · intro buffer live
      rw [Live, withNode, none] at live
      cases live

theorem step {event : Event} {next : State} (sized : s.Sized) (allowed : MacroblocksKept s event)
    (stepped : Encoder.step s event = some next) : next.Sized := by
  cases taken_of_step stepped with
  | sFmt type request => exact sized.sFmt type request allowed
  | queue _ kept slots => exact sized.frame kept slots rfl sized.counted
  | @memory event node pictures count _ kept slots refilled =>
    refine ⟨(congrArg Formats.Proc.role kept.proc).trans sized.role, slots sized.slots, ?_, ?_⟩
    · intro ctx streaming
      exact (sized.counted ctx streaming).trans (congrArg macroblocks kept.formatPicture).symm
    · intro buffer live
      obtain ⟨i, found⟩ := List.getElem?_of_mem live
      refine Eq.trans ?_ (congrArg (bufferSetup · _ _ _) kept.formatPicture).symm
      rcases refilled.origin i buffer found with old | ⟨-, layout⟩
      · exact sized.memory buffer (List.mem_of_getElem? old)
      · exact layout
  | started _ kept slots start =>
    exact sized.frame kept slots rfl fun ctx streaming => macroblocks_of_start start streaming
  | stopped _ kept slots stop =>
    refine sized.frame kept slots rfl fun ctx streaming => ?_
    obtain ⟨before, also, same⟩ := macroblocks_of_step (by nofun) stop streaming
    exact same.trans (sized.counted before also)
  | file kept slots running taken =>
    refine sized.frame kept slots rfl fun ctx streaming => ?_
    obtain ⟨before, also, same⟩ := macroblocks_of_step running.1 taken streaming
    exact same.trans (sized.counted before also)
  | program phase own taken =>
    refine sized.frame (.refl s.node) rfl rfl fun ctx streaming => ?_
    obtain ⟨before, also, same⟩ := macroblocks_of_step (by nofun) taken streaming
    exact same.trans (sized.counted before also)

/-- A file that was just opened does not stream and has no buffers. -/
theorem opened {proc : Formats.Proc} {node : Formats.State} (role : proc.role = .encoder)
    (setup : Formats.State.setup proc = .ok node) : (State.opened node).Sized := by
  obtain ⟨same, -⟩ := Formats.setup_encoder role setup
  refine ⟨(congrArg Formats.Proc.role same).trans role, ?_, nofun, nofun⟩
  simp only [Formats.State.setup, role] at setup
  split at setup
  · cases setup
  · simp only [Formats.State.formatPropagate, role] at setup
    obtain rfl := Except.ok.inj setup
    rfl

end State.Sized

/-- As long as no `S_FMT` on the picture queue changes the macroblocks during a stream, a job finds the counts
of its stream and the memory of its picture buffers current. -/
theorem geometry_current_of_macroblocks_kept (proc : Formats.Proc) (node : Formats.State) (events : List Event)
    (final : State) (role : proc.role = .encoder) (setup : Formats.State.setup proc = .ok node)
    (kept : Guarded step MacroblocksKept (.opened node) events)
    (reached : run step (.opened node) events = some final) : final.GeometryCurrent :=
  (kept.run_preserves State.Sized State.Sized.step (.opened role setup) reached).geometryCurrent

/-- The coded queue streams before the picture format is chosen; then a job starts. -/
def chosenLate (width height : ℕ) : List Event :=
  [.reqbufs .capture .mmap 1 1 [], .qbuf .capture 0 Formats.noDmaBuf (0, 0), .streamOn .capture true,
    .sFmt .output { pixelformat := .nv12, width, height }, .reqbufs .output .mmap 1 1 [(0x40000000, 0x41000000)],
    .qbuf .output 0 Formats.noDmaBuf (0, 0), .streamOn .output true, .file .jobPrepare]

/-- A size that needs the same macroblocks as the one before. -/
theorem geometry_current_chosen_late :
    ∃ node final, Formats.State.setup Formats.encProc = .ok node ∧
      run step (.opened node) (chosenLate 1278 718) = some final ∧ final.file.phase.job.isSome = true ∧
        final.GeometryCurrent :=
  ⟨_, _, rfl, rfl, rfl,
    geometry_current_of_macroblocks_kept Formats.encProc _ (chosenLate 1278 718) _ rfl rfl (by decide) rfl⟩

theorem geometry_not_always_current :
    ¬ ∀ (proc : Formats.Proc) (node : Formats.State) (events : List Event) (final : State), proc.role = .encoder →
      Formats.State.setup proc = .ok node → run step (.opened node) events = some final → final.GeometryCurrent := by
  intro always
  obtain ⟨counts, -⟩ := always Formats.encProc _ (chosenLate 320 240) _ rfl rfl rfl _ rfl nofun
  revert counts
  decide

end H618Vpu.Encoder
