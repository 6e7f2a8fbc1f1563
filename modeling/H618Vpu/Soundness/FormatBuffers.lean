import H618Vpu.Machine.Run
import H618Vpu.Model.Queues

/-! # Picture buffers that match the formats of their node

`S_FMT` looks at the queue it names, but on the coded queue it also replaces the engine and, on a
decoder, the picture format. Picture buffers were allocated for the format and set up by the engine of
their time. They keep matching as long as an `S_FMT` on the coded queue changes nothing they rely on;
every other ioctl keeps the match by itself.
-/

namespace H618Vpu.Formats

open Machine

/-- The private data `cedrus_context_buffer_init` leaves with a picture buffer: none, or its own. -/
def Engine.pictureBuffer (engine : Engine) : Option Engine :=
  if engine.bufferSize = 0 then none else some engine

/-- Every picture buffer is large enough for the picture format, and its private data was allocated and
set up by the current engine. -/
def State.PicturesMatch (s : State) : Prop :=
  ∀ buffer ∈ s.picture.buffers, buffer.memPriv.isSome = true →
    s.formatPicture.sizeimage ≤ buffer.planeSize ∧ buffer.engineBuffer = s.engine.pictureBuffer

/-- Private data is cleaned up by the engine that set it up. -/
def State.CleanedByOwner (s : State) : Prop := ∀ cleanup ∈ s.cleanups, cleanup.owner = cleanup.caller

/-- The buffers match whenever a job can run. -/
def State.FormatsAgree (s : State) : Prop := (s.JobReady → s.PicturesMatch) ∧ s.CleanedByOwner

instance (s : State) : Decidable s.PicturesMatch := by
  dsimp only [State.PicturesMatch]
  infer_instance

instance (s : State) : Decidable s.FormatsAgree := by
  dsimp only [State.FormatsAgree, State.CleanedByOwner]
  infer_instance

/-- The engine of the coded format a request selects. -/
def State.requestedEngine (s : State) (request : PixFormat) : Engine :=
  (s.proc.engineFindFormat (s.proc.formatSelect request.pixelformat .coded)).getD s.engine

/-- The picture size that goes with the dimensions of a coded request: a decoder's follows them. -/
def State.requestedSize (s : State) (request : PixFormat) : ℕ :=
  match s.proc.role with
  | .encoder => s.formatPicture.sizeimage
  | .decoder =>
      let dimensions := applyFrmsizeConstraints request.width request.height s.engine.frmsize
      let pixelformat := s.proc.formatSelect s.formatPicture.pixelformat .picture
      ((decPictureLayout pixelformat dimensions.1 dimensions.2).map (·.2.2.2)).getD s.formatPicture.sizeimage

/-- An `S_FMT` that gets past the busy check of the coded queue leaves the existing picture buffers large
enough, and selects an engine whose private data they have. -/
def Harmless (s : State) : Event → Prop
  | .sFmt type request =>
      s.proc.formatType type = .coded → s.formatAccepted type request = true →
        ∀ buffer ∈ s.picture.buffers, buffer.memPriv.isSome = true →
          s.requestedSize request ≤ buffer.planeSize ∧
            (s.requestedEngine request).pictureBuffer = s.engine.pictureBuffer
  | _ => True

instance (s : State) (event : Event) : Decidable (Harmless s event) := by
  cases event <;> dsimp only [Harmless] <;> infer_instance

/-- A slot with memory has the plane and the private data for this size and engine; a slot without has
no private data. -/
structure Buffer.Fits (engine : Engine) (sizeimage : ℕ) (buffer : Buffer) : Prop where
  plane : buffer.memPriv.isSome = true → sizeimage ≤ buffer.planeSize
  owned : buffer.memPriv.isSome = true → buffer.engineBuffer = engine.pictureBuffer
  bare : buffer.memPriv = none → buffer.engineBuffer = none

section

variable {s : State} {type : FormatType} {buffer : Buffer}

/-- A coded buffer is cleaned up without the engine. -/
theorem State.bufferCleanups_coded (s : State) (buffer : Buffer) : s.bufferCleanups .coded buffer = [] := rfl

/-- What the current engine set up, it cleans up. -/
theorem Buffer.Fits.cleanups {sizeimage : ℕ} (fits : buffer.Fits s.engine sizeimage) {cleanup : Cleanup}
    (made : cleanup ∈ s.bufferCleanups type buffer) : cleanup.owner = cleanup.caller := by
  simp only [State.bufferCleanups] at made
  split at made
  case h_1 memory owner attached held =>
    obtain rfl := List.mem_singleton.mp made
    have owned := fits.owned (by rw [attached]; rfl)
    rw [held, Engine.pictureBuffer] at owned
    split at owned
    case isTrue => cases owned
    case isFalse => exact Option.some.inj owned
  case h_2 => cases made

/-- A slot that gets memory for the current format. -/
theorem Buffer.Fits.init {sizeimage : ℕ} (bare : buffer.engineBuffer = none)
    (plane : sizeimage ≤ buffer.planeSize) (memory : buffer.memPriv.isSome = true) :
    (s.bufferInit .picture buffer).Fits s.engine sizeimage := by
  have present : buffer.memPriv ≠ none := Option.isSome_iff_ne_none.mp memory
  simp only [State.bufferInit]
  split
  case isTrue empty =>
    refine ⟨fun _ => plane, fun _ => ?_, fun gone => absurd gone present⟩
    exact bare.trans (if_pos empty).symm
  case isFalse kept =>
    refine ⟨fun _ => plane, fun _ => ?_, fun gone => absurd gone present⟩
    exact (if_neg kept).symm

theorem Buffer.Fits.release {sizeimage : ℕ} : (s.release .picture buffer).1.Fits s.engine sizeimage where
  plane memory := by cases memory
  owned memory := by cases memory
  bare _ := rfl

/-- A new picture slot fits. -/
theorem Buffer.Fits.new (memory : Memory) :
    (s.newBuffer .picture memory).Fits s.engine s.formatPicture.sizeimage := by
  cases memory with
  | mmap => exact .init rfl le_rfl rfl
  | dmabuf => exact ⟨fun memory => (by cases memory), fun memory => (by cases memory), fun _ => rfl⟩

end

/-- Every slot of the picture queue fits, and every cleanup was the owner's. -/
structure State.Compatible (s : State) : Prop where
  pictures : ∀ buffer ∈ s.picture.buffers, buffer.Fits s.engine s.formatPicture.sizeimage
  cleanups : s.CleanedByOwner

namespace State.Compatible

variable {s : State} {type : FormatType}

theorem formatsAgree (compatible : s.Compatible) : s.FormatsAgree :=
  ⟨fun _ buffer member memory =>
    ⟨(compatible.pictures buffer member).plane memory, (compatible.pictures buffer member).owned memory⟩,
    compatible.cleanups⟩

/-- Changes elsewhere in the context do not matter. -/
theorem frame {next : State} (compatible : s.Compatible) (buffers : next.picture.buffers = s.picture.buffers)
    (engine : next.engine = s.engine) (size : next.formatPicture.sizeimage = s.formatPicture.sizeimage)
    (cleanups : next.cleanups = s.cleanups) : next.Compatible where
  pictures := by
    rw [buffers, engine, size]
    exact compatible.pictures
  cleanups cleanup := by
    rw [cleanups]
    exact compatible.cleanups cleanup

/-- Without picture buffers the formats are free. -/
theorem of_empty {next : State} (compatible : s.Compatible) (empty : next.picture.buffers = [])
    (cleanups : next.cleanups = s.cleanups) : next.Compatible where
  pictures buffer member := by
    rw [empty] at member
    exact absurd member List.not_mem_nil
  cleanups cleanup := by
    rw [cleanups]
    exact compatible.cleanups cleanup

/-- A queue keeps its slots. -/
theorem setQueue (compatible : s.Compatible) {queue : Queue} (buffers : queue.buffers = (s.queue type).buffers) :
    (s.setQueue type queue).Compatible := by
  cases type with
  | coded => exact compatible.frame rfl rfl rfl rfl
  | picture => exact compatible.frame buffers rfl rfl rfl

/-- Slots that fit take the place of others, with cleanups by the owners. -/
theorem replace (compatible : s.Compatible) {queue : Queue} {made : List Cleanup}
    (fits : type = .picture → ∀ buffer ∈ queue.buffers, buffer.Fits s.engine s.formatPicture.sizeimage)
    (owners : ∀ cleanup ∈ made, cleanup.owner = cleanup.caller) :
    ({ s with cleanups := s.cleanups ++ made }.setQueue type queue).Compatible := by
  have cleanups : ∀ cleanup ∈ s.cleanups ++ made, cleanup.owner = cleanup.caller := by
    intro cleanup member
    rcases List.mem_append.mp member with old | new
    · exact compatible.cleanups cleanup old
    · exact owners cleanup new
  cases type with
  | coded => exact ⟨compatible.pictures, cleanups⟩
  | picture => exact ⟨fits rfl, cleanups⟩

theorem freeBuffers (compatible : s.Compatible) : (s.freeBuffers type).Compatible := by
  apply compatible.replace (fun _ buffer member => absurd member List.not_mem_nil)
  intro cleanup member
  obtain ⟨buffer, slot, made⟩ := List.mem_flatMap.mp member
  cases type with
  | coded => exact absurd made List.not_mem_nil
  | picture => exact (compatible.pictures buffer slot).cleanups made

theorem reqbufs (compatible : s.Compatible) (memory : Memory) (count allocated : ℕ) :
    (s.reqbufs type memory count allocated).Compatible := by
  rw [State.reqbufs]
  split
  · exact compatible
  · dsimp only
    split
    · exact compatible.freeBuffers
    · cases type with
      | coded => exact compatible.freeBuffers.frame rfl rfl rfl rfl
      | picture =>
        refine ⟨fun buffer member => ?_, compatible.freeBuffers.cleanups⟩
        obtain rfl := List.eq_of_mem_replicate member
        exact .new memory

/-- A refused slot loses its memory, and the owner cleans up. -/
theorem prepareAttached {buffer : Buffer} {sizeimage : ℕ} (fits : buffer.Fits s.engine sizeimage) :
    (s.prepareAttached .picture buffer).1.Fits s.engine s.formatPicture.sizeimage ∧
      ∀ cleanup ∈ (s.prepareAttached .picture buffer).2.1, cleanup.owner = cleanup.caller := by
  simp only [State.prepareAttached]
  split
  case isTrue large =>
    have checked : buffer.Fits s.engine s.formatPicture.sizeimage :=
      ⟨fun _ => of_decide_eq_true large, fits.owned, fits.bare⟩
    exact ⟨checked, fun _ member => absurd member List.not_mem_nil⟩
  case isFalse => exact ⟨.release, fun _ made => fits.cleanups made⟩

/-- Queueing into a slot leaves one that fits, and what it takes away is cleaned up by its owner. -/
theorem prepareDmabuf {buffer : Buffer} (fits : buffer.Fits s.engine s.formatPicture.sizeimage) (dmabuf : DmaBuf) :
    (s.prepareDmabuf .picture buffer dmabuf).1.Fits s.engine s.formatPicture.sizeimage ∧
      ∀ cleanup ∈ (s.prepareDmabuf .picture buffer dmabuf).2.1, cleanup.owner = cleanup.caller := by
  rw [State.prepareDmabuf]
  split
  case isTrue => exact ⟨fits, fun _ member => absurd member List.not_mem_nil⟩
  split
  case isTrue => exact prepareAttached fits
  dsimp only
  split
  case isTrue => exact ⟨.release, fun _ made => fits.cleanups made⟩
  case isFalse =>
    -- the new memory is as large as it is; `buf_prepare` then compares it with the format
    have attached : (s.bufferInit .picture { (s.release .picture buffer).1 with
        planeSize := dmabuf.planeLength, memPriv := some dmabuf.id }).Fits s.engine dmabuf.planeLength :=
      .init rfl le_rfl rfl
    obtain ⟨prepared, owners⟩ := prepareAttached attached
    refine ⟨prepared, ?_⟩
    intro cleanup member
    rcases List.mem_append.mp member with old | new
    · exact fits.cleanups old
    · exact owners cleanup new

theorem prepare {buffer : Buffer} (fits : buffer.Fits s.engine s.formatPicture.sizeimage) (dmabuf : DmaBuf) :
    (s.prepare .picture buffer dmabuf).1.Fits s.engine s.formatPicture.sizeimage ∧
      ∀ cleanup ∈ (s.prepare .picture buffer dmabuf).2.1, cleanup.owner = cleanup.caller := by
  simp only [State.prepare]
  split
  case h_1 => exact ⟨fits, fun _ member => absurd member List.not_mem_nil⟩
  case h_2 => exact prepareDmabuf fits dmabuf

/-- A coded slot is prepared without the engine's `buffer_cleanup`. -/
theorem prepare_coded (s : State) (buffer : Buffer) (dmabuf : DmaBuf) :
    (s.prepare .coded buffer dmabuf).2.1 = [] := by
  unfold State.prepare State.prepareDmabuf State.prepareAttached State.release
  simp only [bufferCleanups_coded]
  repeat' split
  all_goals rfl

theorem qbuf (compatible : s.Compatible) (index : ℕ) (dmabuf : DmaBuf) :
    (s.qbuf type index dmabuf).Compatible := by
  rw [State.qbuf]
  dsimp only
  split
  case h_1 => exact compatible
  case h_2 buffer slot =>
    split
    case isTrue => exact compatible
    case isFalse =>
      cases type with
      | coded =>
        apply compatible.replace (fun same => by cases same)
        intro cleanup member
        rw [prepare_coded] at member
        exact absurd member List.not_mem_nil
      | picture =>
        have member : buffer ∈ s.picture.buffers := List.mem_of_getElem? slot
        obtain ⟨prepared, owners⟩ := prepare (compatible.pictures buffer member) dmabuf
        refine compatible.replace (fun _ other member => ?_) owners
        rcases List.mem_or_eq_of_mem_set member with old | rfl
        · exact compatible.pictures other old
        · exact prepared

theorem streamOn (compatible : s.Compatible) (started : Bool) : (s.streamOn type started).Compatible := by
  unfold State.streamOn
  dsimp only
  split
  · exact compatible
  split
  · exact compatible
  · exact compatible.setQueue rfl

/-- On the picture queue an `S_FMT` is accepted only without buffers. -/
theorem picture_empty {type : BufferType} {request : PixFormat} (picture : s.proc.formatType type = .picture)
    (accepted : s.formatAccepted type request = true) : s.picture.buffers = [] := by
  have idle : s.picture.busy = false := by
    have named : s.queueBusy type = s.picture.busy := by
      simp only [State.queueBusy]
      rw [picture]
      rfl
    rw [State.formatAccepted, named] at accepted
    cases busy : s.picture.busy with
    | false => rfl
    | true =>
      rw [busy] at accepted
      cases type with
      | capture => cases accepted
      | output => simp [State.formatDynamicCheck, busy] at accepted
  simpa [Queue.busy] using idle

/-- The selected coded format has the requested engine. -/
theorem engineUpdate (s : State) (request : PixFormat) (selected : State)
    (pixelformat : selected.formatCoded.pixelformat = s.proc.formatSelect request.pixelformat .coded)
    (proc : selected.proc = s.proc) (engine : selected.engine = s.engine) :
    selected.engineUpdate.1.engine = s.requestedEngine request ∧
      selected.engineUpdate.1.picture = selected.picture ∧
      selected.engineUpdate.1.formatPicture = selected.formatPicture ∧
      selected.engineUpdate.1.cleanups = selected.cleanups := by
  simp only [State.engineUpdate, State.requestedEngine]
  rw [pixelformat, proc]
  cases s.proc.engineFindFormat (s.proc.formatSelect request.pixelformat .coded) with
  | none => exact ⟨engine, rfl, rfl, rfl⟩
  | some found => exact ⟨rfl, rfl, rfl, rfl⟩

/-- The decoder's picture follows the coded format. -/
theorem decPropagate (request : PixFormat) (decoder : s.proc.role = .decoder) :
    let stored := { s with formatCoded := s.formatCodedPrepare request }
    (∃ errno, stored.formatPropagate .coded = .error errno) ∨
      ∃ formatPicture, stored.formatPropagate .coded = .ok { stored with formatPicture } ∧
        formatPicture.sizeimage = s.requestedSize request := by
  simp only [State.formatPropagate, State.formatPicturePrepare, State.formatCodedPrepare, State.requestedSize, decoder,
    decPicturePrepare, decCodedPrepare]
  cases decPictureLayout (s.proc.formatSelect s.formatPicture.pixelformat .picture)
      (applyFrmsizeConstraints request.width request.height s.engine.frmsize).1
      (applyFrmsizeConstraints request.width request.height s.engine.frmsize).2 with
  | none => exact .inl ⟨_, rfl⟩
  | some layout => exact .inr ⟨_, rfl, rfl⟩

/-- What an accepted `S_FMT` on the coded queue does to the picture side. -/
theorem sFmt_coded {type : BufferType} {request : PixFormat} (coded : s.proc.formatType type = .coded)
    (accepted : s.formatAccepted type request = true) :
    let next := (s.sFmt type request).1
    next.picture = s.picture ∧ next.cleanups = s.cleanups ∧
      (next.engine = s.engine ∧ next.formatPicture = s.formatPicture ∨
        next.engine = s.requestedEngine request ∧ next.formatPicture.sizeimage = s.requestedSize request) := by
  simp only [State.sFmt]
  rw [accepted, coded]
  simp only [Bool.not_true, Bool.false_eq_true, ↓reduceIte]
  have selected : (s.formatCodedPrepare request).pixelformat = s.proc.formatSelect request.pixelformat .coded := by
    simp only [State.formatCodedPrepare]
    cases s.proc.role <;> rfl
  cases role : s.proc.role with
  | decoder =>
    rcases decPropagate request role with ⟨errno, failed⟩ | ⟨formatPicture, propagated, size⟩
    · rw [failed]
      exact ⟨rfl, rfl, .inl ⟨rfl, rfl⟩⟩
    · rw [propagated]
      obtain ⟨engine, picture, format, cleanups⟩ := engineUpdate s request
        { s with formatCoded := s.formatCodedPrepare request, formatPicture } selected rfl rfl
      exact ⟨picture, cleanups, .inr ⟨engine, (congrArg PixFormat.sizeimage format).trans size⟩⟩
  | encoder =>
    have propagated : { s with formatCoded := s.formatCodedPrepare request }.formatPropagate .coded =
        .ok { s with formatCoded := s.formatCodedPrepare request } := by
      simp only [State.formatPropagate, role]
    rw [propagated]
    obtain ⟨engine, picture, format, cleanups⟩ := engineUpdate s request
      { s with formatCoded := s.formatCodedPrepare request } selected rfl rfl
    refine ⟨picture, cleanups, .inr ⟨engine, ?_⟩⟩
    simp only [State.requestedSize, role]
    exact congrArg PixFormat.sizeimage format

/-- An `S_FMT` on the picture queue leaves the slots alone. -/
theorem sFmt_picture {type : BufferType} (request : PixFormat) (picture : s.proc.formatType type = .picture) :
    (s.sFmt type request).1.picture = s.picture ∧ (s.sFmt type request).1.cleanups = s.cleanups := by
  simp only [State.sFmt, State.formatPropagate]
  rw [picture]
  split
  · exact ⟨rfl, rfl⟩
  dsimp only
  split
  · exact ⟨rfl, rfl⟩
  · cases s.proc.role <;> exact ⟨rfl, rfl⟩

theorem sFmt (compatible : s.Compatible) {type : BufferType} {request : PixFormat}
    (harmless : Harmless s (.sFmt type request)) : (s.sFmt type request).1.Compatible := by
  cases accepted : s.formatAccepted type request with
  | false =>
    simp only [State.sFmt]
    rw [accepted]
    exact compatible
  | true =>
    cases named : s.proc.formatType type with
    | picture =>
      obtain ⟨picture, cleanups⟩ := sFmt_picture request named
      refine compatible.of_empty ?_ cleanups
      rw [picture]
      exact picture_empty named accepted
    | coded =>
      obtain ⟨picture, cleanups, ⟨engine, format⟩ | ⟨engine, size⟩⟩ := sFmt_coded named accepted
      · exact compatible.frame (congrArg Queue.buffers picture) engine (congrArg PixFormat.sizeimage format) cleanups
      · constructor
        · intro buffer member
          rw [picture] at member
          rw [engine, size]
          have fits := compatible.pictures buffer member
          have harmless := harmless named accepted buffer member
          exact ⟨fun memory => (harmless memory).1, fun memory => (fits.owned memory).trans (harmless memory).2.symm,
            fits.bare⟩
        · intro cleanup
          rw [cleanups]
          exact compatible.cleanups cleanup

theorem step {event : Event} {next : State} (compatible : s.Compatible) (harmless : Harmless s event)
    (taken : Formats.step s event = some next) : next.Compatible := by
  cases event with
  | sFmt type request =>
    obtain rfl := Option.some.inj taken
    exact compatible.sFmt harmless
  | reqbufs type memory count allocated =>
    obtain rfl := Option.some.inj taken
    exact compatible.reqbufs memory count allocated
  | qbuf type index dmabuf =>
    obtain rfl := Option.some.inj taken
    exact compatible.qbuf index dmabuf
  | streamOn type started =>
    obtain rfl := Option.some.inj taken
    exact compatible.streamOn started
  | streamOff type =>
    obtain rfl := Option.some.inj taken
    exact compatible.setQueue rfl
  | job held =>
    obtain ⟨-, done⟩ := Option.ite_none_right_eq_some.mp taken
    obtain rfl := Option.some.inj done
    exact compatible.frame rfl rfl rfl rfl

/-- A file that was just opened has no buffers. -/
theorem setup {proc : Proc} (opened : State.setup proc = .ok s) : s.Compatible := by
  have fresh : s.picture.buffers = [] ∧ s.cleanups = [] := by
    unfold State.setup State.formatPropagate at opened
    dsimp only at opened
    cases role : proc.role with
    | decoder =>
      simp only [role] at opened
      split at opened
      · cases opened
      · obtain rfl := Except.ok.inj opened
        exact ⟨rfl, rfl⟩
    | encoder =>
      simp only [role] at opened
      split at opened
      · cases opened
      · obtain rfl := Except.ok.inj opened
        exact ⟨rfl, rfl⟩
  constructor
  · intro buffer member
    rw [fresh.1] at member
    exact absurd member List.not_mem_nil
  · intro cleanup member
    rw [fresh.2] at member
    exact absurd member List.not_mem_nil

end State.Compatible

/-- As long as no `S_FMT` on the coded queue takes from the picture buffers what they have, formats and
buffers agree after every run of a file. -/
theorem formats_agree_of_harmless (proc : Proc) (opened final : State) (events : List Event)
    (setup : State.setup proc = .ok opened) (harmless : Guarded step Harmless opened events)
    (reached : run step opened events = some final) : final.FormatsAgree :=
  (harmless.run_preserves State.Compatible State.Compatible.step (.setup setup) reached).formatsAgree

/-- The slot `QBUF` names when the queue is not of dma-bufs. -/
def noDmaBuf : DmaBuf := ⟨0, 0, 0, false⟩

/-- One coded buffer is allocated and queued, and both queues are started. -/
def startBoth : List Event :=
  [.reqbufs .output .mmap 1 1, .qbuf .output 0 noDmaBuf, .streamOn .output true, .streamOn .capture true]

def codedRequest (pixelformat : PixelFormat) (width height : ℕ) : Event :=
  .sFmt .output { pixelformat, width, height }

/-- With a picture buffer queued, H.264 is selected again with smaller dimensions. -/
def shrinking : List Event :=
  [codedRequest .h264Slice 1920 1088, .reqbufs .capture .mmap 1 1, .qbuf .capture 0 noDmaBuf,
    codedRequest .h264Slice 1280 720] ++ startBoth

theorem formats_agree_shrinking :
    ∃ opened final, State.setup decProc = .ok opened ∧ run step opened shrinking = some final ∧ final.JobReady ∧
      final.FormatsAgree :=
  ⟨_, _, rfl, rfl, by decide, formats_agree_of_harmless decProc _ _ shrinking rfl (by decide) rfl⟩

/-- A picture buffer for MPEG-2 at 1280×720 is queued, then H.264 at 1920×1088 is selected. -/
def growing : List Event :=
  [.reqbufs .capture .mmap 1 1, .qbuf .capture 0 noDmaBuf, codedRequest .h264Slice 1920 1088] ++ startBoth

theorem formats_not_always_agree :
    ¬ ∀ (proc : Proc) (opened final : State) (events : List Event),
      State.setup proc = .ok opened → run step opened events = some final → final.FormatsAgree := by
  intro always
  have agree := always decProc _ _ growing rfl rfl
  revert agree
  decide

/-- On an encoder it is the engine that changes: JPEG is selected over a picture buffer set up for H.264. -/
example : (do
    let opened ← (State.setup encProc).toOption
    let final ← run step opened [.reqbufs .output .mmap 1 1, .sFmt .capture { pixelformat := .jpeg }]
    some (decide final.PicturesMatch)) = some false := by
  decide

end H618Vpu.Formats
