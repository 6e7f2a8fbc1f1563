import H618Vpu.Model.Formats

/-! # The two queues of an open file

The ioctls of one file: `S_FMT`, `REQBUFS`, `QBUF`, `STREAMON` and `STREAMOFF` on either queue, as
`cedrus_proc.c` and `cedrus_context.c` answer them below v4l2-m2m and vb2, and the job that v4l2-m2m
starts when both queues stream and have a buffer. All of them hold the lock of the node, so each is
one event. An ioctl that fails leaves the state as the code leaves it. A finished buffer counts as
dequeued, and a buffer that waits in a request is queued when its request is.

A slot of an MMAP queue has memory from `REQBUFS` on; a slot of a DMABUF queue gets it when a dma-buf
is queued into it. vb2 calls `buf_init` when a slot gets memory and `buf_cleanup` before it loses it.
-/

namespace H618Vpu.Formats

open Device (Role)

inductive Memory where
  | mmap
  | dmabuf
deriving DecidableEq, Repr

/-- `struct cedrus_buffer` in its vb2 slot. The private data is kept with the engine that allocated it
and set it up; `none` is the NULL pointer. -/
structure Buffer where
  planeSize : ℕ
  minLength : ℕ
  memPriv : Option ℕ := none
  engineBuffer : Option Engine := none
deriving DecidableEq, Repr

/-- A vb2 queue; `ready` lists the slots that are queued, the oldest first. -/
structure Queue where
  memory : Memory := .mmap
  buffers : List Buffer := []
  streaming : Bool := false
  ready : List ℕ := []
deriving DecidableEq, Repr

/-- `vb2_is_busy` -/
def Queue.busy (queue : Queue) : Bool := !queue.buffers.isEmpty

/-- What user space gives with a dma-buf, and whether it can be attached and initialised. -/
structure DmaBuf where
  id : ℕ
  size : ℕ
  length : ℕ
  acquired : Bool
deriving DecidableEq, Repr

/-- The size of the dma-buf stands in for a length that is not given. -/
def DmaBuf.planeLength (dmabuf : DmaBuf) : ℕ := if dmabuf.length = 0 then dmabuf.size else dmabuf.length

/-- `struct v4l2_rect` -/
structure Rect where
  left : ℕ := 0
  top : ℕ := 0
  width : ℕ := 0
  height : ℕ := 0
deriving DecidableEq, Repr

/-- A call of the engine's `buffer_cleanup`: who set the private data up, and whose callback it was. -/
structure Cleanup where
  owner : Engine
  caller : Engine
deriving DecidableEq, Repr

/-- `struct cedrus_context` -/
structure State where
  proc : Proc
  engine : Engine
  formatCoded : PixFormat := {}
  formatPicture : PixFormat := {}
  selectionPicture : Rect := {}
  holdCaptureBuf : Bool := false
  coded : Queue := {}
  picture : Queue := {}
  cleanups : List Cleanup := []

namespace State

def queue (s : State) : FormatType → Queue
  | .coded => s.coded
  | .picture => s.picture

def setQueue (s : State) (type : FormatType) (queue : Queue) : State :=
  match type with
  | .coded => { s with coded := queue }
  | .picture => { s with picture := queue }

def format (s : State) : FormatType → PixFormat
  | .coded => s.formatCoded
  | .picture => s.formatPicture

/-- `cedrus_proc_format_coded_prepare`, then the `format_prepare` of the engine. -/
def formatCodedPrepare (s : State) (request : PixFormat) : PixFormat :=
  let request := { request with pixelformat := s.proc.formatSelect request.pixelformat .coded }
  match s.proc.role with
  | .decoder => decCodedPrepare s.engine request
  | .encoder => encCodedPrepare s.formatPicture request

/-- `cedrus_proc_format_picture_prepare` -/
def formatPicturePrepare (s : State) (request : PixFormat) : Except ℤ PixFormat :=
  let request := { request with pixelformat := s.proc.formatSelect request.pixelformat .picture }
  match s.proc.role with
  | .decoder => decPicturePrepare s.formatCoded request
  | .encoder => encPicturePrepare s.engine request

/-- `cedrus_context_selection_picture_reset` -/
def selectionPictureReset (s : State) : State :=
  { s with selectionPicture := ⟨0, 0, s.formatPicture.width, s.formatPicture.height⟩ }

/-- `cedrus_dec_format_propagate` and `cedrus_enc_format_propagate` -/
def formatPropagate (s : State) (type : FormatType) : Except ℤ State :=
  match s.proc.role, type with
  | .decoder, .coded =>
      match s.formatPicturePrepare s.formatPicture with
      | .error errno => .error errno
      | .ok formatPicture => .ok { s with formatPicture }
  | .encoder, .picture =>
      let s := s.selectionPictureReset
      .ok { s with formatCoded := s.formatCodedPrepare s.formatCoded }
  | .decoder, .picture | .encoder, .coded => .ok s

/-- `cedrus_context_engine_update` -/
def engineUpdate (s : State) : State × ℤ :=
  match s.proc.engineFindFormat s.formatCoded.pixelformat with
  | none => (s, enodev)
  | some engine => ({ s with engine, holdCaptureBuf := engine.sliceBased }, 0)

/-- `cedrus_context_queue_busy_check` -/
def queueBusy (s : State) (type : BufferType) : Bool := (s.queue (s.proc.formatType type)).busy

/-- `cedrus_context_queue_streaming_check` -/
def queueStreaming (s : State) (type : BufferType) : Bool := (s.queue (s.proc.formatType type)).streaming

/-- `cedrus_dec_format_dynamic_check`; `cedrus_enc_format_dynamic_check` has the same text. -/
def formatDynamicCheck (s : State) (type : BufferType) (request : PixFormat) : Bool :=
  match type with
  | .capture => false
  | .output =>
      s.queueBusy .output && !s.queueStreaming .output && !s.picture.busy &&
        request.pixelformat = s.formatCoded.pixelformat

/-- `cedrus_proc_s_fmt` goes on after its busy check. -/
def formatAccepted (s : State) (type : BufferType) (request : PixFormat) : Bool :=
  s.formatDynamicCheck type request || !s.queueBusy type

/-- `cedrus_proc_s_fmt` -/
def sFmt (s : State) (type : BufferType) (request : PixFormat) : State × ℤ :=
  if !s.formatAccepted type request then (s, einval)
  else
    match s.proc.formatType type with
    | .coded =>
        let s := { s with formatCoded := s.formatCodedPrepare request }
        match s.formatPropagate .coded with
        | .error errno => (s, errno)
        | .ok s => s.engineUpdate
    | .picture =>
        match s.formatPicturePrepare request with
        | .error errno => (s, errno)
        | .ok formatPicture =>
            let s := { s with formatPicture }
            match s.formatPropagate .picture with
            | .error errno => (s, errno)
            | .ok s => (s, 0)

/-- `cedrus_context_buffer_init`, for an allocation that succeeds. -/
def bufferInit (s : State) (type : FormatType) (buffer : Buffer) : Buffer :=
  if s.engine.privateSize type = 0 then buffer else { buffer with engineBuffer := some s.engine }

/-- The calls of `buffer_cleanup` that `cedrus_context_buffer_cleanup` makes for a buffer with memory. -/
def bufferCleanups (s : State) (type : FormatType) (buffer : Buffer) : List Cleanup :=
  match type, buffer.memPriv, buffer.engineBuffer with
  | .picture, some _, some owner => [⟨owner, s.engine⟩]
  | _, _, _ => []

/-- `cedrus_context_buffer_prepare` -/
def bufferPrepare (s : State) (type : FormatType) (buffer : Buffer) : Bool :=
  (s.format type).sizeimage ≤ buffer.planeSize

/-- A slot as `REQBUFS` leaves it, with the size `cedrus_context_queue_setup` asks for. -/
def newBuffer (s : State) (type : FormatType) (memory : Memory) : Buffer :=
  let size := (s.format type).sizeimage
  match memory with
  | .mmap => s.bufferInit type { planeSize := size, minLength := size, memPriv := some 0 }
  | .dmabuf => { planeSize := size, minLength := size }

/-- `__vb2_queue_cancel` and `__vb2_queue_free` -/
def freeBuffers (s : State) (type : FormatType) : State :=
  let queue := s.queue type
  let s := { s with cleanups := s.cleanups ++ queue.buffers.flatMap (s.bufferCleanups type) }
  s.setQueue type { queue with buffers := [], ready := [] }

/-- `vb2_core_reqbufs`, of whose buffers `allocated` can be allocated and initialised. -/
def reqbufs (s : State) (type : FormatType) (memory : Memory) (count allocated : ℕ) : State :=
  if (s.queue type).streaming then s
  else
    let s := s.freeBuffers type
    if count = 0 then s
    else
      s.setQueue type
        { s.queue type with
          memory
          buffers := List.replicate (min allocated (min count 32)) (s.newBuffer type memory) }

/-- A slot loses its memory. -/
def release (s : State) (type : FormatType) (buffer : Buffer) : Buffer × List Cleanup :=
  ({ buffer with memPriv := none, engineBuffer := none }, s.bufferCleanups type buffer)

/-- `buf_prepare` of a slot with a dma-buf: the slot, the cleanups made, and whether it is prepared. One
that is refused loses its memory. -/
def prepareAttached (s : State) (type : FormatType) (buffer : Buffer) : Buffer × List Cleanup × Bool :=
  if s.bufferPrepare type buffer then (buffer, [], true)
  else ((s.release type buffer).1, (s.release type buffer).2, false)

/-- `__prepare_dmabuf`: a dma-buf other than the one attached takes its place first. -/
def prepareDmabuf (s : State) (type : FormatType) (buffer : Buffer) (dmabuf : DmaBuf) :
    Buffer × List Cleanup × Bool :=
  if dmabuf.planeLength < buffer.minLength then (buffer, [], false)
  else if buffer.memPriv = some dmabuf.id ∧ buffer.planeSize = dmabuf.planeLength then s.prepareAttached type buffer
  else
    let (released, cleanups) := s.release type buffer
    if !dmabuf.acquired then (released, cleanups, false)
    else
      let attached := { released with planeSize := dmabuf.planeLength, memPriv := some dmabuf.id }
      let (prepared, more, success) := s.prepareAttached type (s.bufferInit type attached)
      (prepared, cleanups ++ more, success)

/-- Prepare a slot for its queue's kind of memory. -/
def prepare (s : State) (type : FormatType) (buffer : Buffer) (dmabuf : DmaBuf) : Buffer × List Cleanup × Bool :=
  match (s.queue type).memory with
  | .mmap => (buffer, [], s.bufferPrepare type buffer)
  | .dmabuf => s.prepareDmabuf type buffer dmabuf

/-- `vb2_core_qbuf` of a slot that is not queued. -/
def qbuf (s : State) (type : FormatType) (index : ℕ) (dmabuf : DmaBuf) : State :=
  let queue := s.queue type
  match queue.buffers[index]? with
  | none => s
  | some buffer =>
      if index ∈ queue.ready then s
      else
        let (buffer, cleanups, prepared) := s.prepare type buffer dmabuf
        let s := { s with cleanups := s.cleanups ++ cleanups }
        s.setQueue type
          { queue with
            buffers := queue.buffers.set index buffer
            ready := if prepared then queue.ready ++ [index] else queue.ready }

/-- `vb2_core_streamon`; `started` is whether `cedrus_context_start_streaming` could start the engine. -/
def streamOn (s : State) (type : FormatType) (started : Bool) : State :=
  let queue := s.queue type
  if !queue.busy then s
  else if type = .coded ∧ !started then s
  else s.setQueue type { queue with streaming := true }

/-- `v4l2_m2m_streamoff` -/
def streamOff (s : State) (type : FormatType) : State :=
  s.setQueue type { s.queue type with streaming := false, ready := [] }

/-- `__v4l2_m2m_try_queue` finds a buffer on both streaming queues. -/
def JobReady (s : State) : Prop :=
  s.coded.streaming = true ∧ s.picture.streaming = true ∧ s.coded.ready ≠ [] ∧ s.picture.ready ≠ []

instance (s : State) : Decidable s.JobReady := by
  dsimp only [JobReady]
  infer_instance

/-- A finished job takes its buffers off the queues; a held picture buffer stays for the next slice. -/
def jobDone (s : State) (held : Bool) : State :=
  { s with
    coded := { s.coded with ready := s.coded.ready.tail }
    picture := { s.picture with ready := if held && s.holdCaptureBuf then s.picture.ready else s.picture.ready.tail } }

/-- `cedrus_context_setup` with `cedrus_dec_format_setup` or `cedrus_enc_format_setup`. -/
def setup (proc : Proc) : Except ℤ State :=
  let s : State := { proc, engine := proc.engines.head proc.engines_ne }
  match proc.role with
  | .decoder =>
      let request : PixFormat := { pixelformat := s.engine.pixelformat, width := 1280, height := 720 }
      { s with formatCoded := s.formatCodedPrepare request }.formatPropagate .coded
  | .encoder =>
      let request : PixFormat := { pixelformat := proc.formatFindFirst .picture, width := 1280, height := 720 }
      match s.formatPicturePrepare request with
      | .error errno => .error errno
      | .ok formatPicture => { s with formatPicture }.formatPropagate .picture

end State

inductive Event where
  | sFmt (type : BufferType) (request : PixFormat)
  | reqbufs (type : BufferType) (memory : Memory) (count allocated : ℕ)
  | qbuf (type : BufferType) (index : ℕ) (dmabuf : DmaBuf)
  | streamOn (type : BufferType) (started : Bool)
  | streamOff (type : BufferType)
  | job (held : Bool)

/-- One ioctl, or one job. -/
def step (s : State) : Event → Option State
  | .sFmt type request => some (s.sFmt type request).1
  | .reqbufs type memory count allocated => some (s.reqbufs (s.proc.formatType type) memory count allocated)
  | .qbuf type index dmabuf => some (s.qbuf (s.proc.formatType type) index dmabuf)
  | .streamOn type started => some (s.streamOn (s.proc.formatType type) started)
  | .streamOff type => some (s.streamOff (s.proc.formatType type))
  | .job held => if s.JobReady then some (s.jobDone held) else none

end H618Vpu.Formats
