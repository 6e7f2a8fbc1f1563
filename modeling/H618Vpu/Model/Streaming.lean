import H618Vpu.Model.Formats

/-! # Ownership of queued buffers

vb2 hands a queued buffer to the driver with `buf_queue`, at once while the queue streams and from
`STREAMON` otherwise; v4l2-m2m keeps it in the ready list of its queue. The driver hands it back with
`v4l2_m2m_buf_done`, from a finished job or from `cedrus_context_queue_cleanup`. What it still has when
`stop_streaming` returns, vb2 takes back itself after a warning. A job is one event: `STREAMOFF` waits for
the running one. Every `buf_queue` has a serial number of its own.
-/

namespace H618Vpu.Streaming

open Device (Role)
open Formats (BufferType Engine Proc)

/-- A buffer that user space queued, with the request it is part of. -/
structure Queued where
  slot : ℕ
  request : Option ℕ
deriving DecidableEq, Repr

/-- A buffer the driver owns. -/
structure Buffer extends Queued where
  serial : ℕ
deriving DecidableEq, Repr

/-- `VB2_BUF_STATE_QUEUED`, `VB2_BUF_STATE_DONE` and `VB2_BUF_STATE_ERROR` -/
inductive BufState where
  | queued
  | done
  | error
deriving DecidableEq, Repr

/-- A call of `v4l2_m2m_buf_done`. -/
structure Returned where
  buffer : Buffer
  state : BufState
deriving DecidableEq, Repr

/-- A vb2 queue: `waiting` is queued but not with the driver, `ready` is the list of v4l2-m2m. -/
structure Queue where
  slots : ℕ := 0
  streaming : Bool := false
  waiting : List Queued := []
  ready : List Buffer := []
deriving DecidableEq, Repr

structure State where
  proc : Proc
  engine : Engine
  /-- `engine_ctx` and `engine_job` are allocated. -/
  engineCtx : Bool := false
  engineJob : Bool := false
  /-- What this context contributes to the usage count of runtime PM. -/
  pmUsage : ℤ := 0
  output : Queue := {}
  capture : Queue := {}
  /-- The first buffer of the capture queue is held for the next slice. -/
  held : Bool := false
  nextSerial : ℕ := 0
  returned : List Returned := []
  /-- What vb2 took back itself. -/
  reclaimed : List Buffer := []
  /-- The calls of `v4l2_ctrl_request_complete`. -/
  completed : List ℕ := []

/-- An engine has a context (`ctx_size`); every engine has a job (`job_size`). -/
def hasCtx : Engine → Bool
  | .decMpeg2 => false
  | .decH264 | .decH265 | .decVp8 | .decVp9 | .encH264 | .encJpeg => true

/-- The queue of coded buffers. -/
def codedType : Role → BufferType
  | .decoder => .output
  | .encoder => .capture

def enomem : ℤ := -12

/-- What `cedrus_context_start_streaming` meets: `pm_runtime_resume_and_get`, the two allocations and
`cedrus_engine_setup`. -/
structure Answers where
  resume : ℤ := 0
  ctxAllocated : Bool := true
  jobAllocated : Bool := true
  setup : ℤ := 0
deriving DecidableEq, Repr

namespace State

def queue (s : State) : BufferType → Queue
  | .output => s.output
  | .capture => s.capture

def setQueue (s : State) (type : BufferType) (queue : Queue) : State :=
  match type with
  | .output => { s with output := queue }
  | .capture => { s with capture := queue }

/-- `cedrus_context_buffer_queue` -/
def bufferQueue (s : State) (type : BufferType) (queued : Queued) : State :=
  let queue := s.queue type
  { s.setQueue type { queue with ready := queue.ready ++ [⟨queued, s.nextSerial⟩] } with
    nextSerial := s.nextSerial + 1 }

/-- `v4l2_ctrl_request_complete`, for a buffer in a request. -/
def requestComplete (s : State) (request : Option ℕ) : State := { s with completed := s.completed ++ request.toList }

/-- `v4l2_m2m_buf_done`; a buffer returned as queued waits in vb2 again. -/
def bufDone (s : State) (type : BufferType) (buffer : Buffer) (state : BufState) : State :=
  let s := { s with returned := s.returned ++ [⟨buffer, state⟩] }
  match state with
  | .queued => s.setQueue type { s.queue type with waiting := (s.queue type).waiting ++ [buffer.toQueued] }
  | .done | .error => s

/-- The loop of `cedrus_context_queue_cleanup`, which removes the first ready buffer until there is none. -/
def queueCleanupLoop (type : BufferType) (state : BufState) : List Buffer → State → State
  | [], s => s
  | buffer :: rest, s =>
      let s := s.setQueue type { s.queue type with ready := rest }
      let s := s.requestComplete buffer.request
      queueCleanupLoop type state rest (s.bufDone type buffer state)

/-- `cedrus_context_queue_cleanup` -/
def queueCleanup (s : State) (type : BufferType) (error : Bool) : State :=
  queueCleanupLoop type (if error then .error else .queued) (s.queue type).ready s

/-- The labels of `cedrus_context_start_streaming`, from the last one on. -/
def errorQueue (s : State) (type : BufferType) (ret : ℤ) : State × ℤ := (s.queueCleanup type false, ret)

def errorPm (s : State) (type : BufferType) (ret : ℤ) : State × ℤ :=
  { s with pmUsage := s.pmUsage - 1 }.errorQueue type ret

def errorAllocEngine (s : State) (type : BufferType) (ret : ℤ) : State × ℤ :=
  { s with engineCtx := false }.errorPm type ret

def errorAllocJob (s : State) (type : BufferType) (ret : ℤ) : State × ℤ :=
  { s with engineJob := false }.errorAllocEngine type ret

/-- `cedrus_context_start_streaming` -/
def startStreaming (s : State) (type : BufferType) (answers : Answers) : State × ℤ :=
  if s.proc.formatType type ≠ .coded then (s, 0)
  else if answers.resume ≠ 0 then s.errorQueue type answers.resume
  else
    let s := { s with pmUsage := s.pmUsage + 1 }
    if hasCtx s.engine ∧ !answers.ctxAllocated then s.errorPm type enomem
    else
      let s := { s with engineCtx := if hasCtx s.engine then true else s.engineCtx }
      if !answers.jobAllocated then s.errorAllocEngine type enomem
      else
        let s := { s with engineJob := true }
        if answers.setup ≠ 0 then s.errorAllocJob type answers.setup
        else (s, 0)

/-- `cedrus_context_stop_streaming` -/
def stopStreaming (s : State) (type : BufferType) : State :=
  if s.proc.formatType type ≠ .coded then s
  else
    let s := { s with engineCtx := false, engineJob := false }
    let s := s.queueCleanup type true
    { s with pmUsage := s.pmUsage - 1 }

/-- `vb2_core_qbuf`, or the queueing of its request; a decoder's source buffers need one, and only source
buffers can have one. -/
def qbuf (s : State) (type : BufferType) (queued : Queued) : State :=
  let queue := s.queue type
  if queue.slots ≤ queued.slot ∨ queued.slot ∈ queue.waiting.map Queued.slot ++ queue.ready.map (·.slot) then s
  else if type = .capture ∧ queued.request ≠ none then s
  else if type = .output ∧ s.proc.role = .decoder ∧ queued.request = none then s
  else if queue.streaming then s.bufferQueue type queued
  else s.setQueue type { queue with waiting := queue.waiting ++ [queued] }

/-- `vb2_start_streaming` passes what waits to the driver. -/
def handOverLoop (type : BufferType) : List Queued → State → State
  | [], s => s
  | queued :: rest, s => handOverLoop type rest (s.bufferQueue type queued)

def handOver (s : State) (type : BufferType) : State :=
  handOverLoop type (s.queue type).waiting (s.setQueue type { s.queue type with waiting := [] })

/-- vb2 warns and takes back what the driver still owns. -/
def reclaim (s : State) (type : BufferType) : State :=
  { s.setQueue type { s.queue type with ready := [] } with reclaimed := s.reclaimed ++ (s.queue type).ready }

/-- `vb2_core_streamon` -/
def streamOn (s : State) (type : BufferType) (answers : Answers) : State :=
  if (s.queue type).slots = 0 ∨ (s.queue type).streaming then s
  else
    let (s, ret) := (s.handOver type).startStreaming type answers
    if ret = 0 then s.setQueue type { s.queue type with streaming := true } else s.reclaim type

/-- `__vb2_queue_cancel`; `buf_request_complete` completes what is still in a request. -/
def queueCancel (s : State) (type : BufferType) : State :=
  let s := if (s.queue type).streaming then s.stopStreaming type else s
  let s := s.reclaim type
  let s := { s with completed := s.completed ++ (s.queue type).waiting.filterMap Queued.request }
  { s.setQueue type { s.queue type with streaming := false, waiting := [] } with held := s.held && type = .output }

/-- `vb2_core_reqbufs` -/
def reqbufs (s : State) (type : BufferType) (count : ℕ) : State :=
  if (s.queue type).streaming then s
  else
    let s := s.queueCancel type
    s.setQueue type { s.queue type with slots := count }

/-- The next frame returns a held buffer. -/
def newFrame (s : State) : Option State :=
  match s.held, s.capture.ready with
  | true, buffer :: rest =>
      some ({ s with held := false, capture := { s.capture with ready := rest } }.bufDone .capture buffer .done)
  | _, _ => none

/-- A job from `cedrus_context_job_run`, which completes the request of the coded buffer, to
`v4l2_m2m_buf_done_and_job_finish`; a slice-based engine can hold the capture buffer. -/
def job (s : State) (state : BufState) (hold : Bool) : Option State :=
  match s.output.ready, s.capture.ready with
  | source :: sources, destination :: destinations =>
      if !s.output.streaming ∨ !s.capture.streaming ∨ state = .queued ∨ (hold ∧ !s.engine.sliceBased) then none
      else
        let coded := if s.proc.role = .decoder then source else destination
        let s := s.requestComplete coded.request
        let s := { s with output := { s.output with ready := sources }, held := hold }
        let s := if hold then s
          else { s with capture := { s.capture with ready := destinations } }.bufDone .capture destination state
        some (s.bufDone .output source state)
  | _, _ => none

end State

inductive Event where
  | reqbufs (type : BufferType) (count : ℕ)
  | qbuf (type : BufferType) (queued : Queued)
  | streamOn (type : BufferType) (answers : Answers)
  | streamOff (type : BufferType)
  | job (state : BufState) (hold : Bool)
  | newFrame
  /-- An `S_FMT` without coded buffers selects another engine. -/
  | engineUpdate (engine : Engine)

def step (s : State) : Event → Option State
  | .reqbufs type count => some (s.reqbufs type count)
  | .qbuf type queued => some (s.qbuf type queued)
  | .streamOn type answers => some (s.streamOn type answers)
  | .streamOff type => some (s.queueCancel type)
  | .job state hold => s.job state hold
  | .newFrame => s.newFrame
  | .engineUpdate engine =>
      if engine ∈ s.proc.engines ∧ (s.queue (codedType s.proc.role)).slots = 0 then some { s with engine } else none

/-- A file that was just opened. -/
def State.opened (proc : Proc) : State := { proc, engine := proc.engines.head proc.engines_ne }

end H618Vpu.Streaming
