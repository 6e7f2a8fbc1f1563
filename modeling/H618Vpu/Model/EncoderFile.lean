import H618Vpu.Model.H264Enc
import H618Vpu.Model.Queues

/-! # An open encoder file

The ioctls of `Queues` and the jobs of `H264Enc` on one file, with what they have of each other.
`STREAMON` of the coded queue starts the engine with the picture format of the time, a job takes the first
buffer of either queue, and `STREAMOFF` waits for the job that runs. Ioctls and control writes hold the lock
of the node, so no ioctl comes in the middle of a write.

A slot of the picture queue has memory for the reconstruction of its picture, which comes and goes with the
memory of the slot. Which addresses `dma_alloc_attrs` returns is part of the events; they are apart from all
that is allocated to the queue, and RAM does not start at address 0. Every allocation has a number of its own.
-/

namespace H618Vpu.Encoder

open Formats (BufferType Memory DmaBuf PixFormat)
open H264 (Job Phase)
open Math

structure Region where
  dma : ℕ
  size : ℕ
deriving DecidableEq, Repr

def Region.Apart (first second : Region) : Prop :=
  first.dma + first.size ≤ second.dma ∨ second.dma + second.size ≤ first.dma

instance (first second : Region) : Decidable (first.Apart second) := inferInstanceAs (Decidable (_ ∨ _))

/-- `struct cedrus_enc_h264_buffer`, with the number of its allocation. -/
structure H264Buffer where
  subpixDma : ℕ
  subpixSize : ℕ
  recDma : ℕ
  recSize : ℕ
  recLumaSize : ℕ
  recChromaSize : ℕ
  serial : ℕ
deriving DecidableEq, Repr

namespace H264Buffer

def subpixRegion (buffer : H264Buffer) : Region := ⟨buffer.subpixDma, buffer.subpixSize⟩

def recRegion (buffer : H264Buffer) : Region := ⟨buffer.recDma, buffer.recSize⟩

/-- No memory of the one is memory of the other. -/
def Apart (first second : H264Buffer) : Prop :=
  (first.recRegion.Apart second.recRegion ∧ first.recRegion.Apart second.subpixRegion) ∧
    first.subpixRegion.Apart second.recRegion ∧ first.subpixRegion.Apart second.subpixRegion

instance (first second : H264Buffer) : Decidable (first.Apart second) := inferInstanceAs (Decidable (_ ∧ _))

end H264Buffer

/-- `ALIGN_DOWN` -/
def alignDown (x alignment : ℕ) : ℕ := x / alignment * alignment

/-- The buffers of a picture of so many macroblocks. -/
def bufferLayout (widthMbs heightMbs subpixDma recDma serial : ℕ) : H264Buffer :=
  let subpixSizeWidth := alignDown ((widthMbs + 47) * 2 / 3) 32 + align widthMbs 32 * 2
  let subpixSizeHeight := (heightMbs * 16 + 72) / 8
  let recLumaSize := align widthMbs 2 * 16 * align (heightMbs + 1) 4 * 16
  let recChromaSize := align widthMbs 2 * 16 * align (divRoundUp heightMbs 2) 4 * 16
  { subpixDma
    subpixSize := subpixSizeWidth * subpixSizeHeight
    recDma
    recSize := align (recLumaSize + recChromaSize) 4096
    recLumaSize, recChromaSize, serial }

/-- `cedrus_enc_h264_buffer_setup`, with the addresses of the two allocations. -/
def bufferSetup (format : PixFormat) (subpixDma recDma serial : ℕ) : H264Buffer :=
  bufferLayout (divRoundUp format.width 16) (divRoundUp format.height 16) subpixDma recDma serial

/-- The engine buffers of the slots of the picture queue; `none` is the NULL pointer. -/
abbrev Pictures := List (Option H264Buffer)

/-- What is allocated to a picture queue is apart. -/
def Allocated (pictures : Pictures) : Prop :=
  (pictures.filterMap id).Pairwise H264Buffer.Apart ∧
    ∀ buffer ∈ pictures.filterMap id, buffer.recRegion.Apart buffer.subpixRegion ∧ 0 < buffer.subpixDma

instance (pictures : Pictures) : Decidable (Allocated pictures) := inferInstanceAs (Decidable (_ ∧ _))

/-- The addresses that `cedrus_enc_h264_job_configure` programs, before `cedrus_enc_dma_addr` shifts them:
`REC_ADDR_Y`, `REC_ADDR_C`, `REF0_ADDR_Y`, `REF0_ADDR_C`, `SUBPIX_ADDR_NEW` and `SUBPIX_ADDR_LAST`. -/
structure Addresses where
  recY : ℕ := 0
  recC : ℕ := 0
  ref0Y : ℕ := 0
  ref0C : ℕ := 0
  subpixNew : ℕ := 0
  subpixLast : ℕ := 0
deriving DecidableEq, Repr

/-- One open encoder file: its queues and formats, its controls and jobs, the memory of its picture buffers
and the addresses that the engine remembers and programs. -/
structure State where
  node : Formats.State
  file : H264.State := {}
  pictures : Pictures := []
  nextSerial : ℕ := 0
  recLastDma : ℕ := 0
  recLastLumaSize : ℕ := 0
  subpixLastDma : ℕ := 0
  addresses : Addresses := {}

namespace State

/-- The ioctl of a node, after which the SPS writer reads the selection of the node. -/
def withNode (s : State) (node : Formats.State) : State :=
  let selection := node.selectionPicture
  { s with
    node
    file :=
      { s.file with
        input :=
          { s.file.input with
            left := .ofNat selection.left
            top := .ofNat selection.top
            width := .ofNat selection.width
            height := .ofNat selection.height } } }

/-- `cedrus_context_buffer_init` of a picture slot calls `buffer_setup` if it is the engine's. -/
def slotSetup (s : State) (buffer : Formats.Buffer) (dma : ℕ × ℕ) (serial : ℕ) : Option H264Buffer :=
  match buffer.engineBuffer with
  | some .encH264 => some (bufferSetup s.node.formatPicture dma.1 dma.2 serial)
  | _ => none

/-- Memory is allocated, where the allocator can have it. -/
def withPictures (s : State) (pictures : Pictures) (count : ℕ) : Option State :=
  if Allocated pictures then some { s with pictures, nextSerial := s.nextSerial + count } else none

/-- `VIDIOC_REQBUFS` of the picture queue: unless it streams, its slots are freed, and there are new ones. -/
def reqbufsPicture (s : State) (memory : Memory) (count allocated : ℕ) (dmas : List (ℕ × ℕ)) : Option State :=
  let node := s.node.reqbufs .picture memory count allocated
  if s.node.picture.streaming then some (s.withNode node)
  else if dmas.length = node.picture.buffers.length then
    let slots := node.picture.buffers.zip (dmas.zipIdx s.nextSerial)
    (s.withNode node).withPictures (slots.map fun slot => s.slotSetup slot.1 slot.2.1 slot.2.2) dmas.length
  else none

/-- `VIDIOC_QBUF` of the picture queue: another dma-buf takes the place of the one in the slot, or is refused. -/
def qbufPicture (s : State) (index : ℕ) (dmabuf : DmaBuf) (dma : ℕ × ℕ) : Option State :=
  let node := s.node.qbuf .picture index dmabuf
  match s.node.picture.buffers[index]?, node.picture.buffers[index]? with
  | some before, some after =>
      if after = before then some (s.withNode node)
      else (s.withNode node).withPictures (s.pictures.set index (s.slotSetup after dma s.nextSerial)) 1
  | _, _ => some (s.withNode node)

/-- `VIDIOC_STREAMON` of the coded queue, which starts the engine in a context of zeroes. -/
def streamOnCoded (s : State) (started : Bool) : Option State :=
  let node := s.node.streamOn .coded started
  let start : Bool := !s.node.coded.streaming && node.coded.streaming && s.node.engine = .encH264
  if start then
    (H264.step s.file (.streamOn s.node.formatPicture.width s.node.formatPicture.height)).map fun file =>
      { s with node, file, recLastDma := 0, recLastLumaSize := 0, subpixLastDma := 0 }
  else some (s.withNode node)

/-- The engine buffer of the picture buffer of the job. -/
def jobPicture (s : State) : Option H264Buffer := s.node.picture.ready.head?.bind fun index => s.pictures[index]?.join

/-- The reference memory in `cedrus_enc_h264_job_configure`. -/
def jobConfigure (s : State) (job : Job) (buffer : H264Buffer) : State :=
  let predicted : Bool := job.frameType = .p
  let addr := if predicted then s.recLastDma else buffer.recDma
  let lumaSize := if predicted then s.recLastLumaSize else buffer.recLumaSize
  let subpixLastDma := if s.subpixLastDma = 0 then buffer.subpixDma else s.subpixLastDma
  { s with
    addresses :=
      { recY := buffer.recDma
        recC := buffer.recDma + buffer.recLumaSize
        ref0Y := addr
        ref0C := addr + lumaSize
        subpixNew := buffer.subpixDma
        subpixLast := subpixLastDma }
    recLastDma := buffer.recDma
    recLastLumaSize := buffer.recLumaSize
    subpixLastDma := buffer.subpixDma }

/-- A job, a control write, or `S_SELECTION` and `S_PARM`. A job does not get further without the engine
buffer of its picture buffer. -/
def fileStep (s : State) (event : H264.Event) : Option State :=
  match event with
  | .streamOn _ _ | .streamOff => none
  | .jobPrepare => if s.node.JobReady then (H264.step s.file event).map ({ s with file := · }) else none
  | .setInput input =>
      let selectionPicture := ⟨input.left.toNat, input.top.toNat, input.width.toNat, input.height.toNat⟩
      (H264.step s.file event).map ({ s with file := ·, node := { s.node with selectionPicture } })
  | .program =>
      match s.file.phase, s.jobPicture with
      | .sliced job, some buffer => (H264.step s.file event).map ({ s.jobConfigure job buffer with file := · })
      | _, _ => none
  | .formatConfigure false | .jobFinish _ =>
      (H264.step s.file event).map ({ s with file := ·, node := s.node.jobDone false })
  | .formatConfigure true | .writeCtrl _ _ | .writeDone | .forceKeyFrame | .headerCase | .headerStep =>
      (H264.step s.file event).map ({ s with file := · })

end State

inductive Event where
  | sFmt (type : BufferType) (request : PixFormat)
  | reqbufs (type : BufferType) (memory : Memory) (count allocated : ℕ) (dmas : List (ℕ × ℕ))
  | qbuf (type : BufferType) (index : ℕ) (dmabuf : DmaBuf) (dma : ℕ × ℕ)
  | streamOn (type : BufferType) (started : Bool)
  | streamOff (type : BufferType)
  /-- A job of the other engine. -/
  | jpegJob
  | file (event : H264.Event)

/-- An event that waits for a control write to end. -/
def State.ioctl (s : State) : Event → Option State
  | .sFmt type request => some (s.withNode (s.node.sFmt type request).1)
  | .reqbufs type memory count allocated dmas =>
      match s.node.proc.formatType type with
      | .coded => some (s.withNode (s.node.reqbufs .coded memory count allocated))
      | .picture => s.reqbufsPicture memory count allocated dmas
  | .qbuf type index dmabuf dma =>
      match s.node.proc.formatType type with
      | .coded => some (s.withNode (s.node.qbuf .coded index dmabuf))
      | .picture => s.qbufPicture index dmabuf dma
  | .streamOn type started =>
      match s.node.proc.formatType type with
      | .coded => s.streamOnCoded started
      | .picture => some (s.withNode (s.node.streamOn .picture started))
  | .streamOff type =>
      match s.file.phase, s.node.proc.formatType type with
      | .idle, .coded => (H264.step s.file .streamOff).map ({ s with file := ·, node := s.node.streamOff .coded })
      | .idle, .picture => some (s.withNode (s.node.streamOff .picture))
      | _, _ => none
  | .jpegJob => if s.node.engine = .encJpeg ∧ s.node.JobReady then some (s.withNode (s.node.jobDone false)) else none
  | .file _ => none

def step (s : State) : Event → Option State
  | .file event => s.fileStep event
  | event =>
      match s.file.writing with
      | none => s.ioctl event
      | some _ => none

/-- A file that was just opened. -/
def State.opened (node : Formats.State) : State := ({ node } : State).withNode node

end H618Vpu.Encoder
