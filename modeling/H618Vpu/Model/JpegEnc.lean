import H618Vpu.Model.Queues

/-! # The JPEG encoder

The hardware writes entropy-coded data only. The driver puts the header before it when user space dequeues the
buffer: a job that is done leaves its quantisation tables with the coded buffer, and `buf_finish` reads them
there, but the size from the picture format. A file is as in `Queues`, with the buffers that are done and not
yet dequeued. Ioctls and control writes hold the lock of the node, which `job_prepare` takes too, so each is
one event.
-/

namespace H618Vpu.Jpeg

open Formats (BufferType Memory DmaBuf PixFormat)

/-- `cedrus_jpeg_luma_quant_base` -/
def lumaQuantBase : List ℕ :=
  [0x10, 0x0b, 0x0a, 0x10, 0x18, 0x28, 0x33, 0x3d, 0x0c, 0x0c, 0x0e, 0x13, 0x1a, 0x3a, 0x3c, 0x37,
    0x0e, 0x0d, 0x10, 0x18, 0x28, 0x39, 0x45, 0x38, 0x0e, 0x11, 0x16, 0x1d, 0x33, 0x57, 0x50, 0x3e,
    0x12, 0x16, 0x25, 0x38, 0x44, 0x6d, 0x67, 0x4d, 0x18, 0x23, 0x37, 0x40, 0x51, 0x68, 0x71, 0x5c,
    0x31, 0x40, 0x4e, 0x57, 0x67, 0x79, 0x78, 0x65, 0x48, 0x5c, 0x5f, 0x62, 0x70, 0x64, 0x67, 0x63]

/-- `cedrus_jpeg_chroma_quant_base` -/
def chromaQuantBase : List ℕ :=
  [0x11, 0x12, 0x18, 0x2f, 0x63, 0x63, 0x63, 0x63, 0x12, 0x15, 0x1a, 0x42, 0x63, 0x63, 0x63, 0x63,
    0x18, 0x1a, 0x38, 0x63, 0x63, 0x63, 0x63, 0x63, 0x2f, 0x42, 0x63, 0x63, 0x63, 0x63, 0x63, 0x63,
    0x63, 0x63, 0x63, 0x63, 0x63, 0x63, 0x63, 0x63, 0x63, 0x63, 0x63, 0x63, 0x63, 0x63, 0x63, 0x63,
    0x63, 0x63, 0x63, 0x63, 0x63, 0x63, 0x63, 0x63, 0x63, 0x63, 0x63, 0x63, 0x63, 0x63, 0x63, 0x63]

/-- `cedrus_jpeg_zigzag` -/
def zigzag : List ℕ :=
  [0x00, 0x01, 0x08, 0x10, 0x09, 0x02, 0x03, 0x0a, 0x11, 0x18, 0x20, 0x19, 0x12, 0x0b, 0x04, 0x05,
    0x0c, 0x13, 0x1a, 0x21, 0x28, 0x30, 0x29, 0x22, 0x1b, 0x14, 0x0d, 0x06, 0x07, 0x0e, 0x15, 0x1c,
    0x23, 0x2a, 0x31, 0x38, 0x39, 0x32, 0x2b, 0x24, 0x1d, 0x16, 0x0f, 0x17, 0x1e, 0x25, 0x2c, 0x33,
    0x3a, 0x3b, 0x34, 0x2d, 0x26, 0x1f, 0x27, 0x2e, 0x35, 0x3c, 0x3d, 0x36, 0x2f, 0x37, 0x3e, 0x3f]

/-- `cedrus_jpeg_dht` -/
def dht : List UInt8 :=
  [0xff, 0xc4, 0x00, 0x1f, 0x00, 0x00, 0x01, 0x05, 0x01, 0x01, 0x01, 0x01, 0x01, 0x01, 0x00, 0x00, 0x00, 0x00,
    0x00, 0x00, 0x00, 0x00, 0x01, 0x02, 0x03, 0x04, 0x05, 0x06, 0x07, 0x08, 0x09, 0x0a, 0x0b, 0xff, 0xc4, 0x00,
    0xb5, 0x10, 0x00, 0x02, 0x01, 0x03, 0x03, 0x02, 0x04, 0x03, 0x05, 0x05, 0x04, 0x04, 0x00, 0x00, 0x01, 0x7d,
    0x01, 0x02, 0x03, 0x00, 0x04, 0x11, 0x05, 0x12, 0x21, 0x31, 0x41, 0x06, 0x13, 0x51, 0x61, 0x07, 0x22, 0x71,
    0x14, 0x32, 0x81, 0x91, 0xa1, 0x08, 0x23, 0x42, 0xb1, 0xc1, 0x15, 0x52, 0xd1, 0xf0, 0x24, 0x33, 0x62, 0x72,
    0x82, 0x09, 0x0a, 0x16, 0x17, 0x18, 0x19, 0x1a, 0x25, 0x26, 0x27, 0x28, 0x29, 0x2a, 0x34, 0x35, 0x36, 0x37,
    0x38, 0x39, 0x3a, 0x43, 0x44, 0x45, 0x46, 0x47, 0x48, 0x49, 0x4a, 0x53, 0x54, 0x55, 0x56, 0x57, 0x58, 0x59,
    0x5a, 0x63, 0x64, 0x65, 0x66, 0x67, 0x68, 0x69, 0x6a, 0x73, 0x74, 0x75, 0x76, 0x77, 0x78, 0x79, 0x7a, 0x83,
    0x84, 0x85, 0x86, 0x87, 0x88, 0x89, 0x8a, 0x92, 0x93, 0x94, 0x95, 0x96, 0x97, 0x98, 0x99, 0x9a, 0xa2, 0xa3,
    0xa4, 0xa5, 0xa6, 0xa7, 0xa8, 0xa9, 0xaa, 0xb2, 0xb3, 0xb4, 0xb5, 0xb6, 0xb7, 0xb8, 0xb9, 0xba, 0xc2, 0xc3,
    0xc4, 0xc5, 0xc6, 0xc7, 0xc8, 0xc9, 0xca, 0xd2, 0xd3, 0xd4, 0xd5, 0xd6, 0xd7, 0xd8, 0xd9, 0xda, 0xe1, 0xe2,
    0xe3, 0xe4, 0xe5, 0xe6, 0xe7, 0xe8, 0xe9, 0xea, 0xf1, 0xf2, 0xf3, 0xf4, 0xf5, 0xf6, 0xf7, 0xf8, 0xf9, 0xfa,
    0xff, 0xc4, 0x00, 0x1f, 0x01, 0x00, 0x03, 0x01, 0x01, 0x01, 0x01, 0x01, 0x01, 0x01, 0x01, 0x01, 0x00, 0x00,
    0x00, 0x00, 0x00, 0x00, 0x01, 0x02, 0x03, 0x04, 0x05, 0x06, 0x07, 0x08, 0x09, 0x0a, 0x0b, 0xff, 0xc4, 0x00,
    0xb5, 0x11, 0x00, 0x02, 0x01, 0x02, 0x04, 0x04, 0x03, 0x04, 0x07, 0x05, 0x04, 0x04, 0x00, 0x01, 0x02, 0x77,
    0x00, 0x01, 0x02, 0x03, 0x11, 0x04, 0x05, 0x21, 0x31, 0x06, 0x12, 0x41, 0x51, 0x07, 0x61, 0x71, 0x13, 0x22,
    0x32, 0x81, 0x08, 0x14, 0x42, 0x91, 0xa1, 0xb1, 0xc1, 0x09, 0x23, 0x33, 0x52, 0xf0, 0x15, 0x62, 0x72, 0xd1,
    0x0a, 0x16, 0x24, 0x34, 0xe1, 0x25, 0xf1, 0x17, 0x18, 0x19, 0x1a, 0x26, 0x27, 0x28, 0x29, 0x2a, 0x35, 0x36,
    0x37, 0x38, 0x39, 0x3a, 0x43, 0x44, 0x45, 0x46, 0x47, 0x48, 0x49, 0x4a, 0x53, 0x54, 0x55, 0x56, 0x57, 0x58,
    0x59, 0x5a, 0x63, 0x64, 0x65, 0x66, 0x67, 0x68, 0x69, 0x6a, 0x73, 0x74, 0x75, 0x76, 0x77, 0x78, 0x79, 0x7a,
    0x82, 0x83, 0x84, 0x85, 0x86, 0x87, 0x88, 0x89, 0x8a, 0x92, 0x93, 0x94, 0x95, 0x96, 0x97, 0x98, 0x99, 0x9a,
    0xa2, 0xa3, 0xa4, 0xa5, 0xa6, 0xa7, 0xa8, 0xa9, 0xaa, 0xb2, 0xb3, 0xb4, 0xb5, 0xb6, 0xb7, 0xb8, 0xb9, 0xba,
    0xc2, 0xc3, 0xc4, 0xc5, 0xc6, 0xc7, 0xc8, 0xc9, 0xca, 0xd2, 0xd3, 0xd4, 0xd5, 0xd6, 0xd7, 0xd8, 0xd9, 0xda,
    0xe2, 0xe3, 0xe4, 0xe5, 0xe6, 0xe7, 0xe8, 0xe9, 0xea, 0xf2, 0xf3, 0xf4, 0xf5, 0xf6, 0xf7, 0xf8, 0xf9, 0xfa]

/-- The 64 bytes of a quantisation table, by rows. -/
abbrev Table := ℕ → UInt8

/-- `quant[2][64]` -/
structure Quant where
  luma : Table
  chroma : Table

/-- `struct cedrus_enc_jpeg_job` -/
structure Job where
  quality : ℕ
  quant : Quant
  headerSize : ℕ := 0

/-- `struct cedrus_enc_jpeg_buffer` -/
structure Buffer where
  quant : Quant := ⟨fun _ => 0, fun _ => 0⟩
  headerSize : ℕ := 0

/-- `CEDRUS_ENC_JPEG_HEADER_SIZE` -/
def headerSize : ℕ := 623

/-- `clamp_t(unsigned int, …, 1, 100)` -/
def clampQuality (quality : ℤ) : ℕ := max 1 (min 100 (quality % 2 ^ 32).toNat)

/-- An entry of a table, scaled and clamped to a byte. -/
def scaleQuant (base scale : ℕ) : UInt8 := .ofNat (max 1 (min 255 ((base * scale + 50) / 100)))

/-- `cedrus_enc_jpeg_job_prepare` -/
def jobPrepare (quality : ℤ) : Job :=
  let quality := clampQuality quality
  let scale := if quality < 50 then 5000 / quality else 200 - 2 * quality
  { quality
    quant :=
      { luma := fun i => scaleQuant (lumaQuantBase.getD i 0) scale
        chroma := fun i => scaleQuant (chromaQuantBase.getD i 0) scale } }

def enospc : ℤ := -28

/-- `cedrus_enc_jpeg_put_array`; bytes past the room that was made are an error. -/
def putArray (size : ℕ) (data bytes : List UInt8) : Except ℤ (List UInt8) :=
  if data.length + bytes.length ≤ size then .ok (data ++ bytes) else .error enospc

/-- `cedrus_enc_jpeg_put_u16` -/
def putU16 (size : ℕ) (data : List UInt8) (value : ℕ) : Except ℤ (List UInt8) := do
  let data ← putArray size data [.ofNat (value / 256)]
  putArray size data [.ofNat value]

/-- A turn of the loop over the tables in `cedrus_enc_jpeg_put_header`. -/
def putTable (size : ℕ) (data : List UInt8) (id : UInt8) (table : Table) : Except ℤ (List UInt8) := do
  let data ← putArray size data [0xff, 0xdb, 0x00, 0x43]
  let data ← putArray size data [id]
  putArray size data (zigzag.map table)

/-- `cedrus_enc_jpeg_put_header` -/
def putHeader (size : ℕ) (format : PixFormat) (quant : Quant) : Except ℤ (List UInt8) := do
  -- SOI and APP0
  let data ← putArray size []
    [0xff, 0xd8, 0xff, 0xe0, 0x00, 0x10, 0x4a, 0x46, 0x49, 0x46, 0x00, 0x01, 0x01, 0x00, 0x00, 0x01, 0x00, 0x01, 0x00,
      0x00]
  let data ← putTable size data 0 quant.luma
  let data ← putTable size data 1 quant.chroma
  -- SOF0
  let data ← putArray size data [0xff, 0xc0, 0x00, 0x11, 0x08]
  let data ← putU16 size data format.height
  let data ← putU16 size data format.width
  let data ← putArray size data [0x03, 0x01, 0x22, 0x00, 0x02, 0x11, 0x01, 0x03, 0x11, 0x01]
  let data ← putArray size data dht
  putArray size data [0xff, 0xda, 0x00, 0x0c, 0x03, 0x01, 0x00, 0x02, 0x11, 0x03, 0x11, 0x00, 0x3f, 0x00]

/-- What the registers of a job said when the hardware encoded its payload. -/
structure Encoded where
  width : ℕ
  height : ℕ
  quant : Quant

inductive Phase where
  | idle
  | prepared (job : Job)
  | running (job : Job) (encoded : Encoded)

/-- A coded buffer that is done: its slot, whether its state is `VB2_BUF_STATE_DONE` and its flags are without
`V4L2_BUF_FLAG_ERROR`, its payload in bytes, and the hardware's part in it. -/
structure Done where
  slot : ℕ
  state : Bool
  error : Bool
  length : ℕ
  encoded : Encoded

/-- What user space has dequeued: the bytes before the entropy-coded data, and what they were encoded with. -/
structure Image where
  header : List UInt8
  encoded : Encoded

/-- One open encoder file: its queues and formats, the quality and what the engine latched of it while it
streams, the job, the private data of the coded slots, the buffers that are done, and the images that were
dequeued. -/
structure State where
  node : Formats.State
  quality : ℤ := 90
  latched : Option ℤ := none
  phase : Phase := .idle
  buffers : ℕ → Buffer := fun _ => {}
  done : List Done := []
  images : List Image := []

namespace State

/-- The coded buffer of the job, with its number. -/
def jobBuffer (s : State) : Option (ℕ × Formats.Buffer) :=
  s.node.coded.ready.head?.bind fun slot => s.node.coded.buffers[slot]?.map (slot, ·)

/-- `v4l2_m2m_buf_done_and_job_finish` -/
def finish (s : State) (done : Done) : State :=
  { s with node := s.node.jobDone false, phase := .idle, done := s.done ++ [done] }

/-- A job that could not be configured. -/
def fail (s : State) (slot : ℕ) (encoded : Encoded) : State :=
  s.finish { slot, state := false, error := false, length := 0, encoded }

/-- `cedrus_enc_jpeg_job_configure`; `ok` is whether the formats could be configured, on a device with the
shifted addresses. -/
def jobConfigure (s : State) (job : Job) (slot : ℕ) (buffer : Formats.Buffer) (ok : Bool) : State :=
  let encoded := ⟨s.node.formatPicture.width, s.node.formatPicture.height, job.quant⟩
  if !ok ∨ buffer.planeSize < headerSize + 1024 ∨ (2 ^ 32 - 1) / 8 < buffer.planeSize then s.fail slot encoded
  else { s with phase := .running { job with headerSize } encoded }

/-- `cedrus_enc_jpeg_job_finish`, of a job whose length register says `bits`. -/
def jobFinish (s : State) (job : Job) (encoded : Encoded) (slot : ℕ) (buffer : Formats.Buffer) (state : Bool)
    (bits : ℕ) : State :=
  if !state ∨ buffer.engineBuffer = none then s.finish { slot, state, error := false, length := 0, encoded }
  else
    let s := { s with buffers := Function.update s.buffers slot { quant := job.quant, headerSize := job.headerSize } }
    if bits % 8 ≠ 0 ∨ buffer.planeSize - job.headerSize - 2 < bits / 8 then
      s.finish { slot, state, error := true, length := 0, encoded }
    else s.finish { slot, state, error := false, length := bits / 8, encoded }

/-- `cedrus_enc_jpeg_buffer_finish`: the header that is put before the payload, or `none` if the buffer is
returned with an error. -/
def bufferFinish (s : State) (done : Done) : Option (List UInt8) :=
  match s.node.coded.buffers[done.slot]? with
  | none => none
  | some buffer =>
      let jpegBuffer := s.buffers done.slot
      if !done.state ∨ done.error then none
      else if buffer.engineBuffer = none ∨ jpegBuffer.headerSize ≠ headerSize then some []
      else if buffer.planeSize - jpegBuffer.headerSize - 2 < done.length then none
      else
        match putHeader jpegBuffer.headerSize s.node.formatPicture jpegBuffer.quant with
        | .error _ => none
        | .ok header => if header.length ≠ jpegBuffer.headerSize then none else some header

/-- `VIDIOC_DQBUF` of the coded queue; the engine of the time finishes the buffer. -/
def dqbuf (s : State) : Option State :=
  match s.done with
  | [] => none
  | done :: rest =>
      let header := if s.node.engine = .encJpeg then s.bufferFinish done else some []
      some { s with done := rest, images := s.images ++ (header.map (Image.mk · done.encoded)).toList }

end State

inductive Event where
  | sFmt (type : BufferType) (request : PixFormat)
  | reqbufs (type : BufferType) (memory : Memory) (count allocated : ℕ)
  | qbuf (type : BufferType) (index : ℕ) (dmabuf : DmaBuf)
  | streamOn (type : BufferType) (started : Bool)
  | streamOff (type : BufferType)
  | dqbuf
  /-- A write of `V4L2_CID_JPEG_COMPRESSION_QUALITY`. -/
  | setQuality (quality : ℤ)
  | jobPrepare
  | jobConfigure (ok : Bool)
  | jobFinish (state : Bool) (bits : ℕ)
  /-- A job of the other engine, whose buffers get no header. -/
  | h264Job

/-- `VIDIOC_STREAMON`; the engine latches the quality when the coded queue starts. -/
def State.streamOn (s : State) (type : BufferType) (started : Bool) : State :=
  let node := s.node.streamOn (s.node.proc.formatType type) started
  let start : Bool := !s.node.coded.streaming && node.coded.streaming && s.node.engine = .encJpeg
  { s with node, latched := if start then some s.quality else s.latched }

/-- `VIDIOC_STREAMOFF`, once no job runs; vb2 takes back what is done. -/
def State.streamOff (s : State) (type : BufferType) : State :=
  let node := s.node.streamOff (s.node.proc.formatType type)
  match s.node.proc.formatType type with
  | .coded => { s with node, latched := none, done := [] }
  | .picture => { s with node }

/-- A slot that is done is not dequeued yet, so vb2 does not queue it. -/
def State.qbuf (s : State) (type : BufferType) (index : ℕ) (dmabuf : DmaBuf) : State :=
  if s.node.proc.formatType type = .coded ∧ index ∈ s.done.map Done.slot then s
  else { s with node := s.node.qbuf (s.node.proc.formatType type) index dmabuf }

/-- `S_CTRL`: the framework clamps the value, and the handler is called before the control has a new one. -/
def State.setQuality (s : State) (quality : ℤ) : State :=
  let quality := max 1 (min 100 quality)
  if quality = s.quality then s else { s with quality, latched := s.latched.map fun _ => s.quality }

def step (s : State) : Event → Option State
  | .sFmt type request => some { s with node := (s.node.sFmt type request).1 }
  | .reqbufs type memory count allocated =>
      some { s with node := s.node.reqbufs (s.node.proc.formatType type) memory count allocated }
  | .qbuf type index dmabuf => some (s.qbuf type index dmabuf)
  | .streamOn type started => some (s.streamOn type started)
  | .streamOff type =>
      match s.phase with
      | .idle => some (s.streamOff type)
      | _ => none
  | .dqbuf => s.dqbuf
  | .setQuality quality => some (s.setQuality quality)
  | .jobPrepare =>
      match s.phase, s.latched with
      | .idle, some quality => if s.node.JobReady then some { s with phase := .prepared (jobPrepare quality) } else none
      | _, _ => none
  | .jobConfigure ok =>
      match s.phase, s.jobBuffer with
      | .prepared job, some (slot, buffer) => some (s.jobConfigure job slot buffer ok)
      | _, _ => none
  | .jobFinish state bits =>
      match s.phase, s.jobBuffer with
      | .running job encoded, some (slot, buffer) => some (s.jobFinish job encoded slot buffer state bits)
      | _, _ => none
  | .h264Job =>
      if s.node.engine = .encH264 ∧ s.node.JobReady then some { s with node := s.node.jobDone false } else none

end H618Vpu.Jpeg
