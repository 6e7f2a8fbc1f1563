import H618Vpu.Model.JpegEnc
import H618Vpu.Soundness.CodedSlots
import H618Vpu.Spec.JpegSegments

/-! # The headers of dequeued images

The quantisation tables of a job wait with its coded buffer until user space dequeues it; the size is read
from the picture format then. Meanwhile the job is over, and once the picture queue has no buffers an
`S_FMT` can change the format. A header describes its payload if no `S_FMT` changes the size while an image
waits.
-/

namespace H618Vpu.Jpeg

open Formats (BufferType FormatType Memory DmaBuf PixFormat applyFrmsizeConstraints)
open Machine
open Spec.Jpeg (Segment Description readHeader readSegments readTables describe)

/-- A buffer that is done and not in error, so that its payload gets a header. -/
def Done.Good (done : Done) : Prop := done.state = true ∧ done.error = false

instance (done : Done) : Decidable done.Good := inferInstanceAs (Decidable (_ ∧ _))

/-- While a payload waits, an `S_FMT` that is accepted on the picture queue keeps the size. -/
def SizeKept (s : State) : Event → Prop
  | .sFmt type request =>
      (∃ done ∈ s.done, done.Good) → s.node.proc.formatType type = .picture →
        s.node.formatAccepted type request = true →
          applyFrmsizeConstraints request.width request.height s.node.engine.frmsize =
            (s.node.formatPicture.width, s.node.formatPicture.height)
  | _ => True

instance (s : State) (event : Event) : Decidable (SizeKept s event) :=
  match event with
  | .sFmt .. => by
      dsimp only [SizeKept]
      infer_instance
  | .reqbufs .. | .qbuf .. | .streamOn .. | .streamOff _ | .dqbuf | .setQuality _ | .jobPrepare | .jobConfigure _
  | .jobFinish .. | .h264Job => instDecidableTrue

/-- What the header of a payload has to say. -/
def Encoded.description (encoded : Encoded) : Description where
  width := encoded.width
  height := encoded.height
  tables := [(0, Spec.Jpeg.zigzag.map encoded.quant.luma), (1, Spec.Jpeg.zigzag.map encoded.quant.chroma)]

/-- A decoder reads the size and the tables that the payload was encoded with. -/
def Image.Described (image : Image) : Prop :=
  ∃ segments, readHeader image.header = some (segments, []) ∧ describe segments = some image.encoded.description

/-- The JFIF segment. -/
def appSegment : Segment :=
  ⟨0xe0, [0x4a, 0x46, 0x49, 0x46, 0x00, 0x01, 0x01, 0x00, 0x00, 0x01, 0x00, 0x01, 0x00, 0x00]⟩

/-- The segment of a table. -/
def tableSegment (id : UInt8) (table : Table) : Segment := ⟨0xdb, id :: zigzag.map table⟩

/-- The frame header: precision, size and three components. -/
def frameSegment (width height : ℕ) : Segment :=
  ⟨0xc0, [0x08] ++ Spec.Jpeg.wordBytes height ++ Spec.Jpeg.wordBytes width ++
    [0x03, 0x01, 0x22, 0x00, 0x02, 0x11, 0x01, 0x03, 0x11, 0x01]⟩

/-- The Huffman tables, a segment each. -/
def dhtSegments : List Segment :=
  [⟨0xc4, (dht.drop 4).take 29⟩, ⟨0xc4, (dht.drop 37).take 179⟩, ⟨0xc4, (dht.drop 220).take 29⟩,
    ⟨0xc4, (dht.drop 253).take 179⟩]

def scanSegment : Segment := ⟨0xda, [0x03, 0x01, 0x00, 0x02, 0x11, 0x03, 0x11, 0x00, 0x3f, 0x00]⟩

/-- The segments before the scan. -/
def segments (width height : ℕ) (quant : Quant) : List Segment :=
  [appSegment, tableSegment 0 quant.luma, tableSegment 1 quant.chroma, frameSegment width height] ++ dhtSegments

theorem zigzag_eq : zigzag = Spec.Jpeg.zigzag := by decide

theorem zigzag_length (table : Table) : (zigzag.map table).length = 64 := rfl

theorem dht_segments : dht = dhtSegments.flatMap Segment.bytes := by decide +kernel

theorem dht_length : dht.length = 432 := by decide +kernel

/-- Two arrays are put like one. -/
theorem putArray_append (size : ℕ) (data first second : List UInt8) :
    (putArray size data first >>= (putArray size · second)) = putArray size data (first ++ second) := by
  by_cases room : data.length + first.length ≤ size
  · rw [putArray, if_pos room]
    change putArray size (data ++ first) second = _
    simp only [putArray, List.length_append, List.append_assoc, Nat.add_assoc]
  · have full : ¬ data.length + (first ++ second).length ≤ size := by
      rw [List.length_append]
      omega
    rw [putArray, if_neg room, putArray, if_neg full]
    rfl

theorem putU16_eq (size : ℕ) (data : List UInt8) (value : ℕ) :
    putU16 size data value = putArray size data (Spec.Jpeg.wordBytes value) :=
  putArray_append ..

theorem tableSegment_bytes (id : UInt8) (table : Table) :
    (tableSegment id table).bytes = [0xff, 0xdb, 0x00, 0x43] ++ ([id] ++ zigzag.map table) := by
  simp only [Segment.bytes, tableSegment, Segment.length, List.length_cons, zigzag_length, Spec.Jpeg.wordBytes]
  rfl

theorem putTable_eq (size : ℕ) (data : List UInt8) (id : UInt8) (table : Table) :
    putTable size data id table = putArray size data (tableSegment id table).bytes := by
  simp only [putTable, putArray_append, tableSegment_bytes]

theorem frameSegment_bytes (width height : ℕ) :
    (frameSegment width height).bytes = [0xff, 0xc0, 0x00, 0x11, 0x08] ++ (Spec.Jpeg.wordBytes height ++
      (Spec.Jpeg.wordBytes width ++ [0x03, 0x01, 0x22, 0x00, 0x02, 0x11, 0x01, 0x03, 0x11, 0x01])) := by
  have length : (frameSegment width height).length = 17 := rfl
  rw [Segment.bytes, length]
  rfl

/-- The header as it is put. -/
def headerBytes (width height : ℕ) (quant : Quant) : List UInt8 :=
  Spec.Jpeg.startOfImage ++ ((segments width height quant).flatMap Segment.bytes ++ scanSegment.bytes)

theorem headerBytes_length (width height : ℕ) (quant : Quant) :
    (headerBytes width height quant).length = headerSize := by
  have app : appSegment.bytes.length = 18 := by decide
  have scan : scanSegment.bytes.length = 14 := by decide
  have table (id : UInt8) (table : Table) : (tableSegment id table).bytes.length = 69 := by
    rw [tableSegment_bytes, List.length_append, List.length_append, zigzag_length]
    rfl
  simp only [headerBytes, segments, List.flatMap_append, List.flatMap_cons, List.flatMap_nil, List.length_append,
    ← dht_segments, dht_length, table, frameSegment_bytes, app, scan, Spec.Jpeg.wordBytes, Spec.Jpeg.startOfImage,
    List.length_cons, List.length_nil, headerSize]

/-- The header is put like one array. -/
theorem putHeader_eq_putArray (size : ℕ) (format : PixFormat) (quant : Quant) :
    putHeader size format quant = putArray size [] (headerBytes format.width format.height quant) := by
  have app : [0xff, 0xd8, 0xff, 0xe0, 0x00, 0x10, 0x4a, 0x46, 0x49, 0x46, 0x00, 0x01, 0x01, 0x00, 0x00, 0x01, 0x00,
      0x01, 0x00, 0x00] = Spec.Jpeg.startOfImage ++ appSegment.bytes := by decide
  have scan : [0xff, 0xda, 0x00, 0x0c, 0x03, 0x01, 0x00, 0x02, 0x11, 0x03, 0x11, 0x00, 0x3f, 0x00] =
      scanSegment.bytes := by decide
  rw [putHeader, app, scan]
  simp only [putTable_eq, putU16_eq, putArray_append, List.append_assoc]
  simp only [headerBytes, segments, List.flatMap_append, ← dht_segments, List.flatMap_cons, List.flatMap_nil,
    List.append_nil, frameSegment_bytes, List.append_assoc]

/-- The header is put in the room made for it. -/
theorem putHeader_ok (format : PixFormat) (quant : Quant) :
    putHeader headerSize format quant = .ok (headerBytes format.width format.height quant) := by
  rw [putHeader_eq_putArray, putArray, List.length_nil, Nat.zero_add, headerBytes_length, if_pos le_rfl,
    List.nil_append]

/-- Before the scan, every segment is short and none starts the scan. -/
theorem segments_short (width height : ℕ) (quant : Quant) :
    ∀ segment ∈ segments width height quant, segment.length < 2 ^ 16 ∧ segment.marker ≠ Spec.Jpeg.startOfScan := by
  have dht : ∀ segment ∈ dhtSegments, segment.length < 2 ^ 16 ∧ segment.marker ≠ Spec.Jpeg.startOfScan := by
    decide +kernel
  have table (id : UInt8) (table : Table) : (tableSegment id table).length < 2 ^ 16 := by
    have length : (tableSegment id table).length = 67 := rfl
    omega
  have frame : (frameSegment width height).length < 2 ^ 16 := by
    have length : (frameSegment width height).length = 17 := rfl
    omega
  intro segment member
  rcases List.mem_append.mp member with first | last
  · simp only [List.mem_cons, List.not_mem_nil, or_false] at first
    rcases first with rfl | rfl | rfl | rfl
    · exact ⟨by decide, by decide⟩
    · exact ⟨table .., (by decide : (0xdb : UInt8) ≠ 0xda)⟩
    · exact ⟨table .., (by decide : (0xdb : UInt8) ≠ 0xda)⟩
    · exact ⟨frame, (by decide : (0xc0 : UInt8) ≠ 0xda)⟩
  · exact dht segment last

theorem describe_segments {width height : ℕ} (quant : Quant) (small : width < 2 ^ 16 ∧ height < 2 ^ 16) :
    describe (segments width height quant ++ [scanSegment]) = some (Encoded.description ⟨width, height, quant⟩) := by
  have found : describe (segments width height quant ++ [scanSegment]) = some
      { width := Spec.Jpeg.word (.ofNat (width / 256)) (.ofNat width)
        height := Spec.Jpeg.word (.ofNat (height / 256)) (.ofNat height)
        tables := [(0, zigzag.map quant.luma), (1, zigzag.map quant.chroma)] } := rfl
  rw [found, Spec.Jpeg.word_wordBytes small.1, Spec.Jpeg.word_wordBytes small.2, zigzag_eq]
  rfl

/-- A decoder reads the segments of a header, and stops behind it. -/
theorem readHeader_headerBytes (width height : ℕ) (quant : Quant) (rest : List UInt8) :
    readHeader (headerBytes width height quant ++ rest) =
      some (segments width height quant ++ [scanSegment], rest) := by
  have scan : scanSegment.length < 2 ^ 16 := by decide
  have length := headerBytes_length width height quant
  rw [headerBytes, List.length_append] at length
  have body : 621 = ((segments width height quant).flatMap Segment.bytes ++ scanSegment.bytes).length :=
    (Nat.add_left_cancel (n := 2) length).symm
  have enough : (segments width height quant).length <
      ((segments width height quant).flatMap Segment.bytes ++ (scanSegment.bytes ++ rest)).length := by
    rw [← List.append_assoc, List.length_append, ← body]
    exact (by decide : 8 < 621).trans_le (Nat.le_add_right _ _)
  rw [headerBytes, List.append_assoc, List.append_assoc]
  exact Spec.Jpeg.readSegments_bytes scan rfl (segments_short width height quant) rest enough

/-- A decoder reads the size and the tables of a header. -/
theorem headerBytes_described {width height : ℕ} (quant : Quant) (small : width < 2 ^ 16 ∧ height < 2 ^ 16) :
    Image.Described ⟨headerBytes width height quant, ⟨width, height, quant⟩⟩ := by
  have read := readHeader_headerBytes width height quant []
  rw [List.append_nil] at read
  exact ⟨_, read, describe_segments quant small⟩

/-- The sizes of the engines fit in 16 bits. -/
theorem admits_small {engine : Formats.Engine} {width height : ℕ} (admitted : engine.frmsize.Admits width height) :
    width < 2 ^ 16 ∧ height < 2 ^ 16 := by
  obtain ⟨⟨-, width⟩, -, height⟩ := Formats.Engine.admitted_bounds admitted
  exact ⟨width.trans_lt (by decide), height.trans_lt (by decide)⟩

namespace State

/-- A buffer that is done stays off the queue with its memory; its tables and the size it was encoded with are
those that its header would get now. -/
structure Waits (s : State) (done : Done) : Prop where
  latched : s.latched ≠ none
  free : done.slot ∉ s.node.coded.ready
  memory : s.node.HasMemory done.slot
  size : done.Good →
    done.encoded.width = s.node.formatPicture.width ∧ done.encoded.height = s.node.formatPicture.height
  buffer : done.Good → s.buffers done.slot = { quant := done.encoded.quant, headerSize }

/-- The engine is the JPEG encoder while it has latched a quality, and jobs need both queues to stream. -/
structure Tracked (s : State) : Prop where
  role : s.node.proc.role = .encoder
  slotted : s.node.Slotted
  small : s.node.formatPicture.width < 2 ^ 16 ∧ s.node.formatPicture.height < 2 ^ 16
  started : s.latched ≠ none → s.node.coded.streaming = true ∧ s.node.engine = .encJpeg
  busy : s.phase ≠ .idle → s.latched ≠ none ∧ s.node.picture.streaming = true
  running : ∀ job encoded, s.phase = .running job encoded →
    encoded = ⟨s.node.formatPicture.width, s.node.formatPicture.height, job.quant⟩ ∧ job.headerSize = headerSize
  waiting : ∀ done ∈ s.done, s.Waits done
  images : ∀ image ∈ s.images, image.Described

namespace Tracked

variable {s : State}

/-- The queues change, but not for what is encoded or waits. -/
theorem withNode {node : Formats.State} (tracked : s.Tracked) (kept : Formats.FormatsKept s.node node)
    (slotted : node.Slotted) (coded : s.latched ≠ none → node.coded.streaming = true)
    (picture : s.phase ≠ .idle → node.picture.streaming = true)
    (waiting : ∀ done ∈ s.done, done.slot ∉ node.coded.ready ∧ node.HasMemory done.slot) :
    { s with node }.Tracked where
  role := (congrArg Formats.Proc.role kept.proc).trans tracked.role
  slotted := slotted
  small := by
    rw [kept.formatPicture]
    exact tracked.small
  started latched := ⟨coded latched, kept.engine.trans (tracked.started latched).2⟩
  busy active := ⟨(tracked.busy active).1, picture active⟩
  running job encoded phase := by
    rw [kept.formatPicture]
    exact tracked.running job encoded phase
  waiting done member := by
    obtain ⟨free, memory⟩ := waiting done member
    refine { tracked.waiting done member with free, memory, size := fun good => ?_ }
    rw [kept.formatPicture]
    exact (tracked.waiting done member).size good
  images := tracked.images

/-- Slots that are the same on a queue that waits. -/
theorem waiting_same {node : Formats.State} (tracked : s.Tracked)
    (ready : s.latched ≠ none → node.coded.ready = s.node.coded.ready)
    (buffers : s.latched ≠ none → node.coded.buffers = s.node.coded.buffers) :
    ∀ done ∈ s.done, done.slot ∉ node.coded.ready ∧ node.HasMemory done.slot := by
  intro done member
  have waits := tracked.waiting done member
  rw [Formats.State.HasMemory, ready waits.latched, buffers waits.latched]
  exact ⟨waits.free, waits.memory⟩

theorem sFmt (tracked : s.Tracked) (type : BufferType) (request : PixFormat)
    (kept : SizeKept s (.sFmt type request)) : { s with node := (s.node.sFmt type request).1 }.Tracked := by
  obtain ⟨⟨proc, coded, picture⟩, engine, size⟩ := Formats.sFmt_encoder tracked.role type request
  have slotted := tracked.slotted.sFmt tracked.role type request
  -- what streams has buffers, so neither the engine of a job nor its picture format changes
  have started : s.latched ≠ none → (s.node.sFmt type request).1.engine = s.node.engine := fun latched =>
    engine.resolve_right (tracked.slotted.busy .coded (tracked.started latched).1)
  have waits (done : Done) (member : done ∈ s.done) : done.Good →
      (s.node.sFmt type request).1.formatPicture.width = s.node.formatPicture.width ∧
        (s.node.sFmt type request).1.formatPicture.height = s.node.formatPicture.height := by
    intro good
    obtain same | ⟨⟨named, accepted, -⟩, clamped⟩ := size
    · exact ⟨congrArg PixFormat.width same, congrArg PixFormat.height same⟩
    · exact Prod.mk.inj (clamped.trans (kept ⟨done, member, good⟩ named accepted))
  refine ⟨(congrArg Formats.Proc.role proc).trans tracked.role, slotted, ?_, ?_, ?_, ?_, ?_, tracked.images⟩
  · obtain same | ⟨-, clamped⟩ := size
    · rw [same]
      exact tracked.small
    · obtain ⟨width, height⟩ := Prod.mk.inj clamped
      rw [width, height]
      exact admits_small (s.node.engine.clamped_admitted ..)
  · exact fun latched => ⟨coded ▸ (tracked.started latched).1, (started latched).trans (tracked.started latched).2⟩
  · exact fun active => ⟨(tracked.busy active).1, picture ▸ (tracked.busy active).2⟩
  · intro job encoded phase
    have active : s.phase ≠ .idle := by
      rw [show s.phase = .running job encoded from phase]
      nofun
    obtain same | ⟨⟨-, -, empty⟩, -⟩ := size
    · rw [same]
      exact tracked.running job encoded phase
    · exact absurd empty (tracked.slotted.busy .picture (tracked.busy active).2)
  · intro done member
    have before := tracked.waiting done member
    refine { before with free := coded ▸ before.free, memory := ?_, size := fun good => ?_ }
    · rw [Formats.State.HasMemory, coded]
      exact before.memory
    · obtain ⟨width, height⟩ := waits done member good
      rw [width, height]
      exact before.size good

theorem reqbufs (tracked : s.Tracked) (type : Formats.FormatType) (memory : Memory) (count allocated : ℕ) :
    { s with node := s.node.reqbufs type memory count allocated }.Tracked := by
  have coded : s.latched ≠ none → (s.node.reqbufs type memory count allocated).coded = s.node.coded := by
    intro latched
    have streaming : (s.node.queue .coded).streaming = true := (tracked.started latched).1
    cases type with
    | coded => rw [Formats.reqbufs_of_streaming streaming]
    | picture => exact Formats.reqbufs_other (nofun : Formats.FormatType.coded ≠ .picture) ..
  refine tracked.withNode (.reqbufs ..) (tracked.slotted.reqbufs ..) (fun latched => ?_) (fun active => ?_) ?_
  · exact (Formats.reqbufs_streaming .coded ..).trans (tracked.started latched).1
  · exact (Formats.reqbufs_streaming .picture ..).trans (tracked.busy active).2
  · exact tracked.waiting_same (fun latched => by rw [coded latched]) (fun latched => by rw [coded latched])

theorem qbuf (tracked : s.Tracked) (type : BufferType) (index : ℕ) (dmabuf : DmaBuf) :
    (s.qbuf type index dmabuf).Tracked := by
  unfold State.qbuf
  split
  · exact tracked
  case isFalse vacant =>
    refine tracked.withNode (.qbuf ..) (tracked.slotted.qbuf ..) (fun latched => ?_) (fun active => ?_) ?_
    · exact (Formats.qbuf_streaming .coded ..).trans (tracked.started latched).1
    · exact (Formats.qbuf_streaming .picture ..).trans (tracked.busy active).2
    cases named : s.node.proc.formatType type with
    | picture =>
      exact tracked.waiting_same (fun _ => by rw [Formats.qbuf_picture_coded])
        (fun _ => by rw [Formats.qbuf_picture_coded])
    | coded =>
      intro done member
      have waits := tracked.waiting done member
      have other : index ≠ done.slot := fun same =>
        vacant ⟨named, same ▸ List.mem_map_of_mem member⟩
      refine ⟨fun queued => ?_, Formats.State.Slotted.hasMemory_qbuf waits.memory other dmabuf⟩
      rcases Formats.State.Slotted.ready_qbuf queued with old | same
      · exact waits.free old
      · exact other same.symm

theorem streamOn (tracked : s.Tracked) (type : BufferType) (started : Bool) : (s.streamOn type started).Tracked := by
  obtain ⟨streams, buffers, ready⟩ :=
    Formats.streamOn_queue (s := s.node) (s.node.proc.formatType type) .coded started
  obtain ⟨pictures, -, -⟩ :=
    Formats.streamOn_queue (s := s.node) (s.node.proc.formatType type) .picture started
  have node := tracked.withNode (.streamOn s.node (s.node.proc.formatType type) started)
    (tracked.slotted.streamOn started) (fun latched => streams (tracked.started latched).1)
    (fun active => pictures (tracked.busy active).2) (tracked.waiting_same (fun _ => ready) (fun _ => buffers))
  unfold State.streamOn
  dsimp only
  split
  case isFalse => exact node
  case isTrue start =>
    simp only [Bool.and_eq_true, decide_eq_true_eq] at start
    obtain ⟨⟨-, streaming⟩, engine⟩ := start
    have kept := (Formats.FormatsKept.streamOn s.node (s.node.proc.formatType type) started).engine
    exact { node with
      started := fun _ => ⟨streaming, kept.trans engine⟩
      busy := fun active => ⟨nofun, (node.busy active).2⟩
      waiting := fun done member => { node.waiting done member with latched := nofun } }

/-- With no job that runs, a queue may stop; what waits on the coded queue is gone then. -/
theorem streamOff (tracked : s.Tracked) (idle : s.phase = .idle) (type : BufferType) :
    (s.streamOff type).Tracked := by
  have slotted := tracked.slotted.streamOff (s.node.proc.formatType type)
  unfold State.streamOff
  dsimp only
  cases named : s.node.proc.formatType type with
  | coded =>
    rw [named] at slotted
    exact {
      role := tracked.role
      slotted
      small := tracked.small
      started := nofun
      busy := fun active => absurd idle active
      running := tracked.running
      waiting := nofun
      images := tracked.images }
  | picture =>
    rw [named] at slotted
    exact tracked.withNode ⟨rfl, rfl, rfl, rfl⟩ slotted (fun latched => (tracked.started latched).1)
      (fun active => absurd idle active) (tracked.waiting_same (fun _ => rfl) (fun _ => rfl))

theorem setQuality (tracked : s.Tracked) (quality : ℤ) : (s.setQuality quality).Tracked := by
  unfold State.setQuality
  dsimp only
  split
  · exact tracked
  · have latched {value : ℤ} : s.latched.map (fun _ => value) ≠ none ↔ s.latched ≠ none := by
      rw [ne_eq, Option.map_eq_none_iff]
    exact { tracked with
      started := fun set => tracked.started (latched.mp set)
      busy := fun active => ⟨latched.mpr (tracked.busy active).1, (tracked.busy active).2⟩
      waiting := fun done member =>
        { tracked.waiting done member with latched := latched.mpr (tracked.waiting done member).latched } }

/-- A job is over: its slot leaves the head of the queue and waits. -/
theorem finish (tracked : s.Tracked) {buffers : ℕ → Buffer} {done : Done} (latched : s.latched ≠ none)
    (head : s.node.coded.ready.head? = some done.slot) (others : ∀ slot ≠ done.slot, buffers slot = s.buffers slot)
    (size : done.Good →
      done.encoded.width = s.node.formatPicture.width ∧ done.encoded.height = s.node.formatPicture.height)
    (buffer : done.Good → buffers done.slot = { quant := done.encoded.quant, headerSize }) :
    ({ s with buffers }.finish done).Tracked := by
  have ready : s.node.coded.ready = done.slot :: s.node.coded.ready.tail := List.eq_cons_of_mem_head? head
  have nodup := tracked.slotted.nodup
  rw [ready, List.nodup_cons] at nodup
  have queued : done.slot ∈ s.node.coded.ready := ready ▸ List.mem_cons_self
  refine ⟨tracked.role, tracked.slotted.jobDone _, tracked.small, tracked.started, fun active => absurd rfl active,
    nofun, fun other member => ?_, tracked.images⟩
  rcases List.mem_append.mp member with old | new
  · have waits := tracked.waiting other old
    have apart : other.slot ≠ done.slot := (ne_of_mem_of_not_mem queued waits.free).symm
    exact { waits with
      free := fun queued => waits.free (List.mem_of_mem_tail queued)
      buffer := fun good => (others _ apart).trans (waits.buffer good) }
  · obtain rfl := List.mem_singleton.mp new
    exact ⟨latched, nodup.1, tracked.slotted.ready _ queued, size, buffer⟩

/-- A job that fails leaves a buffer without a payload. -/
theorem fail (tracked : s.Tracked) {done : Done} (latched : s.latched ≠ none)
    (head : s.node.coded.ready.head? = some done.slot) (failed : ¬ done.Good) : (s.finish done).Tracked :=
  tracked.finish latched head (fun _ _ => rfl) (fun good => absurd good failed) (fun good => absurd good failed)

/-- The buffer of a job is that of a slot at the head of the queue. -/
theorem head_of_jobBuffer {slot : ℕ} {buffer : Formats.Buffer} (own : s.jobBuffer = some (slot, buffer)) :
    s.node.coded.ready.head? = some slot ∧ s.node.coded.buffers[slot]? = some buffer := by
  rw [jobBuffer, Option.bind_eq_some_iff] at own
  obtain ⟨head, first, found⟩ := own
  obtain ⟨same, present, pair⟩ := Option.map_eq_some_iff.mp found
  obtain ⟨rfl, rfl⟩ := Prod.mk.inj pair
  exact ⟨first, present⟩

theorem jobConfigure (tracked : s.Tracked) {job : Job} {slot : ℕ} {buffer : Formats.Buffer}
    (phase : s.phase = .prepared job) (own : s.jobBuffer = some (slot, buffer)) (ok : Bool) :
    (s.jobConfigure job slot buffer ok).Tracked := by
  have active : s.phase ≠ .idle := phase ▸ nofun
  obtain ⟨latched, streaming⟩ := tracked.busy active
  unfold State.jobConfigure
  dsimp only
  split
  case isTrue => exact tracked.fail latched (head_of_jobBuffer own).1 nofun
  case isFalse =>
    refine { tracked with
      busy := fun _ => ⟨latched, streaming⟩
      running := fun job encoded phase => ?_
      waiting := fun done member => { tracked.waiting done member with } }
    obtain ⟨rfl, rfl⟩ := Phase.running.inj phase
    exact ⟨rfl, rfl⟩

theorem jobFinish (tracked : s.Tracked) {job : Job} {encoded : Encoded} {slot : ℕ} {buffer : Formats.Buffer}
    (phase : s.phase = .running job encoded) (own : s.jobBuffer = some (slot, buffer)) (state : Bool) (bits : ℕ) :
    (s.jobFinish job encoded slot buffer state bits).Tracked := by
  have active : s.phase ≠ .idle := phase ▸ nofun
  obtain ⟨latched, -⟩ := tracked.busy active
  obtain ⟨head, found⟩ := head_of_jobBuffer own
  obtain ⟨rfl, size⟩ := tracked.running job encoded phase
  unfold State.jobFinish
  split
  case isTrue failed =>
    refine tracked.fail latched head fun good => ?_
    -- the slot was queued, so the engine has its data in it
    have memory := tracked.slotted.ready slot (List.mem_of_mem_head? head)
    have kept : s.node.engine.codedBufferSize ≠ 0 := by
      rw [(tracked.started latched).2]
      decide
    rcases failed with stopped | bare
    · exact absurd good.1 (by simpa using stopped)
    · exact tracked.slotted.engineBuffer memory found kept bare
  case isFalse =>
    dsimp only
    have others (other : ℕ) (apart : other ≠ slot) : Function.update s.buffers slot
        { quant := job.quant, headerSize := job.headerSize } other = s.buffers other := Function.update_of_ne apart ..
    split
    · exact tracked.finish latched head others nofun nofun
    · refine tracked.finish latched head others (fun _ => ⟨rfl, rfl⟩) (fun _ => ?_)
      rw [Function.update_self, size]

/-- A header that is put describes the payload it is put before. -/
theorem bufferFinish_described (tracked : s.Tracked) {done : Done} {header : List UInt8} (waits : s.Waits done)
    (put : s.bufferFinish done = some header) : Image.Described ⟨header, done.encoded⟩ := by
  obtain ⟨buffer, found, memory⟩ := waits.memory
  have kept : s.node.engine.codedBufferSize ≠ 0 := by
    rw [(tracked.started waits.latched).2]
    decide
  have present := tracked.slotted.engineBuffer waits.memory found kept
  simp only [bufferFinish, found] at put
  split at put
  case isTrue => cases put
  case isFalse good =>
    have good : done.Good := by
      simpa [Done.Good] using good
    obtain ⟨width, height⟩ := waits.size good
    rw [waits.buffer good, if_neg (by simpa using present)] at put
    split at put
    · cases put
    · simp only [putHeader_ok, headerBytes_length, ne_eq, not_true_eq_false, if_false] at put
      obtain rfl := Option.some.inj put
      rw [← width, ← height]
      refine headerBytes_described _ ?_
      rw [width, height]
      exact tracked.small

theorem dqbuf (tracked : s.Tracked) {next : State} (taken : s.dqbuf = some next) : next.Tracked := by
  rw [State.dqbuf] at taken
  split at taken
  case h_1 => cases taken
  case h_2 done rest queue =>
    obtain rfl := Option.some.inj taken
    have waits := tracked.waiting done (queue ▸ List.mem_cons_self)
    refine { tracked with waiting := fun other member => ?_, images := fun image member => ?_ }
    · obtain ⟨latched, free, memory, size, buffer⟩ := tracked.waiting other (queue ▸ List.mem_cons_of_mem _ member)
      exact ⟨latched, free, memory, size, buffer⟩
    · rcases List.mem_append.mp member with old | new
      · exact tracked.images image old
      · rw [if_pos (tracked.started waits.latched).2] at new
        obtain ⟨header, put, rfl⟩ := Option.map_eq_some_iff.mp (Option.mem_toList.mp new)
        exact tracked.bufferFinish_described waits put

theorem step {event : Event} {next : State} (tracked : s.Tracked) (allowed : SizeKept s event)
    (taken : Jpeg.step s event = some next) : next.Tracked := by
  cases event with
  | sFmt type request => exact Option.some.inj taken ▸ tracked.sFmt type request allowed
  | reqbufs type memory count allocated => exact Option.some.inj taken ▸ tracked.reqbufs ..
  | qbuf type index dmabuf => exact Option.some.inj taken ▸ tracked.qbuf ..
  | streamOn type started => exact Option.some.inj taken ▸ tracked.streamOn ..
  | setQuality quality => exact Option.some.inj taken ▸ tracked.setQuality ..
  | dqbuf => exact tracked.dqbuf taken
  | streamOff type =>
    simp only [Jpeg.step] at taken
    split at taken
    case h_1 idle => exact Option.some.inj taken ▸ tracked.streamOff idle type
    case h_2 => cases taken
  | jobPrepare =>
    simp only [Jpeg.step] at taken
    split at taken
    case h_1 quality idle latched =>
      split at taken
      case isTrue ready =>
        obtain rfl := Option.some.inj taken
        refine { tracked with busy := fun _ => ⟨latched ▸ nofun, ready.2.1⟩, running := nofun, waiting := ?_ }
        intro done member
        obtain ⟨latched, free, memory, size, buffer⟩ := tracked.waiting done member
        exact ⟨latched, free, memory, size, buffer⟩
      case isFalse => cases taken
    case h_2 => cases taken
  | jobConfigure ok =>
    simp only [Jpeg.step] at taken
    split at taken
    case h_1 job slot buffer phase own => exact Option.some.inj taken ▸ tracked.jobConfigure phase own ok
    case h_2 => cases taken
  | jobFinish state bits =>
    simp only [Jpeg.step] at taken
    split at taken
    case h_1 job encoded slot buffer phase own =>
      exact Option.some.inj taken ▸ tracked.jobFinish phase own state bits
    case h_2 => cases taken
  | h264Job =>
    simp only [Jpeg.step] at taken
    split at taken
    case isTrue other =>
      obtain rfl := Option.some.inj taken
      have stopped : s.latched = none := by
        by_contra latched
        exact nomatch other.1.symm.trans (tracked.started latched).2
      refine tracked.withNode ⟨rfl, rfl, rfl, rfl⟩ (tracked.slotted.jobDone _) (fun latched => absurd stopped latched)
        (fun active => absurd stopped (tracked.busy active).1) fun done member => ?_
      exact absurd stopped (tracked.waiting done member).latched
    case isFalse => cases taken

theorem opened {proc : Formats.Proc} {node : Formats.State} (role : proc.role = .encoder)
    (setup : Formats.State.setup proc = .ok node) : State.Tracked { node } := by
  obtain ⟨same, -, ⟨request, picture⟩, -⟩ := Formats.setup_encoder role setup
  have encoder : node.proc.role = .encoder := same ▸ role
  have prepared := (Formats.formatPicturePrepare_encoder encoder request).symm.trans picture
  exact ⟨encoder, .setup role setup, admits_small (Formats.admits_of_encPicturePrepare prepared),
    fun latched => absurd rfl latched, fun active => absurd rfl active, nofun, nofun, nofun⟩

end Tracked

end State

/-- As long as no `S_FMT` changes the size while a payload waits to be dequeued, the header of every image has
the size and the tables that its payload was encoded with. -/
theorem headers_describe_of_size_kept (proc : Formats.Proc) (node : Formats.State) (events : List Event) (final : State)
    (role : proc.role = .encoder) (setup : Formats.State.setup proc = .ok node)
    (kept : Guarded step SizeKept { node } events) (reached : run step { node } events = some final) :
    ∀ image ∈ final.images, image.Described :=
  (kept.run_preserves State.Tracked State.Tracked.step (.opened role setup) reached).images

/-- A picture of 640 by 480 is encoded; before its payload is dequeued, another size is asked for. -/
def dequeuedLate (width height : ℕ) : List Event :=
  [.sFmt .capture { pixelformat := .jpeg, sizeimage := 65536 },
    .sFmt .output { pixelformat := .nv12, width := 640, height := 480 }, .reqbufs .capture .mmap 1 1,
    .reqbufs .output .mmap 1 1, .qbuf .capture 0 Formats.noDmaBuf, .qbuf .output 0 Formats.noDmaBuf,
    .streamOn .capture true, .streamOn .output true, .jobPrepare, .jobConfigure true, .jobFinish true 8000,
    .streamOff .output, .reqbufs .output .mmap 0 0, .sFmt .output { pixelformat := .nv12, width, height }, .dqbuf]

/-- The size is rounded up to the one before. -/
theorem headers_describe_dequeued_late :
    ∃ node final, Formats.State.setup Formats.encProc = .ok node ∧
      run step { node } (dequeuedLate 639 479) = some final ∧ final.images.length = 1 ∧
        ∀ image ∈ final.images, image.Described :=
  ⟨_, _, rfl, rfl, by decide +kernel,
    headers_describe_of_size_kept Formats.encProc _ (dequeuedLate 639 479) _ rfl rfl (by decide +kernel) rfl⟩

/-- The header has the new size. -/
theorem headers_not_always_describe :
    ¬ ∀ (proc : Formats.Proc) (node : Formats.State) (events : List Event) (final : State), proc.role = .encoder →
      Formats.State.setup proc = .ok node → run step { node } events = some final →
        ∀ image ∈ final.images, image.Described := by
  intro always
  let quant := (jobPrepare 90).quant
  obtain ⟨node, final, setup, reached, found⟩ : ∃ node final, Formats.State.setup Formats.encProc = .ok node ∧
      run step { node } (dequeuedLate 320 240) = some final ∧
        (headerBytes 320 240 quant, 640) ∈ final.images.map fun image => (image.header, image.encoded.width) :=
    ⟨_, _, rfl, rfl, by decide +kernel⟩
  obtain ⟨image, member, found⟩ := List.mem_map.mp found
  obtain ⟨header, width⟩ := Prod.mk.inj found
  obtain ⟨segments, read, shown⟩ := always Formats.encProc node _ final rfl setup reached image member
  obtain ⟨again, same, differs⟩ := headerBytes_described quant (by decide : 320 < 2 ^ 16 ∧ 240 < 2 ^ 16)
  have one : segments = again := by
    rw [header] at read
    exact congrArg Prod.fst (Option.some.inj (read.symm.trans same))
  have sizes := congrArg (Option.map Description.width) ((one ▸ shown).symm.trans differs)
  rw [Option.map_some, Option.map_some, Encoded.description, width] at sizes
  exact absurd (Option.some.inj sizes : 640 = 320) (by decide)

end H618Vpu.Jpeg
