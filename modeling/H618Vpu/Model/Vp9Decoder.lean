import H618Vpu.Math.Align
import H618Vpu.Model.Vp9Probs

/-! # The VP9 decoder: configuring and finishing a job

`cedrus_dec_vp9.c`. The state of a context between its jobs is the entropy and segmentation store
of `struct cedrus_dec_vp9_context` and, for each picture buffer, the record of
`struct cedrus_dec_vp9_buffer` with the timestamp vb2 looks it up by. `jobConfigure` checks a
request, may replace the reconstruction surface of the destination on the way, and programs the
hardware; `jobFinish` takes over what the hardware wrote. v4l2-m2m runs the jobs of a context one
after the other, so a run is a sequence of `runJob` steps with requeued buffers in between.

The register file is represented by the values a result below depends on. The tile list and the
packed probability image are functions of the header and of `probabilityTables` and are left out.
-/

namespace H618Vpu.Vp9

open Math

/-- A reconstruction surface: its address and size in bytes. -/
structure Surface where
  dma : ℕ
  size : ℕ
deriving DecidableEq, Repr

/-- `struct cedrus_dec_vp9_buffer`; the surface is `recon`, `recon_dma` and `recon_size`. -/
structure Record where
  width : ℕ := 0
  height : ℕ := 0
  bitDepth : ℕ := 0
  valid : Bool := false
  recon : Option Surface := none
  reconChromaOffset : ℕ := 0
deriving DecidableEq, Repr

/-- A picture buffer; the timestamp is there while `copied_timestamp` is set. -/
structure Picture where
  timestamp : Option ℕ := none
  record : Record := {}
deriving DecidableEq, Repr

/-- One byte for each byte of the `segment_map_size` of the context. -/
abbrev SegmentMap (size : ℕ) := Fin size → UInt8

/-- The entropy and segmentation part of `struct cedrus_dec_vp9_context`; `window` is the segment
map window of `prob_count`. -/
structure Store (size : ℕ) where
  probabilityTables : FrameContext
  frameContext : Fin 4 → FrameContext
  frameContextIdx : Fin 4
  segmentMap : Fin 2 → SegmentMap size
  activeSegmentMap : Fin 2
  window : SegmentMap size
  previousValid : Bool
  previousWidth : ℕ
  previousHeight : ℕ
  previousShowFrame : Bool
  previousIntraOnly : Bool
  previousKeyFrame : Bool

/-- What the checks of a job read besides the request: the address window of the device, the
negotiated formats and the planes of the picture buffers, and the default probabilities. -/
structure Config where
  defaults : FrameContext
  dmaOffset : ℕ
  codedWidth : ℕ
  codedHeight : ℕ
  pictureNv12 : Bool
  bytesperline : ℕ
  pictureHeight : ℕ
  pictures : ℕ
  planeDma : ℕ → ℕ

structure Decoder (size : ℕ) where
  store : Store size
  picture : ℕ → Picture

/-- A request with the buffers v4l2-m2m pairs it with; `reconAlloc` is what `dma_alloc_attrs`
answers if the job asks it for a surface. -/
structure Job where
  frame : Frame
  compressedHdr : CompressedHdr
  destination : ℕ
  timestamp : ℕ
  codedDma : ℕ
  codedSize : ℕ
  codedBufferSize : ℕ
  reconAlloc : Option ℕ

/-- What the hardware leaves in `prob_count`: the symbol counts and the segment map. -/
structure HwOutput (size : ℕ) where
  counts : HwCounts
  map : SegmentMap size

/-- What becomes of a job besides its own checks: the reset in `format_configure` fails, the hardware
or the watchdog reports an error, or the hardware succeeds. -/
inductive Outcome (size : ℕ) where
  | formatError
  | error
  | done (output : HwOutput size)

variable {size : ℕ}

def Decoder.setRecord (dec : Decoder size) (buffer : ℕ) (record : Record) : Decoder size :=
  { dec with picture := Function.update dec.picture buffer { dec.picture buffer with record } }

def Decoder.setTimestamp (dec : Decoder size) (buffer : ℕ) (timestamp : Option ℕ) : Decoder size :=
  { dec with picture := Function.update dec.picture buffer { dec.picture buffer with timestamp } }

/-- `cedrus_vp9_10bit_recon_size`. -/
structure ReconLayout where
  chromaOffset : ℕ
  low2Offset : ℕ
  low2Stride : ℕ
  size : ℕ
deriving DecidableEq, Repr

def tenBitReconSize (width height : ℕ) : ReconLayout :=
  let stride := align width 16
  let alignedHeight := align height 16
  let lumaSize := stride * alignedHeight
  let highSize := lumaSize + lumaSize / 2
  let extStride := align (align width 4 / 4) 32
  let extSize := extStride * alignedHeight * 3 / 2
  { chromaOffset := lumaSize
    low2Offset := highSize
    low2Stride := extStride
    size := align (highSize + extSize) 4096 }

/-- `cedrus_vp9_ensure_10bit_recon`: the record afterwards, and whether a surface is there. -/
def ensureTenBitRecon (record : Record) (width height : ℕ) (reconAlloc : Option ℕ) : Record × Bool :=
  let layout := tenBitReconSize width height
  if ∃ surface ∈ record.recon, layout.size ≤ surface.size then
    ({ record with reconChromaOffset := layout.chromaOffset }, true)
  else
    match reconAlloc with
    | none => ({ record with recon := none, reconChromaOffset := 0 }, false)
    | some dma =>
        ({ record with recon := some ⟨dma, layout.size⟩, reconChromaOffset := layout.chromaOffset }, true)

/-- `cedrus_dma_addr`: the address as the engine sees it, 0 when it cannot. -/
def Config.dmaAddr (config : Config) (addr : ℕ) : ℕ :=
  if addr = 0 ∨ addr < config.dmaOffset ∨ 2 ^ 32 ≤ addr - config.dmaOffset then 0 else addr - config.dmaOffset

/-- `cedrus_buffer_picture_dma`. -/
def Config.pictureDma (config : Config) (buffer : ℕ) : ℕ × ℕ :=
  (config.planeDma buffer, config.planeDma buffer + config.bytesperline * config.pictureHeight)

/-- `cedrus_buffer_picture_find`, which is `vb2_find_buffer`: the first buffer with the timestamp. -/
def Decoder.pictureFind (dec : Decoder size) (config : Config) (timestamp : ℕ) : Option ℕ :=
  (List.range config.pictures).find? fun buffer => (dec.picture buffer).timestamp = some timestamp

/-- `struct cedrus_vp9_reference`, with the buffer that was found and its record as it was read. -/
structure Reference where
  buffer : ℕ
  record : Record
  luma : ℕ
  chroma : ℕ
deriving DecidableEq, Repr

/-- The errors of `cedrus_dec_vp9_job_configure`. -/
inductive Errno where
  | eopnotsupp
  | enomem
  | erange
  | einval
deriving DecidableEq, Repr

/-- `cedrus_dec_vp9_reference`. -/
def Decoder.reference (dec : Decoder size) (config : Config) (timestamp : ℕ) : Except Errno Reference :=
  match dec.pictureFind config timestamp with
  | none => .error .einval
  | some buffer =>
      let record := (dec.picture buffer).record
      if !record.valid then .error .einval
      else if record.bitDepth = 10 then
        match record.recon with
        | none => .error .einval
        | some surface => .ok ⟨buffer, record, surface.dma, surface.dma + record.reconChromaOffset⟩
      else
        let (luma, chroma) := config.pictureDma buffer
        .ok ⟨buffer, record, luma, chroma⟩

/-- `cedrus_vp9_valid_reference_size`. -/
def validReferenceSize (refWidth refHeight width height : ℕ) : Bool :=
  refWidth ≤ 2 * width ∧ refHeight ≤ 2 * height ∧ width ≤ 16 * refWidth ∧ height ≤ 16 * refHeight

/-- Size and bit depth of a reference fit the frame. -/
def Reference.fits (reference : Reference) (frame : Frame) : Bool :=
  validReferenceSize reference.record.width reference.record.height frame.width frame.height &&
    reference.record.bitDepth = frame.bitDepth

structure References where
  last : Reference
  golden : Reference
  alt : Reference
deriving DecidableEq, Repr

/-- The references of a frame that is not a key frame, looked up and checked in this order. -/
def Decoder.references (dec : Decoder size) (config : Config) (frame : Frame) : Except Errno References :=
  match dec.reference config frame.lastFrameTs with
  | .error errno => .error errno
  | .ok last =>
    match dec.reference config frame.goldenFrameTs with
    | .error errno => .error errno
    | .ok golden =>
      match dec.reference config frame.altFrameTs with
      | .error errno => .error errno
      | .ok alt =>
        if last.fits frame && golden.fits frame && alt.fits frame then .ok ⟨last, golden, alt⟩
        else .error .eopnotsupp

/-- A key frame looks up no reference. -/
def Decoder.lookup (dec : Decoder size) (config : Config) (frame : Frame) : Except Errno (Option References) :=
  if frame.keyFrame then .ok none else (dec.references config frame).map some

/-- The first check of `cedrus_dec_vp9_job_configure`. -/
def Config.unsupported (config : Config) (job : Job) : Bool :=
  !((job.frame.profile = 0 ∧ job.frame.bitDepth = 8) ∨ (job.frame.profile = 2 ∧ job.frame.bitDepth = 10)) ||
    6 < job.frame.tileColsLog2 || 2 < job.frame.tileRowsLog2 || !config.pictureNv12 ||
    config.codedWidth < job.frame.width || config.codedHeight < job.frame.height ||
    txModeSelect < job.compressedHdr.txMode

/-- The size and address checks; `record` is the one of the destination, with its surface ensured. -/
def Config.outOfRange (config : Config) (job : Job) (record : Record) : Bool :=
  let headerSize := job.frame.uncompressedHeaderSize + job.frame.compressedHeaderSize
  let (displayLuma, displayChroma) := config.pictureDma job.destination
  let reconDma := (record.recon.map (·.dma)).getD 0
  let luma := if job.frame.highBitDepth then reconDma else displayLuma
  let chroma := if job.frame.highBitDepth then reconDma + record.reconChromaOffset else displayChroma
  let addrs := [job.codedDma, luma, chroma, displayLuma, displayChroma].map config.dmaAddr
  job.codedSize ≤ headerSize || (2 ^ 32 - 1) / 8 < job.codedSize || job.codedBufferSize < job.codedSize ||
    addrs.any (· = 0) || addrs.any (fun addr => addr % 256 ≠ 0)

def Store.usePreviousMvs (store : Store size) (frame : Frame) : Bool :=
  !frame.isIntra && store.previousValid && !frame.errorResilient && store.previousShowFrame &&
    !store.previousIntraOnly && store.previousWidth = frame.width && store.previousHeight = frame.height

/-- `VE_DEC_VP9_HDR_SYNC`. -/
def hdrSync (frame : Frame) (compressedHdr : CompressedHdr) (usePreviousMvs : Bool) : UInt32 :=
  let flag (set : Bool) (bit : UInt32) : UInt32 := if set then 1 <<< bit else 0
  (if frame.keyFrame then (0x84001000 : UInt32)
    else (0x84001002 : UInt32) ||| flag frame.allowHighPrecMv 8 |||
      UInt32.ofNat frame.interpolationFilter.ctorIdx <<< 9 ||| flag usePreviousMvs 25) |||
    UInt32.ofNat (frame.bitDepth % 8) <<< 2 ||| flag (!frame.parallelDecMode) 27 |||
    flag frame.seg.enabled 17 ||| flag frame.seg.updateMap 18 ||| flag frame.seg.temporalUpdate 19 |||
    flag (1 < 2 ^ frame.tileColsLog2 * 2 ^ frame.tileRowsLog2) 0 ||| UInt32.ofNat compressedHdr.txMode <<< 20

/-- The values programmed for a job; a key frame has no references. -/
structure Program where
  references : Option References
  hdrSync : UInt32
  width : ℕ
  height : ℕ
deriving DecidableEq, Repr

/-- The update of the store between the checks and the register writes: the window is cleared and
refilled from the active map, the entropy contexts are reset, loaded and forward-updated, and only
then a reset frame clears both maps. -/
def Store.configure (store : Store size) (defaults : FrameContext) (frame : Frame)
    (compressedHdr : CompressedHdr) : Store size :=
  let window := if frame.seg.enabled && !frame.isIntra then store.segmentMap store.activeSegmentMap else 0
  let (idx, contexts) := resetFrameCtx defaults frame store.frameContext
  let reset := frame.isIntra || frame.errorResilient
  { store with
    window
    frameContextIdx := idx
    frameContext := contexts
    probabilityTables := fwUpdateProbs (contexts idx) compressedHdr frame
    segmentMap := if reset then 0 else store.segmentMap
    activeSegmentMap := if reset then 0 else store.activeSegmentMap }

/-- `cedrus_dec_vp9_job_configure` up to the references: the checks of the request, with the surface
of a 10-bit destination ensured between them. -/
def Decoder.checks (dec : Decoder size) (config : Config) (job : Job) : Decoder size × Except Errno Unit :=
  if config.unsupported job then (dec, .error .eopnotsupp)
  else
    let record := (dec.picture job.destination).record
    let (record, ready) :=
      if job.frame.highBitDepth then
        ensureTenBitRecon record job.frame.width job.frame.height job.reconAlloc
      else (record, true)
    let dec := dec.setRecord job.destination record
    if !ready then (dec, .error .enomem)
    else if config.outOfRange job record then (dec, .error .erange)
    else (dec, .ok ())

/-- `cedrus_dec_vp9_job_configure`. -/
def Decoder.jobConfigure (dec : Decoder size) (config : Config) (job : Job) :
    Decoder size × Except Errno Program :=
  match dec.checks config job with
  | (dec, .error errno) => (dec, .error errno)
  | (dec, .ok ()) =>
    match dec.lookup config job.frame with
    | .error errno => (dec, .error errno)
    | .ok references =>
      ({ dec with store := dec.store.configure config.defaults job.frame job.compressedHdr },
        .ok ⟨references, hdrSync job.frame job.compressedHdr (dec.store.usePreviousMvs job.frame),
          job.frame.width, job.frame.height⟩)

/-- The segment map the hardware wrote becomes the active one after an update-map frame. -/
def Store.finishSegmentMap (store : Store size) (frame : Frame) (map : SegmentMap size) : Store size :=
  if frame.seg.enabled && frame.seg.updateMap then
    let next := store.activeSegmentMap + 1
    { store with
      window := map
      segmentMap := Function.update store.segmentMap next map
      activeSegmentMap := next }
  else { store with window := map }

/-- The transform and skip probabilities of the frame, kept on intra frames. -/
def FrameContext.keepTxSkip (saved tables : FrameContext) : FrameContext :=
  { saved with tx8 := tables.tx8, tx16 := tables.tx16, tx32 := tables.tx32, skip := tables.skip }

/-- The tables after the backward adaptation of the saved context. -/
def Store.adapted (store : Store size) (frame : Frame) (compressedHdr : CompressedHdr) (hw : HwCounts) :
    FrameContext :=
  let counts := hw.symbolCounts
  let use128 := !store.previousValid || store.previousKeyFrame
  let saved := store.frameContext store.frameContextIdx
  let probs := if frame.isIntra then saved.keepTxSkip store.probabilityTables else saved
  let probs := adaptCoefProbs probs counts use128 frame.isIntra
  if frame.isIntra then probs
  else
    adaptNoncoefProbs probs counts frame.referenceMode frame.interpolationFilter compressedHdr.txMode
      frame.allowHighPrecMv

def Store.finishEntropy (store : Store size) (frame : Frame) (compressedHdr : CompressedHdr) (hw : HwCounts) :
    Store size :=
  if frame.refreshFrameCtx then
    let tables :=
      if frame.parallelDecMode then store.probabilityTables else store.adapted frame compressedHdr hw
    { store with
      probabilityTables := tables
      frameContext := Function.update store.frameContext store.frameContextIdx tables }
  else store

def Store.finishPrevious (store : Store size) (frame : Frame) : Store size :=
  { store with
    previousValid := true
    previousWidth := frame.width
    previousHeight := frame.height
    previousShowFrame := frame.showFrame
    previousIntraOnly := frame.isIntra
    previousKeyFrame := frame.keyFrame }

def Store.finish (store : Store size) (frame : Frame) (compressedHdr : CompressedHdr) (output : HwOutput size) :
    Store size :=
  ((store.finishSegmentMap frame output.map).finishEntropy frame compressedHdr output.counts).finishPrevious frame

/-- The destination's record after a successful job. -/
def Record.finish (record : Record) (frame : Frame) : Record :=
  { record with width := frame.width, height := frame.height, bitDepth := frame.bitDepth, valid := true }

/-- `cedrus_dec_vp9_job_finish`; without an output, the state is an error and nothing changes. -/
def Decoder.jobFinish (dec : Decoder size) (job : Job) : Option (HwOutput size) → Decoder size
  | none => dec
  | some output =>
      { dec with store := dec.store.finish job.frame job.compressedHdr output }.setRecord job.destination
        ((dec.picture job.destination).record.finish job.frame)

/-- The decoder after `job_configure`, and the program when the hardware is started. -/
def Decoder.configured (dec : Decoder size) (config : Config) (job : Job) :
    Outcome size → Decoder size × Option Program
  | .formatError => (dec, none)
  | .error | .done _ =>
      let (dec, result) := dec.jobConfigure config job
      (dec, result.toOption)

/-- The hardware output of a job that was programmed and succeeded. -/
def Outcome.output : Outcome size → Option Program → Option (HwOutput size)
  | .done output, some _ => some output
  | _, _ => none

/-- `v4l2_m2m_buf_copy_metadata`: the destination carries the job's timestamp. -/
def Decoder.begin (dec : Decoder size) (job : Job) : Decoder size :=
  dec.setTimestamp job.destination (some job.timestamp)

/-- One job of a context, from its begin to its completion. -/
def Decoder.runJob (dec : Decoder size) (config : Config) (job : Job) (outcome : Outcome size) : Decoder size :=
  let (dec, program) := (dec.begin job).configured config job outcome
  dec.jobFinish job (outcome.output program)

/-- The context as `cedrus_dec_vp9_setup` leaves it. -/
def Store.initial (defaults : FrameContext) : Store size where
  probabilityTables := .zero
  frameContext _ := defaults
  frameContextIdx := 0
  segmentMap := 0
  activeSegmentMap := 0
  window := 0
  previousValid := false
  previousWidth := 0
  previousHeight := 0
  previousShowFrame := false
  previousIntraOnly := false
  previousKeyFrame := false

/-- A context that starts streaming on newly allocated picture buffers. -/
def Decoder.initial (config : Config) : Decoder size where
  store := .initial config.defaults
  picture _ := {}

end H618Vpu.Vp9
