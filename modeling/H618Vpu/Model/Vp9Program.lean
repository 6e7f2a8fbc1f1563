import H618Vpu.Model.Vp9Decoder
import H618Vpu.Model.Vp9Image

/-! # The program of a VP9 job

Everything `cedrus_dec_vp9_job_configure` gives the hardware once its checks have passed: the
register writes in their order, with the SRAM tables that go through the data port, and the bytes of
the probability buffer. The quantiser tables of the driver are parameters, as the default
probabilities are.
-/

namespace H618Vpu.Vp9

open Math Bytes

/-- `struct v4l2_vp9_loop_filter`. -/
structure LoopFilter where
  refDeltas : Fin 4 → Int8
  modeDeltas : Fin 2 → Int8
  level : UInt8
  sharpness : UInt8
  deltaEnabled : Bool

/-- `struct v4l2_vp9_quantization`. -/
structure Quantization where
  baseQIdx : UInt8
  deltaQYDc : Int8
  deltaQUvDc : Int8
  deltaQUvAc : Int8

/-- A job with the rest of `struct v4l2_ctrl_vp9_frame`. -/
structure Request extends Job where
  segData : SegmentationData
  lf : LoopFilter
  quant : Quantization
  refFrameSignBias : UInt8

def Request.seg (request : Request) : SegmentationParams := { request.frame.seg, request.segData with }

/-- The quantiser tables of the driver. -/
structure QLookup where
  dc : Fin 256 → UInt16
  ac : Fin 256 → UInt16

/-- What the program reads besides the request: the working buffers of the context and the tables. -/
structure ProgramConfig extends Config where
  mvColDma : ℕ
  probCountDma : ℕ
  entryInfoDma : ℕ
  qlookup : QLookup
  qlookup10 : QLookup

inductive Register where
  | status
  | hdrSync
  | picSize
  | lastPicSize
  | goldenPicSize
  | altrefPicSize
  | lastScale0
  | lastScale1
  | goldenScale0
  | goldenScale1
  | altrefScale0
  | altrefScale1
  | segmentFeature
  | neighborAddr
  | entryPointOffsetAddr
  | tileStart
  | tileEnd
  | tqBypassAddr
  | vldBypassAddr
  | colMvAddr
  | entropyLower8
  | firstOutputOffsetAddr
  | tenBitConfigure
  | sdrtLumaAddr
  | sdrtChromaAddr
  | currentLumaAddr
  | currentChromaAddr
  | lastLumaAddr
  | lastChromaAddr
  | goldenLumaAddr
  | goldenChromaAddr
  | altrefLumaAddr
  | altrefChromaAddr
  | stdBitOffset
  | primaryChromaBufLen
  | primaryFbLineStride
  | secondaryFbLineStride
  | chromaBufLen
  | primaryOutFmt
  | sramOffset
  | sramData
  | bitsOffset
  | bitsEndAddr
  | bitsLen
  | bitsAddr
  | segmentIdAddr
  | funcCtrl
deriving DecidableEq, Repr

/-- `cedrus_write`. -/
abbrev Write := Register × UInt32

/-- What the hardware is given. -/
structure HwProgram where
  writes : List Write
  probCount : List UInt8

/-- `VE_DEC_VP9_DMA_ADDR_BASE(cedrus_dma_addr(…))`. -/
def Config.dmaBase (config : Config) (addr : ℕ) : UInt32 := UInt32.ofNat (config.dmaAddr addr) >>> 8

/-- `cedrus_vp9_scale`. -/
def scale (reference currentSize referenceId : UInt32) : UInt32 :=
  let scale := (reference <<< 14) / currentSize
  let step := scale >>> 10
  (referenceId <<< 28) ||| (scale <<< 5) ||| ((step - 1) &&& 0x1f)

/-- `cedrus_vp9_golden_scale1`. -/
def goldenScale1 (reference currentSize : UInt32) : UInt32 :=
  let scale := (reference <<< 14) / currentSize
  let step := scale >>> 10
  (scale <<< 16) ||| ((step - 1) &&& 0x1f)

/-- The size registers of the references; a key frame has none. -/
def referenceWrites (frame : Frame) : Option References → List Write
  | none =>
      [(.lastPicSize, 0), (.goldenPicSize, 0), (.altrefPicSize, 0), (.lastScale0, 0), (.lastScale1, 0x10000000),
        (.goldenScale0, 0), (.goldenScale1, 0), (.altrefScale0, 0), (.altrefScale1, 0)]
  | some references =>
      let width := UInt32.ofNat frame.width
      let height := UInt32.ofNat frame.height
      let size (record : Record) : UInt32 :=
        (UInt32.ofNat (if frame.highBitDepth then align record.height 16 else record.height) <<< 16) |||
          UInt32.ofNat record.width
      let last := references.last.record
      let golden := references.golden.record
      let alt := references.alt.record
      [(.lastPicSize, size last), (.goldenPicSize, size golden), (.altrefPicSize, size alt),
        (.lastScale0, scale (UInt32.ofNat last.width) width 0),
        (.lastScale1, scale (UInt32.ofNat last.height) height 1),
        (.goldenScale0, scale (UInt32.ofNat golden.width) width 0),
        (.goldenScale1, goldenScale1 (UInt32.ofNat golden.height) height),
        (.altrefScale0, scale (UInt32.ofNat alt.width) width 0),
        (.altrefScale1, scale (UInt32.ofNat alt.height) height 0)]

/-- `cedrus_vp9_clamp_q`. -/
def clampQ (q : ℤ) : Fin 256 := ⟨(max 0 (min q 255)).toNat, by omega⟩

/-- `cedrus_vp9_segment_value`. -/
def SegmentationParams.segmentValue (seg : SegmentationParams) (segment : Fin 8) (feature : Fin 4) (base : ℤ) : ℤ :=
  if !seg.enabled || !seg.featureEnabled segment feature then base
  else
    let value := (seg.featureData segment feature).toInt
    if seg.absOrDeltaUpdate then value else value + base

/-- `V4L2_VP9_SEG_LVL_*`. -/
def segLvlAltQ : Fin 4 := 0
def segLvlAltL : Fin 4 := 1
def segLvlRefFrame : Fin 4 := 2
def segLvlSkip : Fin 4 := 3

/-- `cedrus_vp9_segment_features`. -/
def SegmentationParams.segmentFeatures (seg : SegmentationParams) : UInt32 :=
  if !seg.enabled then 0
  else
    (List.finRange 8).foldl (fun value segment =>
      let index := UInt32.ofNat segment.val
      let value :=
        if seg.featureEnabled segment segLvlRefFrame then
          value ||| ((1 : UInt32) <<< index) |||
            (UInt32.ofNat ((seg.featureData segment segLvlRefFrame).toInt % 4).toNat <<< (16 + 2 * index))
        else value
      if seg.featureEnabled segment segLvlSkip then value ||| ((1 : UInt32) <<< (8 + index)) else value) 0

/-- `cedrus_vp9_sram_write`: the data port increments the offset by itself. -/
def sramWrite (offset : UInt32) (values : List UInt32) : List Write :=
  (.sramOffset, offset) :: values.map fun value => (.sramData, value)

/-- `cedrus_vp9_dequant_write`; without segmentation only segment zero is filled in. -/
def dequantWrite (config : ProgramConfig) (request : Request) : List Write :=
  let lookup := if request.frame.bitDepth = 10 then config.qlookup10 else config.qlookup
  let quant := request.quant
  let entry (segment : Fin 8) : UInt32 × UInt32 :=
    if request.frame.seg.enabled || segment = 0 then
      let q := request.seg.segmentValue segment segLvlAltQ quant.baseQIdx.toNat
      let yDcQ := clampQ (q + quant.deltaQYDc.toInt)
      let uvDcQ := clampQ (q + quant.deltaQUvDc.toInt)
      let uvAcQ := clampQ (q + quant.deltaQUvAc.toInt)
      ((lookup.dc yDcQ).toUInt32 ||| ((lookup.ac (clampQ q)).toUInt32 <<< 16),
        (lookup.dc uvDcQ).toUInt32 ||| ((lookup.ac uvAcQ).toUInt32 <<< 16))
    else (0, 0)
  sramWrite 0 (List.ofFn fun segment => (entry segment).1) ++ sramWrite 32 (List.ofFn fun segment => (entry segment).2)

/-- `cedrus_vp9_filter_level`. -/
def filterLevel (level : ℤ) : ℤ := max 0 (min level 63)

/-- `cedrus_vp9_loop_filter_write`. -/
def loopFilterWrite (request : Request) : List Write :=
  let lf := request.lf
  sramWrite 0x100 ((List.finRange 8).flatMap fun segment =>
    let level := filterLevel (request.seg.segmentValue segment segLvlAltL lf.level.toNat)
    let scale : ℤ := 2 ^ (level / 32).toNat
    let value (delta : ℤ) : UInt32 :=
      UInt32.ofNat (if lf.deltaEnabled then filterLevel (level + delta) else level).toNat
    let ref (i : Fin 4) : ℤ := (lf.refDeltas i).toInt * scale
    let mode (i : Fin 2) : ℤ := (lf.modeDeltas i).toInt * scale
    let intra := value (ref 0)
    let last0 := value (ref 1 + mode 0)
    let last1 := value (ref 1 + mode 1)
    let golden0 := value (ref 2 + mode 0)
    let golden1 := value (ref 2 + mode 1)
    let alt0 := value (ref 3 + mode 0)
    let alt1 := value (ref 3 + mode 1)
    [intra ||| (last0 <<< 16) ||| (last1 <<< 24),
      golden0 ||| (golden1 <<< 8) ||| (alt0 <<< 16) ||| (alt1 <<< 24)])

/-- `CEDRUS_DEC_VP9_PROB_COUNT_SIZE`, `CEDRUS_DEC_VP9_PROBS_OFFSET`, `CEDRUS_DEC_VP9_SEGMENT_MAP_OFFSET`. -/
def probCountBytes : ℕ := 0x88000
def probsOffset : ℕ := 0x4000
def segmentMapOffset : ℕ := 0x8000

/-- A word in the memory of the processor. -/
def leBytes (word : UInt32) : List UInt8 :=
  [word.toUInt8, (word >>> 8).toUInt8, (word >>> 16).toUInt8, (word >>> 24).toUInt8]

/-- Superblocks in a line of pixels. -/
def superblocks (size : ℕ) : UInt32 := UInt32.ofNat (divRoundUp size 64)

/-- The geometry record of a tile; the first tile has none. -/
def tileEntry (frame : Frame) (tile : ℕ) : Patch UInt8 :=
  let row := UInt32.ofNat (tile / 2 ^ frame.tileColsLog2)
  let col := UInt32.ofNat (tile % 2 ^ frame.tileColsLog2)
  let sbCols := superblocks frame.width
  let sbRows := superblocks frame.height
  let colsLog2 := UInt32.ofNat frame.tileColsLog2
  let rowsLog2 := UInt32.ofNat frame.tileRowsLog2
  let startX := (col * sbCols) >>> colsLog2
  let endX := (((col + 1) * sbCols) >>> colsLog2) - 1
  let startY := (row * sbRows) >>> rowsLog2
  let endY := (((row + 1) * sbRows) >>> rowsLog2) - 1
  ⟨(tile - 1) * 16, leBytes 0 ++ leBytes 0 ++ leBytes ((startY <<< 16) ||| startX) ++ leBytes ((endY <<< 16) ||| endX)⟩

def Frame.tileCount (frame : Frame) : ℕ := 2 ^ frame.tileColsLog2 * 2 ^ frame.tileRowsLog2

variable {size : ℕ}

/-- The contents of `prob_count`; `store` is the one after its update for the frame. -/
def Store.probCountImage (store : Store size) (request : Request) : List UInt8 :=
  let image := blank probCountBytes
  let image :=
    if request.frame.seg.enabled && !request.frame.isIntra then
      Bytes.store image segmentMapOffset (List.ofFn store.window)
    else image
  let image := image.take probsOffset ++ packProbs (image.drop probsOffset) store.probabilityTables request.seg
  applyAll image ((List.range' 1 (request.frame.tileCount - 1)).map (tileEntry request.frame))

/-- The addresses of the destination surfaces: of the picture that is shown and of the one decoded. -/
structure DestinationDma where
  luma : ℕ
  chroma : ℕ
  displayLuma : ℕ
  displayChroma : ℕ

def Config.destinationDma (config : Config) (job : Job) (record : Record) : DestinationDma :=
  let (displayLuma, displayChroma) := config.pictureDma job.destination
  let reconDma := (record.recon.map (·.dma)).getD 0
  if job.frame.highBitDepth then ⟨reconDma, reconDma + record.reconChromaOffset, displayLuma, displayChroma⟩
  else ⟨displayLuma, displayChroma, displayLuma, displayChroma⟩

/-- The luma and chroma addresses of a reference; a key frame writes the zero ones. -/
def referenceDma : Option Reference → ℕ × ℕ
  | none => (0, 0)
  | some reference => (reference.luma, reference.chroma)

/-- The 10-bit output registers. -/
def tenBitWrites (config : Config) (frame : Frame) (destination : DestinationDma) : List Write :=
  if frame.highBitDepth then
    let layout := tenBitReconSize frame.width frame.height
    [(.firstOutputOffsetAddr, UInt32.ofNat layout.low2Offset),
      (.tenBitConfigure, UInt32.ofNat layout.low2Stride &&& (0xfff : UInt32)),
      (.sdrtLumaAddr, config.dmaBase destination.displayLuma),
      (.sdrtChromaAddr, config.dmaBase destination.displayChroma)]
  else [(.firstOutputOffsetAddr, 0), (.tenBitConfigure, 0), (.sdrtLumaAddr, 0), (.sdrtChromaAddr, 0)]

/-- The top-level output registers. -/
def outputWrites (frame : Frame) : List Write :=
  let width := UInt32.ofNat (align frame.width 16)
  let height := UInt32.ofNat (align frame.height 16)
  let stride := (width &&& (0xffff : UInt32)) ||| ((width / 2) <<< 16)
  [(.primaryChromaBufLen, width * height / 4), (.primaryFbLineStride, stride)] ++
    if frame.highBitDepth then
      [(.secondaryFbLineStride, stride),
        (.chromaBufLen, ((1 : UInt32) <<< 30) ||| (width * height / 4 &&& (0xfffffff : UInt32))),
        (.primaryOutFmt, ((5 : UInt32) <<< 4) ||| 4)]
    else [(.secondaryFbLineStride, 0), (.chromaBufLen, 0), (.primaryOutFmt, (4 : UInt32) <<< 4)]

/-- The stream registers; the address arms the bit reader, behind both frame headers. -/
def streamWrites (config : Config) (job : Job) : List Write :=
  let headerSize := job.frame.uncompressedHeaderSize + job.frame.compressedHeaderSize
  let codedAddr := UInt32.ofNat (config.dmaAddr job.codedDma)
  [(.bitsOffset, UInt32.ofNat (headerSize * 8)),
    (.bitsEndAddr, ((codedAddr + UInt32.ofNat job.codedBufferSize - 1) >>> 8) &&& (0x3ffffffc : UInt32)),
    (.bitsLen, UInt32.ofNat ((job.codedSize - headerSize) * 8)),
    (.bitsAddr, ((codedAddr >>> 8) &&& (0xfffffff : UInt32)) ||| ((1 : UInt32) <<< 30) ||| ((1 : UInt32) <<< 29) |||
      ((1 : UInt32) <<< 28))]

/-- The writes after the bit reader is armed. -/
def controlWrites (frame : Frame) : List Write :=
  let rotateScaleOutEn : UInt32 := if frame.highBitDepth then (1 : UInt32) <<< 9 else 0
  [(.segmentIdAddr, 0), (.funcCtrl, 7 ||| rotateScaleOutEn)]

/-- The register writes of `cedrus_dec_vp9_job_configure`, in their order. -/
def registerWrites (config : ProgramConfig) (request : Request) (record : Record) (program : Program) : List Write :=
  let frame := request.frame
  let sbCols := superblocks frame.width
  let sbRows := superblocks frame.height
  let destination := config.destinationDma request.toJob record
  let (lastLuma, lastChroma) := referenceDma (program.references.map (·.last))
  let (goldenLuma, goldenChroma) := referenceDma (program.references.map (·.golden))
  let (altLuma, altChroma) := referenceDma (program.references.map (·.alt))
  [(.status, 7), (.hdrSync, program.hdrSync),
    (.picSize, (UInt32.ofNat frame.height <<< 16) ||| UInt32.ofNat frame.width)] ++
  referenceWrites frame program.references ++
  [(.segmentFeature, request.seg.segmentFeatures),
    (.neighborAddr, config.dmaBase config.entryInfoDma),
    (.entryPointOffsetAddr, config.dmaBase config.probCountDma),
    (.tileStart, 0),
    (.tileEnd, (((sbRows >>> UInt32.ofNat frame.tileRowsLog2) - 1) <<< 16) |||
      ((sbCols >>> UInt32.ofNat frame.tileColsLog2) - 1)),
    (.tqBypassAddr, 0), (.vldBypassAddr, 0),
    (.colMvAddr, config.dmaBase config.mvColDma),
    (.entropyLower8, 0)] ++
  tenBitWrites config.toConfig frame destination ++
  [(.currentLumaAddr, config.dmaBase destination.luma), (.currentChromaAddr, config.dmaBase destination.chroma),
    (.lastLumaAddr, config.dmaBase lastLuma), (.lastChromaAddr, config.dmaBase lastChroma),
    (.goldenLumaAddr, config.dmaBase goldenLuma), (.goldenChromaAddr, config.dmaBase goldenChroma),
    (.altrefLumaAddr, config.dmaBase altLuma), (.altrefChromaAddr, config.dmaBase altChroma),
    (.stdBitOffset, 0)] ++
  outputWrites frame ++ dequantWrite config request ++ loopFilterWrite request ++
  streamWrites config.toConfig request.toJob ++
  controlWrites frame

/-- `cedrus_dec_vp9_job_configure`, with everything it gives the hardware. -/
def Decoder.hwProgram (dec : Decoder size) (config : ProgramConfig) (request : Request) : Except Errno HwProgram :=
  match dec.jobConfigure config.toConfig request.toJob with
  | (_, .error errno) => .error errno
  | (dec, .ok program) =>
      .ok ⟨registerWrites config request (dec.picture request.destination).record program,
        dec.store.probCountImage request⟩

end H618Vpu.Vp9
