import H618Vpu.Model.Vp9Program
import H618Vpu.Soundness.Vp9Image
import H618Vpu.Soundness.Vp9Runs

/-! # What a VP9 program shows of the frame header

The bit reader starts behind both headers, so the hardware knows of them what the program tells it.
Of the reference mode, the sign biases and the loop filter's sharpness it is told nothing but the
probabilities the reference mode lets a frame update.
-/

namespace H618Vpu.Vp9

open Bytes

variable {size : ℕ}

/-- The header fields in question. -/
structure HeaderFields where
  referenceMode : ReferenceMode
  refFrameSignBias : UInt8
  sharpness : UInt8
deriving DecidableEq

def Frame.withReferenceMode (frame : Frame) (referenceMode : ReferenceMode) : Frame := { frame with referenceMode }

/-- The request with other values of these fields. -/
def Request.withHeader (request : Request) (header : HeaderFields) : Request :=
  { request with
    frame := request.frame.withReferenceMode header.referenceMode
    lf := { request.lf with sharpness := header.sharpness }
    refFrameSignBias := header.refFrameSignBias }

/-- The context a frame loads, before its forward update. -/
def Store.loaded (store : Store size) (defaults : FrameContext) (frame : Frame) : FrameContext :=
  (resetFrameCtx defaults frame store.frameContext).2 (resetFrameCtx defaults frame store.frameContext).1

/-- Some probability that one of the two reference modes updates and the other does not is changed by
its delta. -/
def ReferenceMode.Separated (first second : ReferenceMode) (loaded : FrameContext) (deltas : CompressedHdr) : Prop :=
  (¬ (first = .select ↔ second = .select) ∧
    ∃ i, updateProb (deltas.deltas.compMode i) (loaded.compMode i) ≠ loaded.compMode i) ∨
  (¬ (first = .compoundReference ↔ second = .compoundReference) ∧
    ∃ i j, updateProb (deltas.deltas.singleRef i j) (loaded.singleRef i j) ≠ loaded.singleRef i j) ∨
  (¬ (first = .singleReference ↔ second = .singleReference) ∧
    ∃ i, updateProb (deltas.deltas.compRef i) (loaded.compRef i) ≠ loaded.compRef i)

/-- The reference mode reaches three arrays of an inter frame's tables. -/
theorem fwUpdateProbs_mode (probs : FrameContext) (deltas : CompressedHdr) (frame : Frame) (mode : ReferenceMode)
    (inter : frame.isIntra = false) :
    fwUpdateProbs probs deltas (frame.withReferenceMode mode) =
      { fwUpdateProbs probs deltas frame with
        compMode := (updateFrameReferenceModeProbs mode probs deltas).compMode
        singleRef := (updateFrameReferenceModeProbs mode probs deltas).singleRef
        compRef := (updateFrameReferenceModeProbs mode probs deltas).compRef } := by
  have inter' : (frame.withReferenceMode mode).isIntra = false := inter
  have filter : (frame.withReferenceMode mode).interpolationFilter = frame.interpolationFilter := rfl
  have chosen : (frame.withReferenceMode mode).referenceMode = mode := rfl
  have precision : (frame.withReferenceMode mode).allowHighPrecMv = frame.allowHighPrecMv := rfl
  simp only [fwUpdateProbs, inter, inter', filter, chosen, precision, Bool.false_eq_true, ↓reduceIte]
  split <;> split <;> rfl

/-- The serialised context determines its arrays. -/
theorem FrameContext.array_of_bytes {m n : ℕ} {p q : FrameContext} (same : p.bytes = q.bytes) (index : ℕ)
    {first second : Fin m → Fin n → UInt8} (foundFirst : p.tables[index]? = some (.ofFn first))
    (foundSecond : q.tables[index]? = some (.ofFn second)) : first = second := by
  have rows := map_slice_layout p.tables index _ _ foundFirst (p.place index)
  have rows' := map_slice_layout q.tables index _ _ foundSecond (q.place index)
  have cells : (List.ofFn fun i => List.ofFn (first i)) = List.ofFn fun i => List.ofFn (second i) := by
    rw [FrameContext.bytes, FrameContext.bytes] at same
    rw [same] at rows
    refine rows.symm.trans (Eq.trans ?_ rows')
    simp only [Table.ofFn, List.length_ofFn]
  funext i
  exact List.ofFn_injective (congrFun (List.ofFn_injective cells) i)

/-- Tables of two reference modes with the same bytes are the same. -/
theorem fwUpdateProbs_mode_of_bytes {probs : FrameContext} {deltas : CompressedHdr} {frame : Frame}
    {first second : ReferenceMode} (inter : frame.isIntra = false)
    (same : (fwUpdateProbs probs deltas (frame.withReferenceMode first)).bytes =
      (fwUpdateProbs probs deltas (frame.withReferenceMode second)).bytes) :
    fwUpdateProbs probs deltas (frame.withReferenceMode first) =
      fwUpdateProbs probs deltas (frame.withReferenceMode second) := by
  have compMode := congrFun (FrameContext.array_of_bytes same 8 rfl rfl) (0 : Fin 1)
  have singleRef := FrameContext.array_of_bytes same 9 rfl rfl
  have compRef := congrFun (FrameContext.array_of_bytes same 10 rfl rfl) (0 : Fin 1)
  rw [fwUpdateProbs_mode probs deltas frame first inter, fwUpdateProbs_mode probs deltas frame second inter] at *
  simp only [FrameContext.mk.injEq, true_and, and_true]
  exact ⟨compMode, singleRef, compRef⟩

/-- Two reference modes give the same tables unless something separates them. -/
theorem fwUpdateProbs_mode_eq_iff (probs : FrameContext) (deltas : CompressedHdr) (frame : Frame)
    (first second : ReferenceMode) (inter : frame.isIntra = false) :
    fwUpdateProbs probs deltas (frame.withReferenceMode first) =
        fwUpdateProbs probs deltas (frame.withReferenceMode second) ↔
      ¬ first.Separated second probs deltas := by
  rw [fwUpdateProbs_mode probs deltas frame first inter, fwUpdateProbs_mode probs deltas frame second inter]
  simp only [FrameContext.mk.injEq, true_and, and_true, updateFrameReferenceModeProbs, ReferenceMode.Separated,
    funext_iff, not_or, not_and, not_exists, not_not]
  cases first <;> cases second <;> simp [eq_comm]

/-- Equal images come from contexts with the same bytes. -/
theorem bytes_of_packProbs {buffer : List UInt8} {p q : FrameContext} {seg : SegmentationParams}
    (same : packProbs buffer p seg = packProbs buffer q seg) : p.bytes = q.bytes := by
  have images := congrArg (fun image => Tool.unpack (image.take probsSize)) same
  simp only [packProbs_take, Tool.unpack_image _ _ (length_treeImage seg)] at images
  exact Option.some.inj images

theorem le_length_store {xs ys : List UInt8} {start limit : ℕ} (long : limit ≤ xs.length) (_ : limit ≤ start) :
    limit ≤ (store xs start ys).length := by
  simp only [store, List.length_append, List.length_take, List.length_drop]
  omega

/-- The tile records end before the probabilities. -/
theorem tileEntry_stop (frame : Frame) (cols : frame.tileColsLog2 ≤ 6) (rows : frame.tileRowsLog2 ≤ 2) :
    ∀ patch ∈ (List.range' 1 (frame.tileCount - 1)).map (tileEntry frame), patch.stop ≤ probsOffset := by
  intro patch member
  obtain ⟨tile, present, rfl⟩ := List.mem_map.mp member
  have count : frame.tileCount ≤ 2 ^ 6 * 2 ^ 2 :=
    Nat.mul_le_mul (Nat.pow_le_pow_right Nat.two_pos cols) (Nat.pow_le_pow_right Nat.two_pos rows)
  obtain ⟨low, high⟩ := List.mem_range'_1.mp present
  simp only [Patch.stop, tileEntry, leBytes, List.length_append, List.length_cons, List.length_nil, probsOffset]
  omega

/-- The records of the tiles after the first. -/
def Frame.tileEntries (frame : Frame) : List (Patch UInt8) :=
  (List.range' 1 (frame.tileCount - 1)).map (tileEntry frame)

/-- The buffer with the segment map only. -/
def Store.segmentImage (store : Store size) (request : Request) : List UInt8 :=
  if request.frame.seg.enabled && !request.frame.isIntra then
    Bytes.store (blank probCountBytes) segmentMapOffset (List.ofFn store.window)
  else blank probCountBytes

theorem Store.le_length_segmentImage (store : Store size) (request : Request) :
    probsOffset ≤ (store.segmentImage request).length := by
  have blanks : probsOffset ≤ (blank probCountBytes : List UInt8).length := by
    rw [length_blank]
    decide
  unfold Store.segmentImage
  split
  · exact le_length_store blanks (by decide)
  · exact blanks

theorem Store.length_front (store : Store size) (request : Request) :
    ((store.segmentImage request).take probsOffset).length = probsOffset := by
  rw [List.length_take, min_eq_left (store.le_length_segmentImage request)]

theorem Store.tileEntries_fit (store : Store size) {request : Request} (cols : request.frame.tileColsLog2 ≤ 6)
    (rows : request.frame.tileRowsLog2 ≤ 2) :
    ∀ patch ∈ request.frame.tileEntries, patch.stop ≤ ((store.segmentImage request).take probsOffset).length := by
  rw [store.length_front]
  exact tileEntry_stop request.frame cols rows

/-- The records stand before the probabilities, apart from them. -/
theorem Store.probCountImage_eq (store : Store size) {request : Request} (cols : request.frame.tileColsLog2 ≤ 6)
    (rows : request.frame.tileRowsLog2 ≤ 2) :
    store.probCountImage request = applyAll ((store.segmentImage request).take probsOffset) request.frame.tileEntries ++
      packProbs ((store.segmentImage request).drop probsOffset) store.probabilityTables request.seg :=
  applyAll_append_left _ _ _ (store.tileEntries_fit cols rows)

/-- Of two stores with one segment window, equal buffers come from tables with the same bytes. -/
theorem Store.bytes_of_probCountImage {store other : Store size} {request : Request}
    (windows : store.window = other.window)
    (cols : request.frame.tileColsLog2 ≤ 6) (rows : request.frame.tileRowsLog2 ≤ 2)
    (same : store.probCountImage request = other.probCountImage request) :
    store.probabilityTables.bytes = other.probabilityTables.bytes := by
  have images : store.segmentImage request = other.segmentImage request := by
    rw [Store.segmentImage, Store.segmentImage, windows]
  rw [store.probCountImage_eq cols rows, other.probCountImage_eq cols rows, images] at same
  exact bytes_of_packProbs (List.append_cancel_left same)

/-- The window does not depend on the reference mode, and the tables are those of the forward update. -/
theorem Store.configure_mode (store : Store size) (defaults : FrameContext) (frame : Frame)
    (compressedHdr : CompressedHdr) (mode : ReferenceMode) :
    (store.configure defaults (frame.withReferenceMode mode) compressedHdr).window =
        (store.configure defaults frame compressedHdr).window ∧
      (store.configure defaults (frame.withReferenceMode mode) compressedHdr).probabilityTables =
        fwUpdateProbs (store.loaded defaults frame) compressedHdr (frame.withReferenceMode mode) := ⟨rfl, rfl⟩

/-- The buffer tells two reference modes apart exactly when something separates them. -/
theorem Store.probCountImage_mode_iff (store : Store size) (defaults : FrameContext) (request : Request)
    (first second : ReferenceMode) (inter : request.frame.isIntra = false)
    (cols : request.frame.tileColsLog2 ≤ 6) (rows : request.frame.tileRowsLog2 ≤ 2) :
    (store.configure defaults (request.frame.withReferenceMode first) request.compressedHdr).probCountImage request =
        (store.configure defaults (request.frame.withReferenceMode second) request.compressedHdr).probCountImage
          request ↔
      ¬ first.Separated second (store.loaded defaults request.frame) request.compressedHdr := by
  obtain ⟨window, tables⟩ := store.configure_mode defaults request.frame request.compressedHdr first
  obtain ⟨window', tables'⟩ := store.configure_mode defaults request.frame request.compressedHdr second
  rw [← fwUpdateProbs_mode_eq_iff _ _ request.frame _ _ inter]
  constructor
  · intro same
    have bytes := Store.bytes_of_probCountImage (window.trans window'.symm) cols rows same
    rw [tables, tables'] at bytes
    exact fwUpdateProbs_mode_of_bytes inter bytes
  · intro same
    simp only [Store.probCountImage, window, window', tables, tables', same]

/-- A program of the request, with the header fields where they go. -/
theorem Decoder.hwProgram_withHeader {dec : Decoder size} {config : ProgramConfig} {request : Request}
    {header : HeaderFields} {program : HwProgram}
    (accepted : dec.hwProgram config (request.withHeader header) = .ok program) :
    request.frame.tileColsLog2 ≤ 6 ∧ request.frame.tileRowsLog2 ≤ 2 ∧
    ∃ references, ((dec.checks config.toConfig request.toJob).1.lookup config.toConfig request.frame) = .ok references ∧
      program = ⟨registerWrites config request
          ((dec.checks config.toConfig request.toJob).1.picture request.destination).record
          ⟨references, hdrSync request.frame request.compressedHdr (dec.store.usePreviousMvs request.frame),
            request.frame.width, request.frame.height⟩,
        (dec.store.configure config.defaults (request.frame.withReferenceMode header.referenceMode)
          request.compressedHdr).probCountImage request⟩ := by
  have asked :
      dec.checks config.toConfig (request.withHeader header).toJob = dec.checks config.toConfig request.toJob := rfl
  have kept : (dec.checks config.toConfig request.toJob).1.store = dec.store := by
    obtain ⟨record, checked, -⟩ := dec.checks_spec config.toConfig request.toJob
    rw [checked]
    rfl
  have tiles : (dec.checks config.toConfig request.toJob).2 = .ok () →
      request.frame.tileColsLog2 ≤ 6 ∧ request.frame.tileRowsLog2 ≤ 2 := by
    intro passed
    by_cases refused : config.toConfig.unsupported request.toJob = true
    · simp [Decoder.checks, refused] at passed
    · simp only [Config.unsupported, Bool.or_eq_true, decide_eq_true_eq, not_or, not_lt] at refused
      exact ⟨refused.1.1.1.1.1.2, refused.1.1.1.1.2⟩
  simp only [Decoder.hwProgram, Decoder.jobConfigure, asked] at accepted
  rcases checked : dec.checks config.toConfig request.toJob with ⟨after, errno | _⟩
  · rw [checked] at accepted
    cases accepted
  · rw [checked] at accepted kept tiles
    obtain ⟨cols, rows⟩ := tiles rfl
    refine ⟨cols, rows, ?_⟩
    have looked : after.lookup config.toConfig (request.withHeader header).frame =
        after.lookup config.toConfig request.frame := rfl
    dsimp only at accepted kept ⊢
    rw [looked] at accepted
    cases found : after.lookup config.toConfig request.frame with
    | error errno =>
      rw [found] at accepted
      cases accepted
    | ok references =>
      rw [found] at accepted
      refine ⟨references, rfl, ?_⟩
      rw [← kept]
      exact (Except.ok.inj accepted).symm

theorem programs_differ_iff (dec : Decoder size) (config : ProgramConfig) (request : Request)
    (first second : HeaderFields) (inter : request.frame.isIntra = false) (program other : HwProgram)
    (acceptedFirst : dec.hwProgram config (request.withHeader first) = .ok program)
    (acceptedSecond : dec.hwProgram config (request.withHeader second) = .ok other) :
    program ≠ other ↔
      first.referenceMode.Separated second.referenceMode (dec.store.loaded config.defaults request.frame)
        request.compressedHdr := by
  obtain ⟨cols, rows, references, found, rfl⟩ := Decoder.hwProgram_withHeader acceptedFirst
  obtain ⟨-, -, references', found', rfl⟩ := Decoder.hwProgram_withHeader acceptedSecond
  obtain rfl : references = references' := Except.ok.inj (found.symm.trans found')
  rw [ne_eq, HwProgram.mk.injEq, eq_self_iff_true, true_and,
    Store.probCountImage_mode_iff dec.store config.defaults request _ _ inter cols rows, not_not]

/-- One decoded picture of 64 by 64 pixels, and a frame that refers to it three times. -/
def demoConfig : ProgramConfig where
  defaults := .zero
  dmaOffset := 0
  codedWidth := 64
  codedHeight := 64
  pictureNv12 := true
  bytesperline := 64
  pictureHeight := 64
  pictures := 1
  planeDma _ := 0x10000
  mvColDma := 0x20000
  probCountDma := 0x30000
  entryInfoDma := 0x40000
  qlookup := ⟨fun _ => 0, fun _ => 0⟩
  qlookup10 := ⟨fun _ => 0, fun _ => 0⟩

def demoDecoder : Decoder 0 where
  store := .initial .zero
  picture buffer := if buffer = 0 then ⟨some 5, { width := 64, height := 64, bitDepth := 8, valid := true }⟩ else {}

/-- A frame whose header updates the compound-mode probabilities by the given delta. -/
def demoRequest (delta : UInt8) : Request where
  frame :=
    { Frame.stdInit with
      frameWidthMinus1 := 63
      frameHeightMinus1 := 63
      uncompressedHeaderSize := 10
      compressedHeaderSize := 10
      lastFrameTs := 5
      goldenFrameTs := 5
      altFrameTs := 5 }
  compressedHdr := ⟨0, { FrameContext.zero with compMode := fun _ => delta }⟩
  destination := 1
  timestamp := 6
  codedDma := 0x50000
  codedSize := 100
  codedBufferSize := 100
  reconAlloc := none
  segData := ⟨fun _ => 0, fun _ => 0, fun _ _ => 0, fun _ _ => false, false⟩
  lf := ⟨fun _ => 0, fun _ => 0, 0, 0, false⟩
  quant := ⟨0, 0, 0, 0⟩
  refFrameSignBias := 0

theorem programs_differ_updated :
    ∃ program other, demoDecoder.hwProgram demoConfig ((demoRequest 1).withHeader ⟨.select, 0, 0⟩) = .ok program ∧
      demoDecoder.hwProgram demoConfig ((demoRequest 1).withHeader ⟨.singleReference, 0, 0⟩) = .ok other ∧
      program ≠ other :=
  ⟨_, _, rfl, rfl, (programs_differ_iff demoDecoder demoConfig (demoRequest 1) ⟨.select, 0, 0⟩
    ⟨.singleReference, 0, 0⟩ rfl _ _ rfl rfl).mpr (Or.inl ⟨by decide, 0, by decide⟩)⟩

/-- Two frames that differ in the sign biases and the sharpness give one program. -/
theorem programs_not_always_differ :
    ¬ ∀ (size : ℕ) (dec : Decoder size) (config : ProgramConfig) (request : Request) (first second : HeaderFields)
      (program other : HwProgram), request.frame.isIntra = false → first ≠ second →
      dec.hwProgram config (request.withHeader first) = .ok program →
      dec.hwProgram config (request.withHeader second) = .ok other → program ≠ other := by
  intro claim
  exact claim 0 demoDecoder demoConfig (demoRequest 0) ⟨.singleReference, 0, 0⟩ ⟨.singleReference, 4, 3⟩ _ _ rfl
    (by decide) rfl rfl rfl

end H618Vpu.Vp9
