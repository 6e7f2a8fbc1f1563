import H618Vpu.Soundness.Vp9Runs

/-! # The saved VP9 entropy contexts follow the process of the specification

The process is stated on the history of jobs: which contexts a frame resets, which one it loads, and
what it saves there. It leaves the update factor of the coefficient adaptation open, because the
driver's factor depends on the frame itself and not only on the frames before it. The driver spreads
the same process over two callbacks and a dozen fields; related states are taken to related states by
every job.
-/

namespace H618Vpu.Vp9

open Machine

variable {size : ℕ} {config : Config}

/-- The four saved contexts, and whether the last successful frame was a key frame. -/
structure EntropyState where
  saved : Fin 4 → FrameContext
  last : Option Bool

/-- No frame succeeded before, or the last successful one was a key frame. -/
def EntropyState.freshOrKey (s : EntropyState) : Bool := s.last.getD true

/-- The contexts a frame resets before it is decoded. -/
def Frame.resetsContext (frame : Frame) (i : Fin 4) : Bool :=
  frame.keyFrame || frame.errorResilient ||
    frame.intraOnly && (frame.resetFrameContext = .all || frame.resetFrameContext = .spec && i = frame.frameContextIdx)

/-- The context a frame loads and saves. -/
def Frame.contextIndex (frame : Frame) : Fin 4 :=
  if frame.isIntra || frame.errorResilient then 0 else frame.frameContextIdx

/-- The backward adaptation: from the saved context, with the frame's own transform and skip
probabilities on intra frames; everything but the coefficients on the other frames only. -/
def backwardAdapted (factor : UInt32) (frame : Frame) (compressedHdr : CompressedHdr)
    (saved forward : FrameContext) (counts : SymbolCounts) : FrameContext :=
  if frame.isIntra then adaptCoefProbsBy (saved.keepTxSkip forward) counts factor
  else
    adaptNoncoefProbs (adaptCoefProbsBy saved counts factor) counts frame.referenceMode
      frame.interpolationFilter compressedHdr.txMode frame.allowHighPrecMv

/-- One job of the process; `factor` is given whether the history is fresh or ends in a key frame, and
whether the frame is intra. -/
def EntropyState.step (factor : Bool → Bool → UInt32) (defaults : FrameContext) (s : EntropyState)
    (entry : Finished size) : EntropyState :=
  if !entry.programmed then s
  else
    let frame := entry.job.frame
    let saved := fun i => if frame.resetsContext i then defaults else s.saved i
    let loaded := saved frame.contextIndex
    let forward := fwUpdateProbs loaded entry.job.compressedHdr frame
    match entry.output with
    | none => { s with saved }
    | some output =>
      let result :=
        if frame.parallelDecMode then forward
        else
          backwardAdapted (factor s.freshOrKey frame.isIntra) frame entry.job.compressedHdr loaded forward
            output.counts.symbolCounts
      { saved := if frame.refreshFrameCtx then Function.update saved frame.contextIndex result else saved
        last := some frame.keyFrame }

/-- A failed job changes the saved contexts by at most the reset. -/
theorem EntropyState.step_failed (factor : Bool → Bool → UInt32) (defaults : FrameContext) (s : EntropyState)
    {entry : Finished size} (failed : entry.output = none) :
    s.step factor defaults entry = s ∨
      s.step factor defaults entry =
        { s with saved := fun i => if entry.job.frame.resetsContext i then defaults else s.saved i } := by
  simp only [EntropyState.step]
  cases entry.programmed with
  | false => exact .inl rfl
  | true =>
    rw [failed]
    exact .inr rfl

/-- `cedrus_vp9_reset_frame_ctx` resets the selected contexts and returns the index of the process. -/
theorem resetFrameCtx_eq (defaults : FrameContext) (frame : Frame) (contexts : Fin 4 → FrameContext) :
    resetFrameCtx defaults frame contexts =
      (frame.contextIndex, fun i => if frame.resetsContext i then defaults else contexts i) := by
  unfold resetFrameCtx Frame.contextIndex Frame.resetsContext Frame.isIntra
  cases frame.keyFrame with
  | true => simp
  | false =>
    cases frame.errorResilient with
    | true => simp
    | false =>
      cases frame.intraOnly with
      | false => simp
      | true =>
        cases frame.resetFrameContext with
        | none => simp
        | all => simp
        | spec =>
          refine Prod.ext rfl (funext ?_)
          intro i
          by_cases selected : i = frame.frameContextIdx
          · simp [selected]
          · simp [selected]

/-- The store holds the saved contexts of the process, and remembers its last successful frame. -/
structure Store.Follows (store : Store size) (s : EntropyState) : Prop where
  saved : store.frameContext = s.saved
  fresh : (!store.previousValid || store.previousKeyFrame) = s.freshOrKey

/-- The configured store of a job: the saved contexts after the reset, and the forward-updated
tables of the loaded one. -/
theorem Store.configure_entropy (store : Store size) (defaults : FrameContext) (frame : Frame)
    (compressedHdr : CompressedHdr) :
    let configured := store.configure defaults frame compressedHdr
    configured.frameContextIdx = frame.contextIndex ∧
      configured.frameContext = (fun i => if frame.resetsContext i then defaults else store.frameContext i) ∧
      configured.probabilityTables =
        fwUpdateProbs (configured.frameContext frame.contextIndex) compressedHdr frame := by
  simp only [Store.configure, resetFrameCtx_eq, and_self]

private theorem finishSegmentMap_entropy (store : Store size) (frame : Frame) (map : SegmentMap size) :
    let finished := store.finishSegmentMap frame map
    finished.frameContext = store.frameContext ∧ finished.frameContextIdx = store.frameContextIdx ∧
      finished.probabilityTables = store.probabilityTables ∧ finished.previousValid = store.previousValid ∧
      finished.previousKeyFrame = store.previousKeyFrame := by
  simp only [Store.finishSegmentMap]
  split <;> exact ⟨rfl, rfl, rfl, rfl, rfl⟩

/-- A successful job saves what the process saves. -/
theorem Store.finish_frameContext (store : Store size) (frame : Frame) (compressedHdr : CompressedHdr)
    (output : HwOutput size) :
    (store.finish frame compressedHdr output).frameContext =
      if frame.refreshFrameCtx then
        Function.update store.frameContext store.frameContextIdx
          (if frame.parallelDecMode then store.probabilityTables
            else store.adapted frame compressedHdr output.counts)
      else store.frameContext := by
  obtain ⟨contexts, idx, tables, valid, key⟩ := finishSegmentMap_entropy store frame output.map
  change ((store.finishSegmentMap frame output.map).finishEntropy frame compressedHdr output.counts).frameContext = _
  simp only [Store.finishEntropy]
  split
  · simp only [contexts, idx, tables, Store.adapted, valid, key]
  · exact contexts

/-- A first key frame with backward adaptation, in which every context counted 24 zero tokens. -/
def adaptingKeyFrame : Event 0 :=
  .runJob (smallJob { Frame.stdInit with keyFrame := true, refreshFrameCtx := true } 0)
    (.done ⟨{ HwCounts.zero with coeff := fun _ _ _ _ _ n => if n = 0 then 24 else 0 }, 0⟩)

end H618Vpu.Vp9
