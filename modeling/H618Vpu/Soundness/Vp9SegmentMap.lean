import H618Vpu.Soundness.Vp9Runs

/-! # The segment map a VP9 frame starts from

The context keeps two maps and the index of the active one; a successful update-map frame writes the
other map and makes it active, a reset frame clears both. Over all runs the active map is therefore
the one retained by the specification. The hardware reads a window that is filled from the active
map before the reset of the same frame, and here the two differ.
-/

namespace H618Vpu.Vp9

open Machine

variable {size : ℕ} {config : Config}

/-- Key, intra-only and error-resilient frames reset the segment map. -/
def Frame.resetsMap (frame : Frame) : Bool := frame.isIntra || frame.errorResilient

/-- The map of a successful frame with segmentation enabled and a map update. -/
def Finished.writtenMap (entry : Finished size) : Option (SegmentMap size) :=
  if entry.job.frame.seg.enabled && entry.job.frame.seg.updateMap then entry.output.map (·.map) else none

/-- The map written by the last successful update-map frame since the last reset, or zero; the newest
job comes first. -/
def retainedMap : List (Finished size) → SegmentMap size
  | [] => 0
  | entry :: older =>
    match entry.writtenMap with
    | some map => map
    | none => if entry.programmed && entry.job.frame.resetsMap then 0 else retainedMap older

/-- The map a frame has to start from: a reset already applies to the frame itself. -/
def inputMap (jobs : List (Finished size)) (frame : Frame) : SegmentMap size :=
  if frame.resetsMap then 0 else retainedMap jobs

def Store.activeMap (store : Store size) : SegmentMap size := store.segmentMap store.activeSegmentMap

theorem Store.configure_activeMap (store : Store size) (defaults : FrameContext) (frame : Frame)
    (compressedHdr : CompressedHdr) :
    (store.configure defaults frame compressedHdr).activeMap = if frame.resetsMap then 0 else store.activeMap := by
  by_cases reset : frame.resetsMap = true
  · have cleared : (frame.isIntra || frame.errorResilient) = true := reset
    simp only [Store.activeMap, Store.configure, if_pos cleared, if_pos reset]
    rfl
  · have kept : ¬ (frame.isIntra || frame.errorResilient) = true := reset
    simp only [Store.activeMap, Store.configure, if_neg kept, if_neg reset]

theorem Store.configure_window (store : Store size) (defaults : FrameContext) (frame : Frame)
    (compressedHdr : CompressedHdr) :
    (store.configure defaults frame compressedHdr).window =
      if frame.seg.enabled && !frame.isIntra then store.activeMap else 0 := rfl

private theorem finishEntropy_activeMap (store : Store size) (frame : Frame) (compressedHdr : CompressedHdr)
    (hw : HwCounts) : (store.finishEntropy frame compressedHdr hw).activeMap = store.activeMap := by
  simp only [Store.finishEntropy]
  split <;> rfl

theorem Store.finish_activeMap (store : Store size) (frame : Frame) (compressedHdr : CompressedHdr)
    (output : HwOutput size) :
    (store.finish frame compressedHdr output).activeMap =
      if frame.seg.enabled && frame.seg.updateMap then output.map else store.activeMap := by
  change ((store.finishSegmentMap frame output.map).finishEntropy frame compressedHdr output.counts).activeMap = _
  rw [finishEntropy_activeMap]
  simp only [Store.activeMap, Store.finishSegmentMap]
  split
  · exact Function.update_self ..
  · rfl

/-- Finishing a job keeps the active map and the retained one together. -/
theorem Store.after_activeMap {store : Store size} {defaults : FrameContext} {entry : Finished size}
    {older : List (Finished size)} (agree : store.activeMap = retainedMap older) :
    (store.after defaults entry).activeMap = retainedMap (entry :: older) := by
  have configured :
      (if entry.programmed = true then store.configure defaults entry.job.frame entry.job.compressedHdr
        else store).activeMap =
        if entry.programmed && entry.job.frame.resetsMap then 0 else retainedMap older := by
    cases entry.programmed with
    | false => exact agree
    | true =>
      rw [if_pos rfl, Store.configure_activeMap, agree]
      rfl
  simp only [Store.after, retainedMap, Finished.writtenMap]
  cases written : entry.output with
  | none => simpa using configured
  | some output =>
    dsimp only
    rw [Store.finish_activeMap, configured]
    cases update : entry.job.frame.seg.enabled && entry.job.frame.seg.updateMap with
    | true => rfl
    | false => rfl

/-- In every run the active map is the retained one. -/
theorem activeMap_eq_retained {config : Config} {events : List (Event size)} {s : Traced size}
    (reached : run (Traced.step config) (.initial config) events = some s) :
    s.dec.store.activeMap = retainedMap s.jobs := by
  refine run_preserves (fun s : Traced size => s.dec.store.activeMap = retainedMap s.jobs) ?_ rfl reached
  intro s event next agree taken
  cases event with
  | queueBuffer buffer =>
    obtain rfl := Option.some.inj taken
    exact agree
  | runJob job outcome =>
    obtain rfl := Option.some.inj taken
    change (s.dec.runJob config job outcome).store.activeMap = _
    rw [Decoder.runJob_store]
    exact Store.after_activeMap agree

/-- The window of a programmed frame with segmentation enabled is the map it has to start from,
unless it is an error-resilient inter frame and the active map is not zero. -/
theorem segment_window_iff (config : Config) (events : List (Event size)) (s : Traced size)
    (reached : run (Traced.step config) (.initial config) events = some s) (job : Job) (program : Program)
    (programmed : ((s.dec.begin job).jobConfigure config job).2 = .ok program)
    (enabled : job.frame.seg.enabled = true) :
    ((s.dec.begin job).jobConfigure config job).1.store.window = inputMap s.jobs job.frame ↔
      ¬ (job.frame.errorResilient = true ∧ job.frame.isIntra = false ∧ s.dec.store.activeMap ≠ 0) := by
  obtain ⟨_, _, updated⟩ | ⟨errno, refused, -⟩ := (s.dec.begin job).jobConfigure_store config job
  · rw [updated, Store.configure_window, enabled, inputMap, ← activeMap_eq_retained reached]
    change (if true && !job.frame.isIntra then s.dec.store.activeMap else 0) = _ ↔ _
    cases intra : job.frame.isIntra with
    | true => simp [Frame.resetsMap, intra]
    | false =>
      cases resilient : job.frame.errorResilient with
      | false => simp [Frame.resetsMap, intra, resilient]
      | true => simp [Frame.resetsMap, intra, resilient]
  · rw [refused] at programmed
    cases programmed

/-- A frame that updates the segment map, into the buffer it refers to. -/
def mapJob (keyFrame errorResilient : Bool) : Job :=
  smallJob { Frame.stdInit with keyFrame, errorResilient, seg := ⟨true, true, false⟩ } 0

/-- A key frame that writes segment 3, then an inter frame. -/
theorem segment_window_inter_frame :
    ∃ s : Traced 1, run (Traced.step (smallConfig .zero)) (.initial (smallConfig .zero))
        [.runJob (mapJob true false) (.done ⟨.zero, fun _ => 3⟩)] = some s ∧
      inputMap s.jobs (mapJob false false).frame = (fun _ => 3) ∧
      ((s.dec.begin (mapJob false false)).jobConfigure (smallConfig .zero) (mapJob false false)).1.store.window =
        inputMap s.jobs (mapJob false false).frame :=
  ⟨_, rfl, rfl, (segment_window_iff (smallConfig .zero)
    [.runJob (mapJob true false) (.done ⟨.zero, fun _ => 3⟩)] _ rfl
    (mapJob false false) _ rfl rfl).mpr (by decide)⟩

/-- After the same key frame, an error-resilient inter frame still starts from the old map. -/
theorem segment_window_not_always_retained :
    ¬ ∀ (config : Config) (events : List (Event 1)) (s : Traced 1),
      run (Traced.step config) (.initial config) events = some s →
        ∀ (job : Job) (program : Program), ((s.dec.begin job).jobConfigure config job).2 = .ok program →
          job.frame.seg.enabled = true →
            ((s.dec.begin job).jobConfigure config job).1.store.window = inputMap s.jobs job.frame := by
  intro always
  have window := always (smallConfig .zero) [.runJob (mapJob true false) (.done ⟨.zero, fun _ => 3⟩)] _ rfl
    (mapJob false true) _ rfl rfl
  have first := congrFun window 0
  revert first
  decide

end H618Vpu.Vp9
