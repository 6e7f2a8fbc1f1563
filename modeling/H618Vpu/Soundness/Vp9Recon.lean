import H618Vpu.Model.Vp9Recon

/-! # The padding of a 10-bit surface

The planes of the surface are sized for the height in multiples of 16. The hardware writes the low bits of the
chroma below a luma plane in multiples of 8, so the driver moves them, and repeats the last visible rows, whenever
the two multiples differ. Where they are the same it repeats nothing, even if there are rows to fill.
-/

namespace H618Vpu.Vp9

open Math Bytes

variable {α : Type}

def extStride (width : ℕ) : ℕ := align (align width 4 / 4) 32

/-- The upper eight bits, and the lower two. -/
def highLuma (width : ℕ) : Plane := ⟨0, align width 16⟩

def highChroma (width height : ℕ) : Plane := ⟨align width 16 * align height 16, align width 16⟩

def lowLuma (width height : ℕ) : Plane := ⟨align width 16 * align height 16 * 3 / 2, extStride width⟩

def lowChroma (width height : ℕ) : Plane :=
  ⟨align width 16 * align height 16 * 3 / 2 + extStride width * align height 16, extStride width⟩

/-- Where the hardware leaves the low bits of the chroma. -/
def hwLowChroma (width height : ℕ) : Plane :=
  ⟨align width 16 * align height 16 * 3 / 2 + extStride width * align height 8, extStride width⟩

def lumaPlanes (width height : ℕ) : List Plane := [highLuma width, lowLuma width height]

def chromaPlanes (width height : ℕ) : List Plane := [highChroma width height, lowChroma width height]

/-- The rows below the visible ones repeat the last of them. -/
def Padding (planes : List Plane) (visible rows : ℕ) (memory : List α) : Prop :=
  ∀ plane ∈ planes, ∀ row, visible ≤ row → row < rows → ∀ x < plane.stride,
    memory[plane.row row + x]? = memory[plane.row (visible - 1) + x]?

/-- All planes are padded to the height in multiples of 16. -/
def ReconPadded (width height : ℕ) (memory : List α) : Prop :=
  Padding (lumaPlanes width height) height (align height 16) memory ∧
    Padding (chromaPlanes width height) (divRoundUp height 2) (align height 16 / 2) memory

/-- The low bits of the chroma have come to their plane. -/
def ChromaMoved (width height : ℕ) (before after : List α) : Prop :=
  ∀ row < divRoundUp height 2, ∀ x < extStride width,
    after[(lowChroma width height).row row + x]? = before[(hwLowChroma width height).row row + x]?

theorem align_sixteen_cases (height : ℕ) :
    align height 16 = align height 8 ∧ (height % 16 = 0 ∨ 8 < height % 16) ∨
      align height 16 = align height 8 + 8 ∧ 0 < height % 16 ∧ height % 16 ≤ 8 := by
  simp only [align]
  omega

theorem visible_le (height : ℕ) : height ≤ align height 16 ∧ divRoundUp height 2 ≤ align height 16 / 2 := by
  simp only [align, divRoundUp]
  omega

theorem extStride_pos {width : ℕ} (positive : 0 < width) : 0 < extStride width := by
  simp only [extStride, align]
  omega

/-- The ends of the planes are the starts of the next ones. -/
theorem plane_ends (width height : ℕ) :
    (highLuma width).row (align height 16) = (highChroma width height).start ∧
      (highChroma width height).row (align height 16 / 2) = (lowLuma width height).start ∧
      (lowLuma width height).row (align height 16) = (lowChroma width height).start ∧
      (lowChroma width height).row (align height 16 / 2) ≤ (tenBitReconSize width height).size := by
  obtain ⟨half, even⟩ : ∃ half, align height 16 = half * 2 :=
    ⟨(height + 16 - 1) / 16 * 8, by simp only [align]; omega⟩
  have halves (stride : ℕ) : stride * (half * 2) * 3 / 2 = stride * half * 3 := by
    rw [show stride * (half * 2) * 3 = stride * half * 3 * 2 by ring, Nat.mul_div_cancel _ Nat.two_pos]
  have middle : half * 2 / 2 = half := Nat.mul_div_cancel _ Nat.two_pos
  have luma : align width 16 * (half * 2) / 2 = align width 16 * half := by
    rw [← Nat.mul_assoc, Nat.mul_div_cancel _ Nat.two_pos]
  simp only [highLuma, highChroma, lowLuma, lowChroma, extStride, Plane.row, tenBitReconSize, even, halves, middle,
    luma]
  refine ⟨by ring, by ring, by ring, (Nat.le_of_eq ?_).trans (le_align _ (by decide))⟩
  ring

theorem lumaPlanes_apart (width height : ℕ) :
    (lumaPlanes width height).Pairwise (Plane.Apart (align height 16)) := by
  obtain ⟨first, second, -⟩ := plane_ends width height
  have order : (highLuma width).row (align height 16) ≤ (lowLuma width height).start := by
    rw [first, ← second]
    exact (highChroma width height).start_le_row _
  exact List.pairwise_pair.mpr (Or.inl order)

theorem chromaPlanes_apart (width height : ℕ) :
    (chromaPlanes width height).Pairwise (Plane.Apart (align height 16 / 2)) := by
  obtain ⟨-, second, third, -⟩ := plane_ends width height
  have order : (highChroma width height).row (align height 16 / 2) ≤ (lowChroma width height).start := by
    rw [second, ← third]
    exact (lowLuma width height).start_le_row _
  exact List.pairwise_pair.mpr (Or.inl order)

/-- All planes lie in the surface. -/
theorem planes_inside {width height size : ℕ} (room : (tenBitReconSize width height).size ≤ size) :
    (∀ plane ∈ lumaPlanes width height, plane.row (align height 16) ≤ size) ∧
      ∀ plane ∈ chromaPlanes width height, plane.row (align height 16 / 2) ≤ size := by
  obtain ⟨first, second, third, fourth⟩ := plane_ends width height
  have chroma := (highChroma width height).start_le_row (align height 16 / 2)
  have luma := (lowLuma width height).start_le_row (align height 16)
  have low := (lowChroma width height).start_le_row (align height 16 / 2)
  constructor <;> intro plane member <;> simp only [lumaPlanes, chromaPlanes, List.mem_cons, List.not_mem_nil,
    or_false] at member <;> rcases member with rfl | rfl <;> omega

/-- Where the two multiples are the same, nothing is done. -/
theorem finishTenBit_same {memory : List α} {reconSize width height : ℕ} (same : align height 16 = align height 8) :
    finishTenBit memory reconSize width height = some memory := by
  simp only [finishTenBit, same, ne_eq, not_true_eq_false, false_and, ↓reduceIte]

/-- Where they differ, the chroma is moved and the planes are extended. -/
theorem finishTenBit_differ {memory : List α} {width height : ℕ} (positive : 0 < width)
    (room : (tenBitReconSize width height).size ≤ memory.length) (differ : align height 16 = align height 8 + 8) :
    finishTenBit memory memory.length width height =
      (move memory (lowChroma width height).start (hwLowChroma width height).start
        (extStride width * divRoundUp height 2)).bind fun moved =>
      ((extension (lumaPlanes width height) height (align height 16)).foldlM Copy.run moved).bind fun extended =>
      (extension (chromaPlanes width height) (divRoundUp height 2) (align height 16 / 2)).foldlM Copy.run extended := by
  have different : (hwLowChroma width height).start ≠ (lowChroma width height).start := by
    have wide := Nat.mul_lt_mul_of_pos_left (show align height 8 < align height 16 by omega) (extStride_pos positive)
    simp only [hwLowChroma, lowChroma]
    omega
  have fits : (lowChroma width height).start + extStride width * divRoundUp height 2 ≤ memory.length := by
    obtain ⟨-, -, -, last⟩ := plane_ends width height
    have rows :
        (lowChroma width height).row (divRoundUp height 2) ≤ (lowChroma width height).row (align height 16 / 2) :=
      (lowChroma width height).row_mono (visible_le height).2
    rw [Nat.mul_comm]
    exact rows.trans (last.trans room)
  simp only [lumaPlanes, chromaPlanes, ← foldlM_extension]
  simp only [hwLowChroma, lowChroma, extStride] at different fits
  simp only [finishTenBit, ne_eq, different, not_false_eq_true, fits, and_self, ↓reduceIte, Option.bind_eq_bind,
    hwLowChroma, lowChroma, extStride, Plane.row, highLuma, highChroma, lowLuma, Nat.zero_add]

/-- What the move and the two extensions leave behind. -/
structure ReconFinished (width height : ℕ) (memory after : List α) : Prop where
  length : after.length = memory.length
  luma : ∀ plane ∈ lumaPlanes width height, ∀ row < align height 16, ∀ x < plane.stride,
    after[plane.row row + x]? = memory[plane.row (min row (height - 1)) + x]?
  highChroma : ∀ row < align height 16 / 2, ∀ x < align width 16,
    after[(highChroma width height).row row + x]? =
      memory[(highChroma width height).row (min row (divRoundUp height 2 - 1)) + x]?
  lowChroma : ∀ row < align height 16 / 2, ∀ x < extStride width,
    after[(lowChroma width height).row row + x]? =
      memory[(hwLowChroma width height).row (min row (divRoundUp height 2 - 1)) + x]?

theorem finishTenBit_spec {memory : List α} {width height : ℕ} (wide : 0 < width) (high : 0 < height)
    (room : (tenBitReconSize width height).size ≤ memory.length) (differ : align height 16 = align height 8 + 8) :
    ∃ after, finishTenBit memory memory.length width height = some after ∧ ReconFinished width height memory after := by
  obtain ⟨first, second, third, last⟩ := plane_ends width height
  obtain ⟨visible, chromaVisible⟩ := visible_le height
  have chromaHigh : 0 < divRoundUp height 2 := by
    rw [divRoundUp]
    omega
  have lumaOrder := (highChroma width height).start_le_row (align height 16 / 2)
  have chromaOrder := (lowLuma width height).start_le_row (align height 16)
  have back : (hwLowChroma width height).start ≤ (lowChroma width height).start :=
    Nat.add_le_add_left (Nat.mul_le_mul_left _ (by omega)) _
  have rows : (lowChroma width height).row (divRoundUp height 2) ≤ (lowChroma width height).row (align height 16 / 2) :=
    (lowChroma width height).row_mono chromaVisible
  have payload : (lowChroma width height).row (divRoundUp height 2) =
      (lowChroma width height).start + extStride width * divRoundUp height 2 := by
    rw [Plane.row, Nat.mul_comm]
    rfl
  have source : (hwLowChroma width height).start + extStride width * divRoundUp height 2 ≤ memory.length := by omega
  have target : (lowChroma width height).start + extStride width * divRoundUp height 2 ≤ memory.length := by omega
  obtain ⟨moved, move, movedLength, inside, outside⟩ := move_spec source target
  rw [← movedLength] at room
  obtain ⟨extended, lumaRun, luma⟩ := extension_spec high (lumaPlanes_apart width height)
    (planes_inside room).1
  rw [← luma.length] at room
  obtain ⟨after, chromaRun, chroma⟩ := extension_spec chromaHigh (chromaPlanes_apart width height)
    (planes_inside room).2
  refine ⟨after, ?run, ?finished⟩
  case run =>
    rw [luma.length, movedLength] at room
    rw [finishTenBit_differ wide room differ, move, Option.bind_some, lumaRun, Option.bind_some, chromaRun]
  case finished =>
    refine ⟨chroma.length.trans (luma.length.trans movedLength), ?luma, ?highChroma, ?lowChroma⟩
    case luma =>
      intro plane member row below x small
      have shown : min row (height - 1) < align height 16 := by omega
      have apart : ∀ other ∈ chromaPlanes width height,
          plane.row row + x < other.start ∨ other.row (align height 16 / 2) ≤ plane.row row + x := by
        intro other among
        simp only [lumaPlanes, chromaPlanes, List.mem_cons, List.not_mem_nil, or_false] at member among
        have cell := plane.cell_inside below small
        rcases member with rfl | rfl <;> rcases among with rfl | rfl <;> omega
      have early : plane.row (min row (height - 1)) + x < (lowChroma width height).start := by
        have cell := plane.cell_inside shown small
        simp only [lumaPlanes, List.mem_cons, List.not_mem_nil, or_false] at member
        rcases member with rfl | rfl <;> omega
      rw [chroma.frame _ apart, luma.row plane member row below x small, outside _ (Or.inl early)]
    case highChroma =>
      intro row below x small
      have shown : min row (divRoundUp height 2 - 1) < align height 16 / 2 := by omega
      have cell := (highChroma width height).cell_inside shown small
      have apart : ∀ other ∈ lumaPlanes width height,
          (highChroma width height).row (min row (divRoundUp height 2 - 1)) + x < other.start ∨
            other.row (align height 16) ≤ (highChroma width height).row (min row (divRoundUp height 2 - 1)) + x := by
        intro other among
        simp only [lumaPlanes, List.mem_cons, List.not_mem_nil, or_false] at among
        rcases among with rfl | rfl <;> omega
      rw [chroma.row _ (List.mem_cons_self ..) row below x small, luma.frame _ apart, outside _ (Or.inl (by omega))]
    case lowChroma =>
      intro row below x small
      have shown : min row (divRoundUp height 2 - 1) < divRoundUp height 2 := by omega
      have cell := (lowChroma width height).cell_inside shown small
      have apart : ∀ other ∈ lumaPlanes width height,
          (lowChroma width height).row (min row (divRoundUp height 2 - 1)) + x < other.start ∨
            other.row (align height 16) ≤ (lowChroma width height).row (min row (divRoundUp height 2 - 1)) + x := by
        intro other among
        simp only [lumaPlanes, List.mem_cons, List.not_mem_nil, or_false] at among
        rcases among with rfl | rfl <;> omega
      rw [chroma.row _ (List.mem_cons_of_mem _ (List.mem_cons_self ..)) row below x small, luma.frame _ apart]
      have place : (lowChroma width height).row (min row (divRoundUp height 2 - 1)) + x =
          (lowChroma width height).start + (min row (divRoundUp height 2 - 1) * extStride width + x) :=
        Nat.add_assoc _ _ _
      rw [place, inside _ (by omega), ← Nat.add_assoc]
      rfl

/-- The visible rows stay, the low bits of the chroma in their new place. -/
structure VisibleKept (width height : ℕ) (before after : List α) : Prop where
  luma : ∀ plane ∈ lumaPlanes width height, ∀ row < height, ∀ x < plane.stride,
    after[plane.row row + x]? = before[plane.row row + x]?
  highChroma : ∀ row < divRoundUp height 2, ∀ x < align width 16,
    after[(highChroma width height).row row + x]? = before[(highChroma width height).row row + x]?
  lowChroma : ChromaMoved width height before after

theorem ReconFinished.visibleKept {width height : ℕ} {memory after : List α}
    (finished : ReconFinished width height memory after) : VisibleKept width height memory after := by
  obtain ⟨visible, chromaVisible⟩ := visible_le height
  refine ⟨?luma, ?highChroma, ?lowChroma⟩
  case luma =>
    intro plane member row below x small
    rw [finished.luma plane member row (by omega) x small, min_eq_left (by omega)]
  case highChroma =>
    intro row below x small
    rw [finished.highChroma row (by omega) x small, min_eq_left (by omega)]
  case lowChroma =>
    intro row below x small
    rw [finished.lowChroma row (by omega) x small, min_eq_left (by omega)]

theorem chromaMoved_same {width height : ℕ} (memory : List α) (same : align height 16 = align height 8) :
    ChromaMoved width height memory memory := by
  intro row below x small
  rw [lowChroma, hwLowChroma, same]

/-- Every access of the end of a job stays in the surface, and what is visible is kept. -/
theorem finishTenBit_kept {memory : List α} {width height : ℕ} (wide : 0 < width) (high : 0 < height)
    (room : (tenBitReconSize width height).size ≤ memory.length) :
    ∃ after, finishTenBit memory memory.length width height = some after ∧ after.length = memory.length ∧
      VisibleKept width height memory after := by
  rcases align_sixteen_cases height with ⟨same, -⟩ | ⟨differ, -⟩
  · exact ⟨memory, finishTenBit_same same, rfl, fun _ _ _ _ _ _ => rfl, fun _ _ _ _ => rfl,
      chromaMoved_same memory same⟩
  · obtain ⟨after, done, finished⟩ := finishTenBit_spec wide high room differ
    exact ⟨after, done, finished.length, finished.visibleKept⟩

theorem recon_kept (record : Record) (frame : Frame) (surface : Surface) (memory : List α)
    (tenBit : frame.bitDepth = 10) (held : record.recon = some surface) (filled : memory.length = surface.size)
    (room : (tenBitReconSize frame.width frame.height).size ≤ surface.size) :
    ∃ after, record.finishRecon frame memory = some after ∧ after.length = memory.length ∧
      VisibleKept frame.width frame.height memory after := by
  rw [← filled] at room
  obtain ⟨after, done, kept⟩ := finishTenBit_kept (Nat.succ_pos _) (Nat.succ_pos _) room
  refine ⟨after, ?_, kept⟩
  simp only [Record.finishRecon, held, tenBit, ↓reduceIte, ← filled]
  exact done

/-- A 10-bit frame of sixteen columns, with the given number of rows. -/
def tenBitFrame (rows : ℕ) : Frame :=
  { Frame.stdInit with profile := 2, bitDepth := 10, frameWidthMinus1 := 15, frameHeightMinus1 := rows - 1 }

theorem recon_kept_eight :
    ∃ after, ({ recon := some ⟨0x10000, 4096⟩ } : Record).finishRecon (tenBitFrame 8)
        (List.replicate 4096 (0 : UInt8)) = some after ∧ after.length = 4096 :=
  have ⟨after, done, length, _⟩ := recon_kept { recon := some ⟨0x10000, 4096⟩ } (tenBitFrame 8) ⟨0x10000, 4096⟩
    (List.replicate 4096 (0 : UInt8)) rfl rfl List.length_replicate (by decide)
  ⟨after, done, length.trans List.length_replicate⟩

theorem ReconFinished.padded {width height : ℕ} {memory after : List α} (high : 0 < height)
    (finished : ReconFinished width height memory after) : ReconPadded width height after := by
  obtain ⟨visible, chromaVisible⟩ := visible_le height
  have chromaHigh : 0 < divRoundUp height 2 := by
    rw [divRoundUp]
    omega
  constructor
  · intro plane member row low below x small
    rw [finished.luma plane member row below x small, finished.luma plane member (height - 1) (by omega) x small,
      min_eq_right (by omega), min_self]
  · intro plane member row low below x small
    simp only [chromaPlanes, List.mem_cons, List.not_mem_nil, or_false] at member
    rcases member with rfl | rfl
    · rw [finished.highChroma row below x small, finished.highChroma _ (by omega) x small,
        min_eq_right (by omega), min_self]
    · rw [finished.lowChroma row below x small, finished.lowChroma _ (by omega) x small,
        min_eq_right (by omega), min_self]

/-- A height in multiples of 16 leaves no row to fill. -/
theorem reconPadded_full {width height : ℕ} (memory : List α) (full : height % 16 = 0) :
    ReconPadded width height memory := by
  have luma : align height 16 ≤ height := by
    simp only [align]
    omega
  have chroma : align height 16 / 2 ≤ divRoundUp height 2 := by
    simp only [align, divRoundUp]
    omega
  constructor <;> intro plane member row low below <;> omega

/-- A surface that was asked for is large enough. -/
theorem ensureTenBitRecon_room {record : Record} {width height : ℕ} {reconAlloc : Option ℕ} {surface : Surface}
    (ensured : (ensureTenBitRecon record width height reconAlloc).2 = true)
    (held : (ensureTenBitRecon record width height reconAlloc).1.recon = some surface) :
    (tenBitReconSize width height).size ≤ surface.size := by
  by_cases enough : ∃ surface ∈ record.recon, (tenBitReconSize width height).size ≤ surface.size
  · simp only [ensureTenBitRecon, if_pos enough] at held
    obtain ⟨kept, present, room⟩ := enough
    obtain rfl : kept = surface := Option.some.inj (present.symm.trans held)
    exact room
  · cases reconAlloc with
    | none => simp only [ensureTenBitRecon, if_neg enough, Bool.false_eq_true] at ensured
    | some dma =>
      simp only [ensureTenBitRecon, if_neg enough, Option.some.injEq] at held
      rw [← held]

theorem recon_padded_iff (record : Record) (frame : Frame) (reconAlloc : Option ℕ) (surface : Surface)
    (memory : List α) (tenBit : frame.bitDepth = 10)
    (ensured : (ensureTenBitRecon record frame.width frame.height reconAlloc).2 = true)
    (held : (ensureTenBitRecon record frame.width frame.height reconAlloc).1.recon = some surface)
    (filled : memory.length = surface.size) :
    ∃ after, (ensureTenBitRecon record frame.width frame.height reconAlloc).1.finishRecon frame memory = some after ∧
      (ChromaMoved frame.width frame.height memory after ∧ ReconPadded frame.width frame.height after ↔
        frame.height % 16 ≤ 8 ∨ ReconPadded frame.width frame.height memory) := by
  have room := ensureTenBitRecon_room ensured held
  rw [← filled] at room
  simp only [Record.finishRecon, held, tenBit, ↓reduceIte, ← filled]
  rcases align_sixteen_cases frame.height with ⟨same, rows⟩ | ⟨differ, rows⟩
  · refine ⟨memory, finishTenBit_same same, ?_⟩
    constructor
    · exact fun padded => Or.inr padded.2
    · rintro (short | padded)
      · exact ⟨chromaMoved_same memory same, reconPadded_full memory (by omega)⟩
      · exact ⟨chromaMoved_same memory same, padded⟩
  · obtain ⟨after, done, finished⟩ := finishTenBit_spec (Nat.succ_pos _) (Nat.succ_pos _) room differ
    refine ⟨after, done, iff_of_true ⟨finished.visibleKept.lowChroma, finished.padded (Nat.succ_pos _)⟩ ?_⟩
    exact Or.inl rows.2

/-- Eight luma rows of ones, with zeros behind them. -/
def eightRows : List UInt8 := List.replicate 128 1 ++ List.replicate 3968 0

theorem recon_padded_eight :
    ∃ after, (ensureTenBitRecon {} 16 8 (some 0x10000)).1.finishRecon (tenBitFrame 8) eightRows = some after ∧
      ChromaMoved 16 8 eightRows after ∧ ReconPadded 16 8 after := by
  have size : eightRows.length = 4096 := by
    rw [eightRows, List.length_append, List.length_replicate, List.length_replicate]
  obtain ⟨after, finished, padded⟩ :=
    recon_padded_iff {} (tenBitFrame 8) (some 0x10000) ⟨0x10000, 4096⟩ eightRows rfl rfl rfl size
  exact ⟨after, finished, padded.mpr (.inl (by decide))⟩

/-- Nine rows: the seven below them are left as they are. -/
theorem recon_not_padded :
    ¬ ∀ (record : Record) (frame : Frame) (reconAlloc : Option ℕ) (surface : Surface) (memory after : List UInt8),
      frame.bitDepth = 10 → (ensureTenBitRecon record frame.width frame.height reconAlloc).2 = true →
      (ensureTenBitRecon record frame.width frame.height reconAlloc).1.recon = some surface →
      memory.length = surface.size →
      (ensureTenBitRecon record frame.width frame.height reconAlloc).1.finishRecon frame memory = some after →
      ReconPadded frame.width frame.height after := by
  intro claim
  have padded := claim {} (tenBitFrame 9) (some 0x10000) ⟨0x10000, 4096⟩
    (List.replicate 144 1 ++ List.replicate 3952 0) _ rfl rfl rfl
    (by rw [List.length_append, List.length_replicate, List.length_replicate]) rfl
  have row := padded.1 (highLuma 16) (List.mem_cons_self ..) 9 (by decide) (by decide) 0 (by decide)
  exact absurd row (by decide)

end H618Vpu.Vp9
