import H618Vpu.Model.Vp9Image

/-! # The VP9 probability image is what both packers make of it -/

namespace H618Vpu.Vp9

open Bytes

/-- The image before the motion-vector components, in tables at the strides of the hardware. -/
def FrameContext.wordTables (p : FrameContext) : List (Table UInt8) :=
  [(Table.row fun i : Fin 2 => p.tx8 i 0).spaced 2,
    (Table.ofFn p.tx16).spaced 2,
    (Table.ofFn p.tx32).spaced 1,
    (coefTable p.coef).spaced 1,
    (Table.row p.skip).spaced 1,
    (Table.ofFn p.interMode).spaced 1,
    (Table.ofFn p.interpFilter).spaced 2,
    (Table.row p.isInter).spaced 0,
    (Table.row p.compMode).spaced 3,
    (Table.row p.compRef).spaced 3,
    (Table.ofFn p.singleRef).spaced 2,
    Table.gap 4,
    (Table.ofFn p.yMode).spaced 7,
    (Table.ofFn p.uvMode).spaced 7,
    (Table.ofFn p.partition).spaced 1,
    (Table.row p.mv.joint).spaced 1]

def wordSizes : List ℕ := [4, 8, 8, 2304, 4, 28, 16, 4, 8, 8, 20, 4, 64, 160, 64, 4]

def tableSizes : List ℕ := [2, 4, 6, 1728, 3, 21, 8, 4, 5, 10, 5, 36, 90, 48, 3, 2, 20, 2, 20, 12, 6, 2, 2]

theorem FrameContext.tables_sizes (p : FrameContext) : p.tables.map Table.extent = tableSizes := by
  simp [tables, tableSizes, Table.extent, Table.ofFn, Table.join, Table.row, Table.column, coefTable,
    List.length_flatMap]

theorem FrameContext.wordTables_sizes (p : FrameContext) : p.wordTables.map Table.extent = wordSizes := by
  simp [wordTables, wordSizes, Table.extent, Table.ofFn, Table.join, Table.row, Table.spaced, coefTable, Table.gap,
    List.length_flatMap]

namespace PackCursor

/-- The cursor after a sequence of rows. -/
def extend (cursor : PackCursor) (rows : List (Row UInt8)) : PackCursor :=
  ⟨cursor.dst + extent rows, cursor.writes ++ rowPatches cursor.dst rows⟩

theorem extend_extend (cursor : PackCursor) (first second : List (Row UInt8)) :
    (cursor.extend first).extend second = cursor.extend (first ++ second) := by
  simp only [extend, extent_append, rowPatches_append, List.append_assoc, Nat.add_assoc]

theorem copy_eq (cursor : PackCursor) (src : List UInt8) (advance : ℕ) :
    cursor.copy src advance = cursor.extend [⟨src, advance⟩] := by
  simp [copy, extend, rowPatches, extent]

theorem foldl_copy (cursor : PackCursor) (rows : List (List UInt8)) (advance : ℕ) :
    rows.foldl (fun cursor row => cursor.copy row advance) cursor = cursor.extend (uniform advance rows) := by
  induction rows generalizing cursor with
  | nil => simp [extend, uniform, rowPatches, extent]
  | cons row rows ih =>
    rw [List.foldl_cons, ih, copy_eq, extend_extend]
    rfl

theorem foldl_copy_ofFn {m : ℕ} (cursor : PackCursor) (rows : Fin m → List UInt8) (advance : ℕ) :
    (List.finRange m).foldl (fun cursor i => cursor.copy (rows i) advance) cursor =
      cursor.extend (uniform advance (List.ofFn rows)) := by
  rw [← foldl_copy, List.ofFn_eq_map, List.foldl_map]

theorem packWords_eq {m n : ℕ} (cursor : PackCursor) (src : Fin m → Fin n → UInt8) :
    cursor.packWords src = cursor.extend (uniform 4 (Table.ofFn src).rows) := foldl_copy_ofFn ..

theorem packModes_eq {m n : ℕ} (cursor : PackCursor) (src : Fin m → Fin n → UInt8) :
    cursor.packModes src = cursor.extend (uniform 16 (Table.ofFn src).rows) := foldl_copy_ofFn ..

/-- Rows in nested loops are the rows of the joined tables. -/
theorem foldl_extend_join {m n : ℕ} (cursor : PackCursor) (tables : Fin m → Table UInt8)
    (shape : ∀ i, (tables i).width = n) :
    (List.finRange m).foldl (fun cursor i => cursor.extend (uniform 4 (tables i).rows)) cursor =
      cursor.extend (uniform 4 (Table.join tables shape).rows) := by
  simp only [← foldl_copy, Table.join, List.foldl_flatMap]

theorem packCoefs_eq (cursor : PackCursor) (coef : Fin 4 → Fin 2 → Fin 2 → Fin 6 → Fin 6 → Fin 3 → UInt8) :
    cursor.packCoefs coef = cursor.extend (uniform 4 (coefTable coef).rows) := by
  have bands (i j k) (cursor : PackCursor) :
      (List.finRange 6).foldl (fun cursor l => cursor.packWords (coef i j k l)) cursor =
        cursor.extend (uniform 4 (Table.join (fun l => Table.ofFn (coef i j k l)) fun _ => rfl).rows) := by
    simp only [packWords_eq]
    exact cursor.foldl_extend_join (fun l => Table.ofFn (coef i j k l)) _
  simp only [packCoefs, bands]
  simp only [fun i j cursor => foldl_extend_join cursor
    (fun k => Table.join (fun l => Table.ofFn (coef i j k l)) fun _ => rfl) (n := 3) fun _ => rfl]
  simp only [fun i cursor => foldl_extend_join cursor (fun j => Table.join
    (fun k => Table.join (fun l => Table.ofFn (coef i j k l)) fun _ => rfl) fun _ => rfl) (n := 3) fun _ => rfl]
  exact cursor.foldl_extend_join (n := 3) _ fun _ => rfl

end PackCursor

/-- The rows before the words the driver skips, and the rows after them. -/
def FrameContext.headRows (p : FrameContext) : List (Row UInt8) :=
  ⟨[p.tx8 0 0], 1⟩ :: ⟨[p.tx8 1 0], 3⟩ :: layoutRows ((p.wordTables.take 11).drop 1)

def FrameContext.modeRows (p : FrameContext) : List (Row UInt8) := layoutRows (p.wordTables.drop 12)

theorem packWordImage_eq (p : FrameContext) :
    packWordImage p =
      let head := (⟨0, []⟩ : PackCursor).extend p.headRows
      (⟨head.dst + 4, head.writes⟩ : PackCursor).extend p.modeRows := by
  have start : (⟨4, [⟨0, [p.tx8 0 0]⟩, ⟨1, [p.tx8 1 0]⟩]⟩ : PackCursor) =
      (⟨0, []⟩ : PackCursor).extend [⟨[p.tx8 0 0], 1⟩, ⟨[p.tx8 1 0], 3⟩] := rfl
  simp only [packWordImage, start, PackCursor.packCoefs_eq, PackCursor.packWords_eq, PackCursor.packModes_eq,
    PackCursor.packWord, PackCursor.copy_eq, PackCursor.extend_extend]
  simp only [FrameContext.headRows, FrameContext.modeRows, FrameContext.wordTables, List.take_succ_cons,
    List.drop_succ_cons, List.take_zero, List.drop_zero, layoutRows, List.flatMap_cons, List.flatMap_nil,
    Table.strideRows, Table.spaced, List.append_assoc, List.append_nil, List.cons_append, List.nil_append]
  rfl

theorem extent_drop_take (p : FrameContext) (low high : ℕ) :
    extent (layoutRows ((p.wordTables.take high).drop low)) = ((wordSizes.take high).drop low).sum := by
  rw [extent_layoutRows, layoutExtent, List.map_drop, List.map_take, p.wordTables_sizes]

theorem extent_headRows (p : FrameContext) : extent p.headRows = 0x96c := by
  simp only [FrameContext.headRows, extent_cons, extent_drop_take]
  rfl

theorem extent_modeRows (p : FrameContext) : extent p.modeRows = 0x124 := extent_drop_take p 12 16

/-- The check of the driver's pointer against the address of the motion vectors never warns. -/
theorem packWordImage_dst (p : FrameContext) : (packWordImage p).dst = 0xa94 := by
  simp only [packWordImage_eq, PackCursor.extend, extent_headRows, extent_modeRows]

/-- The rows of one motion-vector component. -/
def MvProbs.componentRows (probs : MvProbs) (i : Fin 2) : List (Row UInt8) :=
  [⟨[probs.sign i], 1⟩, ⟨[probs.class0Bit i], 1⟩, ⟨[probs.class0Hp i], 1⟩, ⟨[probs.hp i], 1⟩,
    ⟨List.ofFn (probs.class0Fr i 0), 4⟩, ⟨List.ofFn (probs.class0Fr i 1), 4⟩,
    ⟨List.ofFn (probs.classes i), 16⟩, ⟨List.ofFn (probs.bits i), 12⟩, ⟨List.ofFn (probs.fr i), 3⟩]

/-- The rows of the segment trees. -/
def SegmentationParams.treeRows (seg : SegmentationParams) : List (Row UInt8) :=
  [⟨List.ofFn seg.treeProbs, 8⟩, ⟨List.ofFn seg.predProbs, 3⟩]

/-- Where the driver writes rows, in the order it does. -/
def imageBlocks (p : FrameContext) (seg : SegmentationParams) : List (ℕ × List (Row UInt8)) :=
  [(0, p.headRows), (0x970, p.modeRows), (0xac4, p.mv.componentRows 0), (0xa94, p.mv.componentRows 1)] ++
    if seg.enabled then [(0xaf0, seg.treeRows)] else []

theorem extent_componentRows (probs : MvProbs) (i : Fin 2) : extent (probs.componentRows i) = 0x2b := rfl

theorem headRows_fits (p : FrameContext) : ∀ row ∈ p.headRows, row.Fits := by
  intro row member
  simp only [FrameContext.headRows, List.mem_cons] at member
  rcases member with rfl | rfl | member
  · exact Nat.le_refl 1
  · exact Nat.le_of_ble_eq_true rfl
  · exact layoutRows_fits _ row member

theorem componentRows_fits (probs : MvProbs) (i : Fin 2) : ∀ row ∈ probs.componentRows i, row.Fits := by
  simp [MvProbs.componentRows, Row.Fits]

theorem length_componentRows (probs : MvProbs) (i : Fin 2) : (strided (probs.componentRows i)).length = 0x2b := by
  rw [length_strided _ (componentRows_fits probs i), extent_componentRows]

theorem treeRows_fits (seg : SegmentationParams) : ∀ row ∈ seg.treeRows, row.Fits := by
  simp [SegmentationParams.treeRows, Row.Fits]

theorem imageBlocks_fits (p : FrameContext) (seg : SegmentationParams) :
    ∀ block ∈ imageBlocks p seg, ∀ row ∈ block.2, row.Fits := by
  intro block member
  have cases : block = (0, p.headRows) ∨ block = (0x970, p.modeRows) ∨
      (∃ start i, block = (start, p.mv.componentRows i)) ∨ block = (0xaf0, seg.treeRows) := by
    cases enabled : seg.enabled <;> simp [imageBlocks, enabled] at member <;> grind
  rcases cases with rfl | rfl | ⟨start, i, rfl⟩ | rfl
  · exact headRows_fits p
  · exact layoutRows_fits _
  · exact componentRows_fits p.mv i
  · exact treeRows_fits seg

theorem packWrites_eq (p : FrameContext) (seg : SegmentationParams) :
    packWrites p seg = blockPatches (imageBlocks p seg) := by
  have components : ((List.finRange 2).flatMap fun i => packMvComponent p.mv (0xa94 + (1 - i.val) * 0x30) i) =
      rowPatches 0xac4 (p.mv.componentRows 0) ++ rowPatches 0xa94 (p.mv.componentRows 1) := rfl
  have trees : packSegmentTrees seg = blockPatches (if seg.enabled then [(0xaf0, seg.treeRows)] else []) := by
    cases enabled : seg.enabled <;>
      simp [packSegmentTrees, enabled, blockPatches, SegmentationParams.treeRows, rowPatches]
  rw [packWrites, packWordImage_eq, components, trees]
  simp only [PackCursor.extend, extent_headRows, imageBlocks, blockPatches, List.flatMap_append, List.flatMap_cons,
    List.flatMap_nil, List.append_nil, List.append_assoc, List.nil_append, Nat.zero_add, Nat.reduceAdd]

/-- The writes of the driver are apart and stay inside the image. -/
theorem packWrites_apart (p : FrameContext) (seg : SegmentationParams) : (packWrites p seg).Pairwise Patch.Apart := by
  rw [packWrites_eq]
  apply blockPatches_apart _ (imageBlocks_fits p seg)
  have trees : extent seg.treeRows = 11 := rfl
  cases enabled : seg.enabled <;>
    simp [imageBlocks, enabled, extent_headRows, extent_modeRows, extent_componentRows, trees]

theorem packWrites_stop (p : FrameContext) (seg : SegmentationParams) :
    ∀ patch ∈ packWrites p seg, patch.stop ≤ probsSize := by
  rw [packWrites_eq]
  apply blockPatches_stop _ (imageBlocks_fits p seg)
  have trees : extent seg.treeRows = 11 := rfl
  cases enabled : seg.enabled <;>
    simp [imageBlocks, enabled, extent_headRows, extent_modeRows, extent_componentRows, trees, probsSize]

/-- The end of the image after the second component: blank, or the segment trees in it. -/
def SegmentationParams.treeImage (seg : SegmentationParams) : List UInt8 :=
  if seg.enabled then blank 1 ++ (strided seg.treeRows ++ blank 1) else blank 13

/-- The motion-vector components, the second one first. -/
def MvProbs.image (probs : MvProbs) (trees : List UInt8) : List UInt8 :=
  strided (probs.componentRows 1) ++ (blank 5 ++ (strided (probs.componentRows 0) ++ trees))

theorem layout_wordTables (p : FrameContext) :
    layout p.wordTables = strided p.headRows ++ (blank 4 ++ strided p.modeRows) := by
  have first : strided (⟨[p.tx8 0 0], 1⟩ :: ⟨[p.tx8 1 0], 3⟩ :: layoutRows ((p.wordTables.take 11).drop 1)) =
      layout (p.wordTables.take 11) := rfl
  rw [FrameContext.headRows, first, FrameContext.modeRows, layout_split p.wordTables 11 (Table.gap 4) rfl]
  rfl

theorem length_wordImage (p : FrameContext) : (layout p.wordTables).length = 0xa94 := by
  rw [length_layout, layoutExtent, p.wordTables_sizes]
  rfl

theorem modeRows_fits (p : FrameContext) : ∀ row ∈ p.modeRows, row.Fits := layoutRows_fits _

/-- The blank image, cut where the driver's blocks lie. -/
theorem blank_probsSize : (blank probsSize : List UInt8) = blank 0x96c ++ (blank 4 ++ (blank 0x124 ++
    (blank 0x2b ++ (blank 5 ++ (blank 0x2b ++ (blank 1 ++ (blank 11 ++ blank 1))))))) := by
  simp only [← blank_add]
  rfl

/-- The image the driver leaves, and nothing else touched. -/
theorem packProbs_eq (buffer : List UInt8) (p : FrameContext) (seg : SegmentationParams) :
    packProbs buffer p seg =
      layout p.wordTables ++ (p.mv.image seg.treeImage ++ buffer.drop probsSize) := by
  have zeroed : store buffer 0 (blank probsSize) = blank probsSize ++ buffer.drop probsSize := by
    rw [store, List.take_zero, List.nil_append, Nat.zero_add, length_blank]
  generalize buffer.drop probsSize = rest at zeroed ⊢
  have headLength : (strided p.headRows).length = 0x96c := by
    rw [length_strided _ (headRows_fits p), extent_headRows]
  have modeLength : (strided p.modeRows).length = 0x124 := by
    rw [length_strided _ (modeRows_fits p), extent_modeRows]
  have treeExtent : extent seg.treeRows = 11 := rfl
  -- the running pointer, up to the words it skips and from there on
  have head rest := applyAll_rowPatches [] rest p.headRows (headRows_fits p)
  have modes rest := applyAll_rowPatches (strided p.headRows ++ blank 4) rest p.modeRows (modeRows_fits p)
  -- the components, the first one behind the second
  have second rest := applyAll_rowPatches (strided p.headRows ++ blank 4 ++ strided p.modeRows ++ blank 0x2b ++ blank 5)
    rest (p.mv.componentRows 0) (componentRows_fits p.mv 0)
  have first rest := applyAll_rowPatches (strided p.headRows ++ blank 4 ++ strided p.modeRows) rest
    (p.mv.componentRows 1) (componentRows_fits p.mv 1)
  have trees rest := applyAll_rowPatches (strided p.headRows ++ blank 4 ++ strided p.modeRows ++
    strided (p.mv.componentRows 1) ++ blank 5 ++ strided (p.mv.componentRows 0) ++ blank 1) rest seg.treeRows
    (treeRows_fits seg)
  simp only [List.length_append, length_blank, headLength, modeLength, length_componentRows, extent_headRows,
    extent_modeRows, extent_componentRows, treeExtent, List.append_assoc, List.nil_append, List.length_nil,
    Nat.reduceAdd] at head modes second first trees
  rw [packProbs, packWrites_eq, zeroed, blank_probsSize, imageBlocks, blockPatches, layout_wordTables]
  simp only [List.flatMap_append, List.flatMap_cons, List.flatMap_nil, List.append_nil, applyAll_append,
    List.append_assoc]
  rw [head, modes, second, first]
  cases enabled : seg.enabled
  · have cut : (blank 13 : List UInt8) = blank 1 ++ (blank 11 ++ blank 1) := rfl
    simp [enabled, SegmentationParams.treeImage, MvProbs.image, cut]
  · simp only [↓reduceIte, List.flatMap_cons, List.flatMap_nil, List.append_nil]
    rw [trees]
    simp only [SegmentationParams.treeImage, enabled, ↓reduceIte, MvProbs.image, List.append_assoc]

theorem length_image (p : FrameContext) (trees : List UInt8) (length : trees.length = 13) :
    (layout p.wordTables ++ p.mv.image trees).length = probsSize := by
  simp only [List.length_append, length_wordImage, MvProbs.image, length_componentRows, length_blank, length]
  rfl

/-- A part of a component in the image. -/
theorem slice_component (p : FrameContext) (trees : List UInt8) (i : Fin 2) (start stop : ℕ) (inside : stop ≤ 0x2b) :
    slice (layout p.wordTables ++ p.mv.image trees) (0xa94 + (1 - i) * 0x30 + start) (0xa94 + (1 - i) * 0x30 + stop) =
      slice (strided (p.mv.componentRows i)) start stop := by
  have fits i : stop ≤ (strided (p.mv.componentRows i)).length := inside.trans_eq (length_componentRows p.mv i).symm
  have behind := slice_append_right (layout p.wordTables) (p.mv.image trees)
  rw [length_wordImage] at behind
  rw [Nat.add_assoc, Nat.add_assoc, behind, MvProbs.image]
  fin_cases i
  · have second : (strided (p.mv.componentRows 1) ++ blank 5).length = 0x30 := by
      rw [List.length_append, length_componentRows, length_blank]
    have first := slice_append_right (strided (p.mv.componentRows 1) ++ blank 5)
      (strided (p.mv.componentRows 0) ++ trees) start stop
    rw [second, List.append_assoc, slice_append_left _ _ _ (fits 0)] at first
    exact first
  · have second := slice_append_left (strided (p.mv.componentRows 1))
      (blank 5 ++ (strided (p.mv.componentRows 0) ++ trees)) start (fits 1)
    simpa only [Fin.mk_one, Fin.val_one, Nat.sub_self, Nat.zero_mul, Nat.zero_add] using second

theorem FrameContext.place (p : FrameContext) (index : ℕ) :
    layoutExtent (p.tables.take index) = (tableSizes.take index).sum := by
  rw [layoutExtent, List.map_take, p.tables_sizes]

theorem coefTable_length (coef : Fin 4 → Fin 2 → Fin 2 → Fin 6 → Fin 6 → Fin 3 → UInt8) :
    (coefTable coef).rows.length = 576 := by
  simp [coefTable, Table.join, Table.ofFn, List.length_flatMap]

/-- One row of a field of the serialised context. -/
theorem FrameContext.slice_bytes (p : FrameContext) (index : ℕ) (table : Table UInt8)
    (found : p.tables[index]? = some table) (row : ℕ) (bound : row < table.rows.length) :
    slice p.bytes ((tableSizes.take index).sum + table.stride * row)
      ((tableSizes.take index).sum + table.stride * row + table.width) = table.rows[row] :=
  slice_layout p.tables index _ table found (p.place index) row bound

namespace Tool

theorem foldl_putWord (rows : List (List UInt8)) (out : List UInt8) :
    rows.foldl putWord out = out ++ strided (uniform 4 rows) := by
  induction rows generalizing out with
  | nil => exact (List.append_nil out).symm
  | cons row rows ih =>
    rw [List.foldl_cons, ih, putWord, uniform_cons, strided_cons]
    simp only [List.append_assoc]

/-- A loop of `put_word` over a field packs the field's rows. -/
theorem putWords_bytes (p : FrameContext) (index : ℕ) (table : Table UInt8) (found : p.tables[index]? = some table)
    (offs : List ℕ) (places : offs = List.range' (tableSizes.take index).sum table.rows.length table.stride)
    (out : List UInt8) :
    putWords p.bytes table.width offs out = out ++ strided (uniform 4 table.rows) := by
  rw [← foldl_putWord, ← map_slice_layout p.tables index _ table found (p.place index), List.foldl_map, places]
  rfl

theorem putGapped_bytes (p : FrameContext) (index gap : ℕ) (table : Table UInt8)
    (found : p.tables[index]? = some table)
    (offs : List ℕ) (places : offs = List.range' (tableSizes.take index).sum table.rows.length table.stride)
    (out : List UInt8) :
    putGapped p.bytes table.width gap offs out = out ++ strided (uniform (table.width + gap) table.rows) := by
  rw [← foldl_gapped table.rows table.width gap table.wide,
    ← map_slice_layout p.tables index _ table found (p.place index), List.foldl_map, places]
  rfl

theorem packWordPart_bytes (p : FrameContext) : packWordPart p.bytes = layout p.wordTables := by
  have tx8₀ : byteAt p.bytes tx8 = [p.tx8 0 0] := p.slice_bytes 0 (.ofFn p.tx8) rfl 0 (Nat.le_of_ble_eq_true rfl)
  have tx8₁ : byteAt p.bytes (tx8 + 1) = [p.tx8 1 0] := p.slice_bytes 0 (.ofFn p.tx8) rfl 1 (Nat.le_of_ble_eq_true rfl)
  have tx16₀ : slice p.bytes tx16 (tx16 + 2) = List.ofFn (p.tx16 0) :=
    p.slice_bytes 1 (.ofFn p.tx16) rfl 0 (Nat.le_of_ble_eq_true rfl)
  have tx16₁ : slice p.bytes (tx16 + 2) (tx16 + 2 + 2) = List.ofFn (p.tx16 1) :=
    p.slice_bytes 1 (.ofFn p.tx16) rfl 1 (Nat.le_of_ble_eq_true rfl)
  have tx32₀ : slice p.bytes tx32 (tx32 + 3) = List.ofFn (p.tx32 0) :=
    p.slice_bytes 2 (.ofFn p.tx32) rfl 0 (Nat.le_of_ble_eq_true rfl)
  have tx32₁ : slice p.bytes (tx32 + 3) (tx32 + 3 + 3) = List.ofFn (p.tx32 1) :=
    p.slice_bytes 2 (.ofFn p.tx32) rfl 1 (Nat.le_of_ble_eq_true rfl)
  have coefs out : putWords p.bytes 3 (range coef skip 3) out = out ++ strided (uniform 4 (coefTable p.coef).rows) :=
    putWords_bytes p 3 (coefTable p.coef) rfl _ (by rw [coefTable_length]; rfl) out
  have skips : slice p.bytes skip (skip + 3) = List.ofFn p.skip := p.slice_bytes 4 (.row p.skip) rfl 0 Nat.one_pos
  have interModes out : putWords p.bytes 3 (range interMode interpFilter 3) out =
      out ++ strided (uniform 4 (Table.ofFn p.interMode).rows) := putWords_bytes p 5 (.ofFn p.interMode) rfl _ rfl out
  have filters out : putWords p.bytes 2 (range interpFilter isInter 2) out =
      out ++ strided (uniform 4 (Table.ofFn p.interpFilter).rows) :=
    putWords_bytes p 6 (.ofFn p.interpFilter) rfl _ rfl out
  have inters : slice p.bytes isInter (isInter + 4) = List.ofFn p.isInter :=
    p.slice_bytes 7 (.row p.isInter) rfl 0 Nat.one_pos
  have compModes : slice p.bytes compMode (compMode + 5) = List.ofFn p.compMode :=
    p.slice_bytes 8 (.row p.compMode) rfl 0 Nat.one_pos
  have singleRefs out : putWords p.bytes 2 (range singleRef compRef 2) out =
      out ++ strided (uniform 4 (Table.ofFn p.singleRef).rows) := putWords_bytes p 9 (.ofFn p.singleRef) rfl _ rfl out
  have compRefs : slice p.bytes compRef (compRef + 5) = List.ofFn p.compRef :=
    p.slice_bytes 10 (.row p.compRef) rfl 0 Nat.one_pos
  have yModes out : putGapped p.bytes 9 7 (range yMode uvMode 9) out =
      out ++ strided (uniform 16 (Table.ofFn p.yMode).rows) := putGapped_bytes p 11 7 (.ofFn p.yMode) rfl _ rfl out
  have uvModes out : putGapped p.bytes 9 7 (range uvMode partition 9) out =
      out ++ strided (uniform 16 (Table.ofFn p.uvMode).rows) := putGapped_bytes p 12 7 (.ofFn p.uvMode) rfl _ rfl out
  have partitions out : putWords p.bytes 3 (range partition mv 3) out =
      out ++ strided (uniform 4 (Table.ofFn p.partition).rows) := putWords_bytes p 13 (.ofFn p.partition) rfl _ rfl out
  have joints : slice p.bytes mv (mv + 3) = List.ofFn p.mv.joint := p.slice_bytes 14 (.row p.mv.joint) rfl 0 Nat.one_pos
  have small : tx16 < tx32 ∧ tx16 + 2 < tx32 ∧ ¬ tx32 < tx32 ∧ ¬ tx32 + 3 < tx32 := by decide
  simp only [packWordPart, List.foldl_cons, List.foldl_nil, small, ↓reduceIte, tx8₀, tx8₁, tx16₀, tx16₁, tx32₀, tx32₁,
    coefs, skips, interModes, filters, inters, compModes, singleRefs, compRefs, yModes, uvModes, partitions, joints]
  simp only [FrameContext.wordTables, layout_cons]
  simp only [putWord, List.append_assoc, List.nil_append, List.cons_append]
  rfl
/-- The rows of a component as the tool stores them. -/
def componentRows (probs : MvProbs) (i : Fin 2) : List (Row UInt8) :=
  [⟨[probs.sign i, probs.class0Bit i, probs.class0Hp i, probs.hp i], 4⟩,
    ⟨List.ofFn (probs.class0Fr i 0), 4⟩, ⟨List.ofFn (probs.class0Fr i 1), 4⟩,
    ⟨List.ofFn (probs.classes i), 16⟩, ⟨List.ofFn (probs.bits i), 12⟩, ⟨List.ofFn (probs.fr i), 3⟩]

theorem componentRows_fits (probs : MvProbs) (i : Fin 2) : ∀ row ∈ componentRows probs i, row.Fits := by
  simp [componentRows, Row.Fits]

theorem strided_componentRows (probs : MvProbs) (i : Fin 2) :
    strided (componentRows probs i) = strided (probs.componentRows i) := rfl

theorem packComponent_bytes (p : FrameContext) (out : List UInt8) (i : Fin 2) :
    packComponent p.bytes out i =
      applyAll out (rowPatches (0xa94 + (1 - i.val) * 0x30) (componentRows p.mv i)) := by
  have entries : byteAt p.bytes (sign + i) = [p.mv.sign i] ∧ byteAt p.bytes (class0Bit + i) = [p.mv.class0Bit i] ∧
      byteAt p.bytes (class0Hp + i) = [p.mv.class0Hp i] ∧ byteAt p.bytes (hp + i) = [p.mv.hp i] := by
    fin_cases i
    · exact ⟨p.slice_bytes 15 (.column p.mv.sign) rfl 0 Nat.two_pos,
        p.slice_bytes 17 (.column p.mv.class0Bit) rfl 0 Nat.two_pos,
        p.slice_bytes 21 (.column p.mv.class0Hp) rfl 0 Nat.two_pos,
        p.slice_bytes 22 (.column p.mv.hp) rfl 0 Nat.two_pos⟩
    · exact ⟨p.slice_bytes 15 (.column p.mv.sign) rfl 1 Nat.one_lt_two,
        p.slice_bytes 17 (.column p.mv.class0Bit) rfl 1 Nat.one_lt_two,
        p.slice_bytes 21 (.column p.mv.class0Hp) rfl 1 Nat.one_lt_two,
        p.slice_bytes 22 (.column p.mv.hp) rfl 1 Nat.one_lt_two⟩
  have fractions : slice p.bytes (class0Fr + i * 6) (class0Fr + i * 6 + 3) = List.ofFn (p.mv.class0Fr i 0) ∧
      slice p.bytes (class0Fr + i * 6 + 3) (class0Fr + i * 6 + 6) = List.ofFn (p.mv.class0Fr i 1) := by
    have field := p.slice_bytes 19 (.join (fun i => .ofFn (p.mv.class0Fr i)) fun _ => rfl) rfl
    fin_cases i
    · exact ⟨field 0 (Nat.le_of_ble_eq_true rfl), field 1 (Nat.le_of_ble_eq_true rfl)⟩
    · exact ⟨field 2 (Nat.le_of_ble_eq_true rfl), field 3 (Nat.le_of_ble_eq_true rfl)⟩
  have rows : slice p.bytes (classes + i * 10) (classes + i * 10 + 10) = List.ofFn (p.mv.classes i) ∧
      slice p.bytes (bits + i * 10) (bits + i * 10 + 10) = List.ofFn (p.mv.bits i) ∧
      slice p.bytes (fr + i * 3) (fr + i * 3 + 3) = List.ofFn (p.mv.fr i) := by
    fin_cases i
    · exact ⟨p.slice_bytes 16 (.ofFn p.mv.classes) rfl 0 Nat.two_pos,
        p.slice_bytes 18 (.ofFn p.mv.bits) rfl 0 Nat.two_pos, p.slice_bytes 20 (.ofFn p.mv.fr) rfl 0 Nat.two_pos⟩
    · exact ⟨p.slice_bytes 16 (.ofFn p.mv.classes) rfl 1 Nat.one_lt_two,
        p.slice_bytes 18 (.ofFn p.mv.bits) rfl 1 Nat.one_lt_two, p.slice_bytes 20 (.ofFn p.mv.fr) rfl 1 Nat.one_lt_two⟩
  simp only [packComponent, entries, fractions, rows]
  rfl

theorem length_bytes (p : FrameContext) : p.bytes.length = ctxSize := by
  rw [FrameContext.bytes, length_layout, layoutExtent, p.tables_sizes]
  rfl

/-- The tool packs a context as the driver does, without segment trees. -/
theorem pack_bytes (p : FrameContext) : pack p.bytes = some (layout p.wordTables ++ p.mv.image (blank 13)) := by
  have second rest := applyAll_rowPatches (layout p.wordTables ++ (blank 0x2b ++ blank 5)) rest (componentRows p.mv 0)
    (componentRows_fits p.mv 0)
  have first rest := applyAll_rowPatches (layout p.wordTables) rest (componentRows p.mv 1) (componentRows_fits p.mv 1)
  have cut : (blank (hwSize - 0xa94) : List UInt8) =
    blank 0x2b ++ (blank 5 ++ (blank 0x2b ++ blank 13)) := by simp only [← blank_add]; rfl
  have extents i : extent (componentRows p.mv i) = 0x2b := rfl
  simp only [List.length_append, length_wordImage, length_blank, strided_componentRows, extents, Nat.reduceAdd,
    List.append_assoc] at second first
  have zeroth out : packComponent p.bytes out 0 = _ := packComponent_bytes p out 0
  have oneth out : packComponent p.bytes out 1 = _ := packComponent_bytes p out 1
  simp only [Fin.isValue, Fin.val_zero, Fin.val_one, Nat.sub_zero, Nat.sub_self, Nat.zero_mul, Nat.one_mul,
    Nat.reduceAdd] at zeroth oneth
  rw [pack, if_neg (not_not_intro (length_bytes p))]
  simp only [packWordPart_bytes, length_wordImage, cut, ne_eq, not_true_eq_false, ↓reduceIte, List.range_succ,
    List.range_zero, List.nil_append, List.cons_append, List.foldl_cons, List.foldl_nil, zeroth, oneth, second, first]
  rfl

/-- The fields unpacked so far, and blank bytes for the others. -/
def unpacked (p : FrameContext) (index : ℕ) : List UInt8 :=
  layout (p.tables.take index) ++ blank (tableSizes.drop index).sum

theorem unpacked_succ (p : FrameContext) (index : ℕ) (table : Table UInt8) (found : p.tables[index]? = some table) :
    unpacked p (index + 1) =
      layout (p.tables.take index) ++ (strided table.strideRows ++ blank (tableSizes.drop (index + 1)).sum) := by
  have bound := (List.getElem?_eq_some_iff.mp found).1
  have entry := (List.getElem?_eq_some_iff.mp found).2
  rw [unpacked, List.take_succ_eq_append_getElem bound, entry, layout_append, layout_cons, List.append_assoc,
    List.append_assoc]
  rfl

/-- The blank bytes of the next field. -/
theorem unpacked_next (p : FrameContext) (index : ℕ) (table : Table UInt8) (found : p.tables[index]? = some table) :
    unpacked p index =
      layout (p.tables.take index) ++ (blank table.extent ++ blank (tableSizes.drop (index + 1)).sum) := by
  have size : tableSizes[index]? = some table.extent := by
    rw [← p.tables_sizes, List.getElem?_map, found]
    rfl
  obtain ⟨bound, entry⟩ := List.getElem?_eq_some_iff.mp size
  rw [unpacked, List.drop_eq_getElem_cons bound, entry, List.sum_cons, blank_add]

theorem wordPlace (p : FrameContext) (index : ℕ) :
    (layout (p.wordTables.take index)).length = (wordSizes.take index).sum := by
  rw [length_layout, layoutExtent, List.map_take, p.wordTables_sizes]

/-- A loop of `unpack` over the rows of a table of the image. -/
theorem foldl_moveRow_image (p : FrameContext) (tail front rest : List UInt8) (index : ℕ) (table : Table UInt8)
    (found : p.wordTables[index]? = some table) :
    (List.range' front.length table.rows.length table.width).foldl
        (moveRow (layout p.wordTables ++ tail) table.width table.stride)
        (front ++ (blank (table.rows.length * table.width) ++ rest), (wordSizes.take index).sum) =
      (front ++ (table.rows.flatten ++ rest), (wordSizes.take (index + 1)).sum) := by
  have size : wordSizes[index]? = some table.extent := by
    rw [← p.wordTables_sizes, List.getElem?_map, found]
    rfl
  obtain ⟨bound, entry⟩ := List.getElem?_eq_some_iff.mp size
  have moved := foldl_moveRow front rest (layout (p.wordTables.take index))
    (layout (p.wordTables.drop (index + 1)) ++ tail) table.rows table.width table.stride table.wide table.fit
  rw [wordPlace] at moved
  rw [layout_split p.wordTables index table found, List.take_succ_eq_append_getElem bound, entry, List.sum_append,
    List.sum_singleton]
  simp only [List.append_assoc]
  exact moved

/-- Such a loop unpacks the next field. -/
theorem foldl_moveRow_field (p : FrameContext) (tail : List UInt8) (field index : ℕ) (target table : Table UInt8)
    (wanted : p.tables[field]? = some target) (found : p.wordTables[index]? = some table)
    (same : strided target.strideRows = table.rows.flatten) (offs : List ℕ)
    (places : offs = List.range' (tableSizes.take field).sum table.rows.length table.width) :
    offs.foldl (moveRow (layout p.wordTables ++ tail) table.width table.stride)
        (unpacked p field, (wordSizes.take index).sum) =
      (unpacked p (field + 1), (wordSizes.take (index + 1)).sum) := by
  have size : target.extent = table.rows.length * table.width := by
    have cells := congrArg List.length same
    rw [length_strided _ target.strideRows_fits, target.extent_strideRows, ← strided_uniform_self _ _ table.wide,
      length_strided _ (uniform_fits _ _ _ table.wide le_rfl), extent_uniform] at cells
    exact cells
  have moved := foldl_moveRow_image p tail (layout (p.tables.take field)) (blank (tableSizes.drop (field + 1)).sum)
    index table found
  rw [length_layout, p.place] at moved
  rw [unpacked_next p field target wanted, unpacked_succ p field target wanted, same, size, places]
  exact moved

/-- The two reference fields, which the image holds in the other order. -/
theorem moveRow_references (p : FrameContext) (tail : List UInt8) :
    (range singleRef compRef 2).foldl (moveRow (layout p.wordTables ++ tail) 2 4)
        (moveRow (layout p.wordTables ++ tail) 5 8 (unpacked p 9, 2384) compRef) = (unpacked p 11, 2412) := by
  have places : (layout (p.tables.take 9)).length = singleRef := by rw [length_layout, p.place]; rfl
  have start : unpacked p 9 = layout (p.tables.take 9) ++ (blank 10 ++ (blank 5 ++ blank 243)) := by
    have size : (tableSizes.drop 10).sum = 5 + 243 := rfl
    have cells : (Table.ofFn p.singleRef).extent = 10 := rfl
    rw [unpacked_next p 9 (.ofFn p.singleRef) rfl, cells, size, blank_add]
  have compound := foldl_moveRow_image p tail (layout (p.tables.take 9) ++ blank 10) (blank 243) 9
    ((Table.row p.compRef).spaced 3) rfl
  have single := foldl_moveRow_image p tail (layout (p.tables.take 9)) (List.ofFn p.compRef ++ blank 243) 10
    ((Table.ofFn p.singleRef).spaced 2) rfl
  have done : unpacked p 11 =
      layout (p.tables.take 9) ++ ((Table.ofFn p.singleRef).rows.flatten ++ (List.ofFn p.compRef ++ blank 243)) := by
    have front : p.tables.take 10 = p.tables.take 9 ++ [Table.ofFn p.singleRef] := rfl
    have size : (tableSizes.drop 11).sum = 243 := rfl
    have single : strided (Table.ofFn p.singleRef).strideRows = (Table.ofFn p.singleRef).rows.flatten :=
      strided_uniform_self _ _ (Table.ofFn p.singleRef).wide
    have compound : strided (Table.row p.compRef).strideRows = List.ofFn p.compRef := rfl
    rw [unpacked_succ p 10 (.row p.compRef) rfl, front, size, layout_append, layout_cons, single, compound]
    simp only [List.append_assoc]
    rfl
  rw [List.length_append, length_blank, places] at compound
  rw [places] at single
  rw [List.append_assoc] at compound
  rw [start, done]
  have first : moveRow (layout p.wordTables ++ tail) 5 8
      (layout (p.tables.take 9) ++ (blank 10 ++ (blank 5 ++ blank 243)), 2384) compRef =
      (layout (p.tables.take 9) ++ (blank 10 ++ (List.ofFn p.compRef ++ blank 243)), 2392) := by
    refine compound.trans ?_
    rw [List.append_assoc]
    rfl
  rw [first]
  exact single

theorem unpackWordPart_image (p : FrameContext) (tail : List UInt8) :
    unpackWordPart (layout p.wordTables ++ tail) (blank ctxSize) = (unpacked p 15, 0xa90) := by
  have full {m n : ℕ} (entries : Fin m → Fin n → UInt8) :
      strided (Table.ofFn entries).strideRows = (Table.ofFn entries).rows.flatten :=
    strided_uniform_self _ _ (Table.ofFn entries).wide
  have references := moveRow_references p tail
  have start : (blank ctxSize : List UInt8) = unpacked p 0 := rfl
  have tx8s := foldl_moveRow_field p tail 0 0 (.ofFn p.tx8) _ rfl rfl rfl [tx8] rfl
  have tx16s := foldl_moveRow_field p tail 1 1 (.ofFn p.tx16) _ rfl rfl (full _) [tx16, tx16 + 2] rfl
  have tx32s := foldl_moveRow_field p tail 2 2 (.ofFn p.tx32) _ rfl rfl (full _) [tx32, tx32 + 3] rfl
  have coefs := foldl_moveRow_field p tail 3 3 (coefTable p.coef) _ rfl rfl
    (strided_uniform_self _ _ (coefTable p.coef).wide) (range coef skip 3)
    (by rw [Table.spaced, coefTable_length]; rfl)
  have skips := foldl_moveRow_field p tail 4 4 (.row p.skip) _ rfl rfl (full _) [skip] rfl
  have interModes := foldl_moveRow_field p tail 5 5 (.ofFn p.interMode) _ rfl rfl (full _) _ rfl
  have filters := foldl_moveRow_field p tail 6 6 (.ofFn p.interpFilter) _ rfl rfl (full _) _ rfl
  have inters := foldl_moveRow_field p tail 7 7 (.row p.isInter) _ rfl rfl (full _) [isInter] rfl
  have compModes := foldl_moveRow_field p tail 8 8 (.row p.compMode) _ rfl rfl (full _) [compMode] rfl
  have yModes := foldl_moveRow_field p tail 11 12 (.ofFn p.yMode) _ rfl rfl (full _) _ rfl
  have uvModes := foldl_moveRow_field p tail 12 13 (.ofFn p.uvMode) _ rfl rfl (full _) _ rfl
  have partitions := foldl_moveRow_field p tail 13 14 (.ofFn p.partition) _ rfl rfl (full _) _ rfl
  have joints := foldl_moveRow_field p tail 14 15 (.row p.mv.joint) _ rfl rfl (full _) [mv] rfl
  rw [start]
  generalize layout p.wordTables ++ tail = hw at *
  have tx8s : store (unpacked p 0) tx8 (slice hw 0 2) = unpacked p 1 := congrArg Prod.fst tx8s
  have tx16s : store (store (unpacked p 1) tx16 (slice hw 4 6)) (tx16 + 2) (slice hw 8 10) = unpacked p 2 :=
    congrArg Prod.fst tx16s
  have tx32s : store (store (unpacked p 2) tx32 (slice hw 12 15)) (tx32 + 3) (slice hw 16 19) = unpacked p 3 :=
    congrArg Prod.fst tx32s
  have coefs : (range coef skip 3).foldl (moveRow hw 3 4) (unpacked p 3, 0x14) = (unpacked p 4, 2324) := coefs
  have skips : moveRow hw 3 4 (unpacked p 4, 2324) skip = (unpacked p 5, 2328) := skips
  have interModes :
      (range interMode interpFilter 3).foldl (moveRow hw 3 4) (unpacked p 5, 2328) = (unpacked p 6, 2356) := interModes
  have filters : (range interpFilter isInter 2).foldl (moveRow hw 2 4) (unpacked p 6, 2356) = (unpacked p 7, 2372) :=
    filters
  have inters : moveRow hw 4 4 (unpacked p 7, 2372) isInter = (unpacked p 8, 2376) := inters
  have compModes : moveRow hw 5 8 (unpacked p 8, 2376) compMode = (unpacked p 9, 2384) := compModes
  have yModes : (range yMode uvMode 9).foldl (moveRow hw 9 16) (unpacked p 11, 2416) = (unpacked p 12, 2480) := yModes
  have uvModes : (range uvMode partition 9).foldl (moveRow hw 9 16) (unpacked p 12, 2480) = (unpacked p 13, 2640) :=
    uvModes
  have partitions : (range partition mv 3).foldl (moveRow hw 3 4) (unpacked p 13, 2640) = (unpacked p 14, 2704) :=
    partitions
  have joints : store (unpacked p 14) mv (slice hw 2704 2707) = unpacked p 15 := congrArg Prod.fst joints
  simp only [unpackWordPart, tx8s, tx16s, tx32s, coefs, skips, interModes, filters, inters, compModes, references,
    Nat.reduceAdd, yModes, uvModes, partitions, joints]

/-- What `unpack` stores of one component, from the first motion-vector field after the joints on. -/
def componentPatches (probs : MvProbs) (i : Fin 2) : List (Patch UInt8) :=
  [⟨0 + i, [probs.sign i]⟩, ⟨22 + i, [probs.class0Bit i]⟩, ⟨62 + i, [probs.class0Hp i]⟩, ⟨64 + i, [probs.hp i]⟩,
    ⟨44 + i * 6, List.ofFn (probs.class0Fr i 0)⟩, ⟨44 + i * 6 + 3, List.ofFn (probs.class0Fr i 1)⟩,
    ⟨2 + i * 10, List.ofFn (probs.classes i)⟩, ⟨24 + i * 10, List.ofFn (probs.bits i)⟩,
    ⟨56 + i * 3, List.ofFn (probs.fr i)⟩]

theorem unpackComponent_image (p : FrameContext) (trees ctx : List UInt8) (i : Fin 2) :
    unpackComponent (layout p.wordTables ++ p.mv.image trees) ctx i =
      applyAll ctx ((componentPatches p.mv i).map (Patch.shift sign)) := by
  have part (start stop : ℕ) (inside : stop ≤ 0x2b) := slice_component p trees i start stop inside
  generalize layout p.wordTables ++ p.mv.image trees = hw at part ⊢
  generalize based : 0xa94 + (1 - i.val) * 0x30 = base at part
  have entries : byteAt hw base = [p.mv.sign i] ∧ byteAt hw (base + 1) = [p.mv.class0Bit i] ∧
      byteAt hw (base + 2) = [p.mv.class0Hp i] ∧ byteAt hw (base + 3) = [p.mv.hp i] :=
    ⟨(part 0 1 (by decide)).trans rfl, (part 1 2 (by decide)).trans rfl, (part 2 3 (by decide)).trans rfl,
      (part 3 4 (by decide)).trans rfl⟩
  have rows : slice hw (base + 4) (base + 7) = List.ofFn (p.mv.class0Fr i 0) ∧
      slice hw (base + 8) (base + 11) = List.ofFn (p.mv.class0Fr i 1) ∧
      slice hw (base + 0xc) (base + 0x16) = List.ofFn (p.mv.classes i) ∧
      slice hw (base + 0x1c) (base + 0x26) = List.ofFn (p.mv.bits i) ∧
      slice hw (base + 0x28) (base + 0x2b) = List.ofFn (p.mv.fr i) :=
    ⟨(part 4 7 (by decide)).trans rfl, (part 8 11 (by decide)).trans rfl, (part 0xc 0x16 (by decide)).trans rfl,
      (part 0x1c 0x26 (by decide)).trans rfl, (part 0x28 0x2b le_rfl).trans rfl⟩
  simp only [unpackComponent, based, entries, rows]
  fin_cases i <;> rfl

/-- The fields after the joints, in the order of the structure. -/
def mvBytes (probs : MvProbs) : List UInt8 :=
  [probs.sign 0, probs.sign 1] ++ List.ofFn (probs.classes 0) ++ List.ofFn (probs.classes 1) ++
    [probs.class0Bit 0, probs.class0Bit 1] ++ List.ofFn (probs.bits 0) ++ List.ofFn (probs.bits 1) ++
    List.ofFn (probs.class0Fr 0 0) ++ List.ofFn (probs.class0Fr 0 1) ++ List.ofFn (probs.class0Fr 1 0) ++
    List.ofFn (probs.class0Fr 1 1) ++ List.ofFn (probs.fr 0) ++ List.ofFn (probs.fr 1) ++
    [probs.class0Hp 0, probs.class0Hp 1, probs.hp 0, probs.hp 1]

theorem layout_mvTables (p : FrameContext) : layout (p.tables.drop 15) = mvBytes p.mv := by
  have fields : p.tables.drop 15 = [.column p.mv.sign, .ofFn p.mv.classes, .column p.mv.class0Bit, .ofFn p.mv.bits,
    .join (fun i => .ofFn (p.mv.class0Fr i)) fun _ => rfl, .ofFn p.mv.fr, .column p.mv.class0Hp,
    .column p.mv.hp] := rfl
  have fractions : strided (Table.join (fun i => .ofFn (p.mv.class0Fr i)) fun _ => rfl : Table UInt8).strideRows =
      List.ofFn (p.mv.class0Fr 0 0) ++ List.ofFn (p.mv.class0Fr 0 1) ++ List.ofFn (p.mv.class0Fr 1 0) ++
        List.ofFn (p.mv.class0Fr 1 1) := rfl
  have last : layout ([] : List (Table UInt8)) = [] := rfl
  rw [fields]
  simp only [layout_cons, Table.column, strided_ofFn, fractions, last, mvBytes]
  simp [List.ofFn_succ]

/-- The sizes of the fields' rows, in the order of the structure. -/
def mvSizes : List ℕ := [1, 1, 10, 10, 1, 1, 10, 10, 3, 3, 3, 3, 3, 3, 1, 1, 1, 1]

theorem applyAll_componentPatches (probs : MvProbs) :
    applyAll (blank 66) (componentPatches probs 0 ++ componentPatches probs 1) = mvBytes probs := by
  have written := applyAll_flatten mvSizes (mvSizes.map blank)
    [(0, [probs.sign 0]), (4, [probs.class0Bit 0]), (14, [probs.class0Hp 0]), (16, [probs.hp 0]),
      (8, List.ofFn (probs.class0Fr 0 0)), (9, List.ofFn (probs.class0Fr 0 1)), (2, List.ofFn (probs.classes 0)),
      (6, List.ofFn (probs.bits 0)), (12, List.ofFn (probs.fr 0)),
      (1, [probs.sign 1]), (5, [probs.class0Bit 1]), (15, [probs.class0Hp 1]), (17, [probs.hp 1]),
      (10, List.ofFn (probs.class0Fr 1 0)), (11, List.ofFn (probs.class0Fr 1 1)), (3, List.ofFn (probs.classes 1)),
      (7, List.ofFn (probs.bits 1)), (13, List.ofFn (probs.fr 1))]
    (by simp [mvSizes]) (by simp [mvSizes])
  have cells : (mvSizes.map (blank : ℕ → List UInt8)).flatten = blank 66 := rfl
  rw [cells] at written
  refine Eq.trans ?_ (written.trans ?_)
  · rfl
  · simp only [mvSizes, List.map_cons, List.map_nil, List.foldl_cons, List.foldl_nil, List.set_cons_zero,
      List.set_cons_succ, List.flatten_cons, List.flatten_nil, mvBytes, List.append_assoc, List.cons_append,
      List.nil_append]

theorem unpackComponents_image (p : FrameContext) (trees : List UInt8) :
    (List.range 2).foldl (unpackComponent (layout p.wordTables ++ p.mv.image trees)) (unpacked p 15) = p.bytes := by
  have front : (layout (p.tables.take 15)).length = sign := by rw [length_layout, p.place]; rfl
  have split : p.bytes = layout (p.tables.take 15) ++ mvBytes p.mv := by
    rw [← layout_mvTables, ← layout_append, List.take_append_drop, FrameContext.bytes]
  have start : unpacked p 15 = layout (p.tables.take 15) ++ blank 66 := by
    have size : (tableSizes.drop 15).sum = 66 := rfl
    rw [unpacked, size]
  have zeroth ctx : unpackComponent (layout p.wordTables ++ p.mv.image trees) ctx 0 =
      applyAll ctx ((componentPatches p.mv 0).map (Patch.shift sign)) := unpackComponent_image p trees ctx 0
  have oneth ctx : unpackComponent (layout p.wordTables ++ p.mv.image trees) ctx 1 =
      applyAll ctx ((componentPatches p.mv 1).map (Patch.shift sign)) := unpackComponent_image p trees ctx 1
  have stored := applyAll_append_right (layout (p.tables.take 15)) (blank 66)
    (componentPatches p.mv 0 ++ componentPatches p.mv 1)
  rw [front, ← start, List.map_append, applyAll_append, applyAll_componentPatches] at stored
  have range : List.range 2 = [0, 1] := rfl
  rw [range, List.foldl_cons, List.foldl_cons, List.foldl_nil, zeroth, oneth, stored, split]

/-- Unpacking the image gives back the context, whatever the trees. -/
theorem unpack_image (p : FrameContext) (trees : List UInt8) (length : trees.length = 13) :
    unpack (layout p.wordTables ++ p.mv.image trees) = some p.bytes := by
  have size : (layout p.wordTables ++ p.mv.image trees).length = hwSize := length_image p trees length
  have whole : (layout p.wordTables ++ p.mv.image trees).take hwSize = layout p.wordTables ++ p.mv.image trees := by
    rw [← size, List.take_length]
  simp only [unpack, size, lt_self_iff_false, ↓reduceIte, whole, unpackWordPart_image, ne_eq, not_true_eq_false,
    unpackComponents_image]

end Tool

/-- What the driver's packer and the tool owe each other: the fields lie apart inside the image,
nothing else is written, the tool reads the context back, and its own image differs by no more
than the segment trees. -/
structure ImageShared (buffer : List UInt8) (p : FrameContext) (seg : SegmentationParams) : Prop where
  apart : (packWrites p seg).Pairwise Patch.Apart
  inside : ∀ patch ∈ packWrites p seg, patch.stop ≤ probsSize
  written : ∀ patch ∈ packWrites p seg, ∀ index, patch.Covers index →
    (packProbs buffer p seg)[index]? = patch.cells[index - patch.start]?
  unused : ∀ index < probsSize, (∀ patch ∈ packWrites p seg, ¬ patch.Covers index) →
    (packProbs buffer p seg)[index]? = some 0
  outside : ∀ index, probsSize ≤ index → (packProbs buffer p seg)[index]? = buffer[index]?
  roundTrip : Tool.unpack ((packProbs buffer p seg).take probsSize) = some p.bytes
  disabled : seg.enabled = false → Tool.pack p.bytes = some ((packProbs buffer p seg).take probsSize)
  enabled : seg.enabled = true → ∃ image, Tool.pack p.bytes = some image ∧
    (packProbs buffer p seg).take probsSize =
      store (store image 0xaf0 (List.ofFn seg.treeProbs)) 0xaf8 (List.ofFn seg.predProbs)

theorem length_treeImage (seg : SegmentationParams) : seg.treeImage.length = 13 := by
  cases enabled : seg.enabled <;> simp [SegmentationParams.treeImage, enabled, SegmentationParams.treeRows, strided]

theorem packProbs_take (buffer : List UInt8) (p : FrameContext) (seg : SegmentationParams) :
    (packProbs buffer p seg).take probsSize = layout p.wordTables ++ p.mv.image seg.treeImage := by
  rw [packProbs_eq, ← List.append_assoc, ← length_image p _ (length_treeImage seg), List.take_left]

/-- The trees stored in blank cells behind the components. -/
theorem append_treeImage (seg : SegmentationParams) (enabled : seg.enabled = true) (before : List UInt8)
    (front : before.length = 0xaef) :
    before ++ seg.treeImage =
      store (store (before ++ blank 13) 0xaf0 (List.ofFn seg.treeProbs)) 0xaf8 (List.ofFn seg.predProbs) := by
  have trees : applyAll (blank 13) [⟨1, List.ofFn seg.treeProbs⟩, ⟨9, List.ofFn seg.predProbs⟩] = seg.treeImage := by
    rw [SegmentationParams.treeImage, if_pos enabled]
    rfl
  have stored := applyAll_append_right before (blank 13)
    [⟨1, List.ofFn seg.treeProbs⟩, ⟨9, List.ofFn seg.predProbs⟩]
  rw [front, trees] at stored
  exact stored.symm

/-- The trees in the blank end of the image. -/
theorem treeImage_stored (p : FrameContext) (seg : SegmentationParams) (enabled : seg.enabled = true) :
    layout p.wordTables ++ p.mv.image seg.treeImage =
      store (store (layout p.wordTables ++ p.mv.image (blank 13)) 0xaf0 (List.ofFn seg.treeProbs)) 0xaf8
        (List.ofFn seg.predProbs) := by
  have front : (layout p.wordTables ++ (strided (p.mv.componentRows 1) ++ (blank 5 ++
      strided (p.mv.componentRows 0)))).length = 0xaef := by
    simp only [List.length_append, length_wordImage, length_componentRows, length_blank]
  have behind trees : layout p.wordTables ++ p.mv.image trees = layout p.wordTables ++
      (strided (p.mv.componentRows 1) ++ (blank 5 ++ strided (p.mv.componentRows 0))) ++ trees := by
    simp only [MvProbs.image, List.append_assoc]
  rw [behind, behind]
  exact append_treeImage seg enabled _ front

theorem image_shared (buffer : List UInt8) (p : FrameContext) (seg : SegmentationParams) :
    ImageShared buffer p seg := by
  have zeroed : probsSize ≤ (store buffer 0 (blank probsSize)).length := by simp [store]
  have fits : ∀ patch ∈ packWrites p seg, patch.stop ≤ (store buffer 0 (blank probsSize)).length :=
    fun patch member => (packWrites_stop p seg patch member).trans zeroed
  refine ⟨packWrites_apart p seg, packWrites_stop p seg, ?_, ?_, ?_, ?_, ?_, ?_⟩
  · intro patch member index covers
    exact getElem?_applyAll_of_covered _ _ index fits (packWrites_apart p seg) patch member covers
  · intro index inside uncovered
    rw [packProbs, getElem?_applyAll_of_uncovered _ _ index fits uncovered]
    rw [store, List.take_zero, List.nil_append, List.getElem?_append_left (by rwa [length_blank]), blank,
      List.getElem?_replicate, if_pos inside]
  · intro index outside
    have behind : (layout p.wordTables ++ p.mv.image seg.treeImage).length ≤ index := by
      rw [length_image p _ (length_treeImage seg)]
      exact outside
    rw [packProbs_eq, ← List.append_assoc, List.getElem?_append_right behind,
      length_image p _ (length_treeImage seg), List.getElem?_drop, Nat.add_sub_cancel' outside]
  · rw [packProbs_take]
    exact Tool.unpack_image p _ (length_treeImage seg)
  · intro disabled
    rw [packProbs_take, Tool.pack_bytes, SegmentationParams.treeImage, disabled]
    rfl
  · intro enabled
    exact ⟨_, Tool.pack_bytes p, by rw [packProbs_take, treeImage_stored p seg enabled]⟩

end H618Vpu.Vp9
