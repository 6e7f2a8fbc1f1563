import Mathlib

/-! # Byte images: slices, patches and strided rows

A buffer is a list of cells. A patch overwrites a range of it; patches whose ranges are apart can
be read back in any order. Rows laid out at a stride are separated by blank cells, and the loops
that copy such rows move through the layout one row at a time: the lemmas below say what a whole
loop leaves behind, for any cell type.
-/

namespace H618Vpu.Bytes

variable {α : Type}

/-- The cells from `start` up to `stop`. -/
def slice (xs : List α) (start stop : ℕ) : List α := (xs.take stop).drop start

/-- Overwrites the cells from `start` on. -/
def store (xs : List α) (start : ℕ) (ys : List α) : List α :=
  xs.take start ++ (ys ++ xs.drop (start + ys.length))

theorem slice_eq_take_drop (xs : List α) (start size : ℕ) :
    slice xs start (start + size) = (xs.drop start).take size := by
  rw [slice, List.drop_take, Nat.add_sub_cancel_left]

theorem slice_middle (front middle rest : List α) :
    slice (front ++ (middle ++ rest)) front.length (front.length + middle.length) = middle := by
  rw [slice_eq_take_drop, List.drop_left, List.take_left]

theorem store_middle (front old rest new : List α) (same : old.length = new.length) :
    store (front ++ (old ++ rest)) front.length new = front ++ (new ++ rest) := by
  rw [store, List.take_left, ← same, ← List.append_assoc front old rest, ← List.length_append, List.drop_left]

theorem store_append_right (front xs ys : List α) (start : ℕ) :
    store (front ++ xs) (front.length + start) ys = front ++ store xs start ys := by
  have later : front.length + start + ys.length - front.length = start + ys.length := by omega
  simp only [store, List.take_append, List.drop_append, List.append_assoc, Nat.add_sub_cancel_left, later]
  rw [List.take_of_length_le (by omega), List.drop_of_length_le (by omega), List.nil_append]

theorem slice_append_left (xs rest : List α) (start : ℕ) {stop : ℕ} (inside : stop ≤ xs.length) :
    slice (xs ++ rest) start stop = slice xs start stop := by
  rw [slice, List.take_append_of_le_length inside, slice]

theorem slice_append_right (front xs : List α) (start stop : ℕ) :
    slice (front ++ xs) (front.length + start) (front.length + stop) = slice xs start stop := by
  simp only [slice, List.take_append, List.drop_append, Nat.add_sub_cancel_left]
  rw [List.take_of_length_le (by omega), List.drop_of_length_le (by omega), List.nil_append, Nat.add_sub_cancel_left]

theorem store_append_left (xs rest ys : List α) (start : ℕ) (fits : start + ys.length ≤ xs.length) :
    store (xs ++ rest) start ys = store xs start ys ++ rest := by
  simp only [store, List.append_assoc]
  rw [List.take_append_of_le_length (by omega), List.drop_append_of_le_length fits]

theorem length_store (xs ys : List α) (start : ℕ) (fits : start + ys.length ≤ xs.length) :
    (store xs start ys).length = xs.length := by
  simp only [store, List.length_append, List.length_take, List.length_drop]
  omega

theorem getElem?_store (xs ys : List α) (start index : ℕ) (fits : start + ys.length ≤ xs.length) :
    (store xs start ys)[index]? =
      if start ≤ index ∧ index < start + ys.length then ys[index - start]? else xs[index]? := by
  have front : (xs.take start).length = start := by rw [List.length_take]; omega
  by_cases before : index < start
  · rw [store, List.getElem?_append_left (by omega), if_neg (by omega), List.getElem?_take_of_lt before]
  · rw [store, List.getElem?_append_right (by omega), front]
    by_cases inside : index - start < ys.length
    · rw [List.getElem?_append_left inside, if_pos (by omega)]
    · rw [List.getElem?_append_right (by omega), List.getElem?_drop, if_neg (by omega)]
      congr 1
      omega

theorem store_nil (xs : List α) (start : ℕ) : store xs start [] = xs := List.take_append_drop start xs

/-- A cell before others that are stored. -/
theorem store_set_succ (xs ys : List α) (start : ℕ) (y : α) (inside : start < xs.length) :
    store (xs.set start y) (start + 1) ys = store xs start (y :: ys) := by
  have front : (xs.set start y).take (start + 1) = xs.take start ++ [y] := by
    rw [List.take_set, List.take_succ_eq_append_getElem inside, List.set_append_right _ _ (by simp),
      List.length_take_of_le inside.le, Nat.sub_self]
    rfl
  have back : (xs.set start y).drop (start + 1 + ys.length) = xs.drop (start + (y :: ys).length) := by
    rw [List.drop_set_of_lt (by omega), List.length_cons, Nat.add_assoc, Nat.add_comm 1]
  rw [store, store, front, back, List.append_assoc]
  rfl

/-- New contents for the cells from `start` on. -/
structure Patch (α : Type) where
  start : ℕ
  cells : List α

namespace Patch

def stop (patch : Patch α) : ℕ := patch.start + patch.cells.length

def Covers (patch : Patch α) (index : ℕ) : Prop := patch.start ≤ index ∧ index < patch.stop

instance (patch : Patch α) (index : ℕ) : Decidable (patch.Covers index) :=
  inferInstanceAs (Decidable (_ ∧ _))

/-- No cell belongs to both ranges. -/
def Apart (first second : Patch α) : Prop := first.stop ≤ second.start ∨ second.stop ≤ first.start

theorem Apart.symm {first second : Patch α} (apart : first.Apart second) : second.Apart first := Or.symm apart

theorem Apart.not_covers {first second : Patch α} (apart : first.Apart second) {index : ℕ}
    (covers : first.Covers index) : ¬ second.Covers index := by
  rintro ⟨low, high⟩
  obtain ⟨low', high'⟩ := covers
  rcases apart with before | after <;> omega

/-- The patch, a distance further on. -/
def shift (distance : ℕ) (patch : Patch α) : Patch α := ⟨distance + patch.start, patch.cells⟩

/-- The patch applied to a buffer. -/
def apply (buffer : List α) (patch : Patch α) : List α := store buffer patch.start patch.cells

theorem apply_append_left (xs rest : List α) (patch : Patch α) (fits : patch.stop ≤ xs.length) :
    patch.apply (xs ++ rest) = patch.apply xs ++ rest := store_append_left _ _ _ _ fits

theorem length_apply (buffer : List α) (patch : Patch α) (fits : patch.stop ≤ buffer.length) :
    (patch.apply buffer).length = buffer.length := length_store _ _ _ fits

theorem getElem?_apply (buffer : List α) (patch : Patch α) (index : ℕ) (fits : patch.stop ≤ buffer.length) :
    (patch.apply buffer)[index]? = if patch.Covers index then patch.cells[index - patch.start]? else buffer[index]? :=
  getElem?_store _ _ _ _ fits

end Patch

/-- Patches applied one after the other. -/
def applyAll (buffer : List α) (patches : List (Patch α)) : List α := patches.foldl Patch.apply buffer

@[simp] theorem applyAll_nil (buffer : List α) : applyAll buffer [] = buffer := rfl

@[simp] theorem applyAll_cons (buffer : List α) (patch : Patch α) (patches : List (Patch α)) :
    applyAll buffer (patch :: patches) = applyAll (patch.apply buffer) patches := rfl

theorem applyAll_append (buffer : List α) (first second : List (Patch α)) :
    applyAll buffer (first ++ second) = applyAll (applyAll buffer first) second :=
  List.foldl_append ..

/-- Patches behind a prefix leave it alone. -/
theorem applyAll_append_right (front xs : List α) (patches : List (Patch α)) :
    applyAll (front ++ xs) (patches.map (Patch.shift front.length)) = front ++ applyAll xs patches := by
  induction patches generalizing xs with
  | nil => rfl
  | cons patch patches ih =>
    rw [List.map_cons, applyAll_cons, applyAll_cons, ← ih]
    congr 1
    exact store_append_right ..

/-- Patches that replace whole blocks of a buffer by blocks of the same size. -/
theorem applyAll_flatten (sizes : List ℕ) (blocks : List (List α)) (edits : List (ℕ × List α))
    (shape : blocks.map List.length = sizes) (fits : ∀ edit ∈ edits, sizes[edit.1]? = some edit.2.length) :
    applyAll blocks.flatten (edits.map fun edit => ⟨(sizes.take edit.1).sum, edit.2⟩) =
      (edits.foldl (fun blocks edit => blocks.set edit.1 edit.2) blocks).flatten := by
  induction edits generalizing blocks with
  | nil => rfl
  | cons edit edits ih =>
    have fit := fits edit (List.mem_cons_self ..)
    have size : blocks[edit.1]?.map List.length = some edit.2.length := by rw [← List.getElem?_map, shape, fit]
    obtain ⟨old, found, same⟩ := Option.map_eq_some_iff.mp size
    obtain ⟨bound, rfl⟩ := List.getElem?_eq_some_iff.mp found
    have front : (sizes.take edit.1).sum = (blocks.take edit.1).flatten.length := by
      rw [List.length_flatten, List.map_take, shape]
    have stored : store blocks.flatten (sizes.take edit.1).sum edit.2 = (blocks.set edit.1 edit.2).flatten := by
      have cut : blocks = blocks.take edit.1 ++ (blocks[edit.1] :: blocks.drop (edit.1 + 1)) := by
        rw [← List.drop_eq_getElem_cons bound, List.take_append_drop]
      rw [List.set_eq_take_cons_drop _ bound, front]
      conv_lhs => rw [cut, List.flatten_append, List.flatten_cons]
      rw [List.take_left' (by rw [List.length_take]; omega), store_middle _ _ _ _ same, List.flatten_append,
        List.flatten_cons]
    have shape' : (blocks.set edit.1 edit.2).map List.length = sizes := by
      rw [List.map_set, shape]
      obtain ⟨bound', entry⟩ := List.getElem?_eq_some_iff.mp fit
      rw [← entry, List.set_getElem_self]
    rw [List.map_cons, applyAll_cons, List.foldl_cons, Patch.apply, stored]
    exact ih _ shape' fun other later => fits other (List.mem_cons_of_mem _ later)

theorem length_applyAll (buffer : List α) (patches : List (Patch α))
    (fits : ∀ patch ∈ patches, patch.stop ≤ buffer.length) :
    (applyAll buffer patches).length = buffer.length := by
  induction patches generalizing buffer with
  | nil => rfl
  | cons patch patches ih =>
    have first := patch.length_apply buffer (fits patch (List.mem_cons_self ..))
    rw [applyAll_cons, ih _ fun other member => by
      rw [first]; exact fits other (List.mem_cons_of_mem _ member), first]

/-- Patches inside a prefix leave what follows alone. -/
theorem applyAll_append_left (xs rest : List α) (patches : List (Patch α))
    (fits : ∀ patch ∈ patches, patch.stop ≤ xs.length) :
    applyAll (xs ++ rest) patches = applyAll xs patches ++ rest := by
  induction patches generalizing xs with
  | nil => rfl
  | cons patch patches ih =>
    have fit : patch.stop ≤ xs.length := fits patch (List.mem_cons_self ..)
    rw [applyAll_cons, applyAll_cons, patch.apply_append_left xs rest fit]
    apply ih
    intro other later
    rw [patch.length_apply xs fit]
    exact fits other (List.mem_cons_of_mem _ later)

/-- A cell that no patch covers keeps its contents. -/
theorem getElem?_applyAll_of_uncovered (buffer : List α) (patches : List (Patch α)) (index : ℕ)
    (fits : ∀ patch ∈ patches, patch.stop ≤ buffer.length)
    (uncovered : ∀ patch ∈ patches, ¬ patch.Covers index) :
    (applyAll buffer patches)[index]? = buffer[index]? := by
  induction patches generalizing buffer with
  | nil => rfl
  | cons patch patches ih =>
    have fit : patch.stop ≤ buffer.length := fits patch (List.mem_cons_self ..)
    have first := patch.length_apply buffer fit
    rw [applyAll_cons, ih]
    · rw [patch.getElem?_apply buffer index fit, if_neg (uncovered patch (List.mem_cons_self ..))]
    · intro other member
      rw [first]
      exact fits other (List.mem_cons_of_mem _ member)
    · exact fun other member => uncovered other (List.mem_cons_of_mem _ member)

/-- A cell that one of several patches with ranges apart covers holds what that patch says. -/
theorem getElem?_applyAll_of_covered (buffer : List α) (patches : List (Patch α)) (index : ℕ)
    (fits : ∀ patch ∈ patches, patch.stop ≤ buffer.length) (apart : patches.Pairwise Patch.Apart)
    (patch : Patch α) (member : patch ∈ patches) (covers : patch.Covers index) :
    (applyAll buffer patches)[index]? = patch.cells[index - patch.start]? := by
  induction patches generalizing buffer with
  | nil => cases member
  | cons head patches ih =>
    have fit : head.stop ≤ buffer.length := fits head (List.mem_cons_self ..)
    have first := head.length_apply buffer fit
    have fits' : ∀ other ∈ patches, other.stop ≤ (head.apply buffer).length := by
      intro other later
      rw [first]
      exact fits other (List.mem_cons_of_mem _ later)
    obtain ⟨headApart, apart⟩ := List.pairwise_cons.mp apart
    rw [applyAll_cons]
    rcases List.mem_cons.mp member with rfl | later
    · rw [getElem?_applyAll_of_uncovered _ _ _ fits' fun other later => (headApart other later).not_covers covers,
        patch.getElem?_apply buffer index fit, if_pos covers]
    · exact ih _ fits' apart later

/-- A row and the distance to the next one. -/
structure Row (α : Type) where
  cells : List α
  stride : ℕ

/-- The row fits its stride. -/
def Row.Fits (row : Row α) : Prop := row.cells.length ≤ row.stride

def extent (rows : List (Row α)) : ℕ := (rows.map Row.stride).sum

/-- The patches that write the rows from an address on. -/
def rowPatches : ℕ → List (Row α) → List (Patch α)
  | _, [] => []
  | start, row :: rows => ⟨start, row.cells⟩ :: rowPatches (start + row.stride) rows

@[simp] theorem extent_cons (row : Row α) (rows : List (Row α)) : extent (row :: rows) = row.stride + extent rows := by
  simp [extent]

@[simp] theorem extent_append (first second : List (Row α)) :
    extent (first ++ second) = extent first + extent second := by
  simp [extent]

theorem rowPatches_append (start : ℕ) (first second : List (Row α)) :
    rowPatches start (first ++ second) = rowPatches start first ++ rowPatches (start + extent first) second := by
  induction first generalizing start with
  | nil => rfl
  | cons row first ih =>
    simp only [List.cons_append, rowPatches, ih, extent_cons, Nat.add_assoc]

/-- The patches of rows stay inside the rows' extent. -/
theorem rowPatches_bounds (start : ℕ) (rows : List (Row α)) (fits : ∀ row ∈ rows, row.Fits) :
    ∀ patch ∈ rowPatches start rows, start ≤ patch.start ∧ patch.stop ≤ start + extent rows := by
  induction rows generalizing start with
  | nil => exact fun patch member => absurd member List.not_mem_nil
  | cons row rows ih =>
    intro patch member
    have fit : row.cells.length ≤ row.stride := fits row (List.mem_cons_self ..)
    rw [extent_cons]
    rcases List.mem_cons.mp member with rfl | later
    · exact ⟨le_rfl, by simp only [Patch.stop]; omega⟩
    · have rest := ih (start + row.stride) (fun other later => fits other (List.mem_cons_of_mem _ later)) patch later
      omega

theorem rowPatches_apart (start : ℕ) (rows : List (Row α)) (fits : ∀ row ∈ rows, row.Fits) :
    (rowPatches start rows).Pairwise Patch.Apart := by
  induction rows generalizing start with
  | nil => exact List.Pairwise.nil
  | cons row rows ih =>
    have fit : row.cells.length ≤ row.stride := fits row (List.mem_cons_self ..)
    have fits' : ∀ other ∈ rows, other.Fits := fun other later => fits other (List.mem_cons_of_mem _ later)
    refine List.pairwise_cons.mpr ⟨fun patch later => Or.inl ?_, ih _ fits'⟩
    have bounds := rowPatches_bounds _ _ fits' patch later
    simp only [Patch.stop]
    omega

/-- Rows laid out from several addresses. -/
def blockPatches (blocks : List (ℕ × List (Row α))) : List (Patch α) :=
  blocks.flatMap fun block => rowPatches block.1 block.2

/-- Blocks whose extents are apart have patches apart. -/
theorem blockPatches_apart (blocks : List (ℕ × List (Row α))) (fits : ∀ block ∈ blocks, ∀ row ∈ block.2, row.Fits)
    (apart : blocks.Pairwise fun first second =>
      first.1 + extent first.2 ≤ second.1 ∨ second.1 + extent second.2 ≤ first.1) :
    (blockPatches blocks).Pairwise Patch.Apart := by
  refine List.pairwise_flatMap.mpr ⟨?_, ?_⟩
  · intro block member
    exact rowPatches_apart _ _ (fits block member)
  · refine apart.imp_of_mem ?_
    intro first second firstMember secondMember order patch member other otherMember
    have low := rowPatches_bounds _ _ (fits first firstMember) patch member
    have high := rowPatches_bounds _ _ (fits second secondMember) other otherMember
    simp only [Patch.Apart]
    omega

/-- The patches of blocks end where the last block does. -/
theorem blockPatches_stop (blocks : List (ℕ × List (Row α))) (fits : ∀ block ∈ blocks, ∀ row ∈ block.2, row.Fits)
    (limit : ℕ) (inside : ∀ block ∈ blocks, block.1 + extent block.2 ≤ limit) :
    ∀ patch ∈ blockPatches blocks, patch.stop ≤ limit := by
  intro patch member
  obtain ⟨block, present, member⟩ := List.mem_flatMap.mp member
  exact (rowPatches_bounds _ _ (fits block present) patch member).2.trans (inside block present)

/-- Rows of one width at one stride. -/
def uniform (stride : ℕ) (rows : List (List α)) : List (Row α) := rows.map fun cells => ⟨cells, stride⟩

@[simp] theorem uniform_cons (stride : ℕ) (row : List α) (rows : List (List α)) :
    uniform stride (row :: rows) = ⟨row, stride⟩ :: uniform stride rows := rfl

theorem uniform_fits (width stride : ℕ) (rows : List (List α)) (wide : ∀ row ∈ rows, row.length = width)
    (fit : width ≤ stride) : ∀ row ∈ uniform stride rows, row.Fits := by
  intro row member
  obtain ⟨cells, present, rfl⟩ := List.mem_map.mp member
  exact (wide cells present).le.trans fit

theorem extent_uniform (stride : ℕ) (rows : List (List α)) : extent (uniform stride rows) = rows.length * stride := by
  simp [extent, uniform, Function.comp_def]

section Blank

variable [Zero α]

def blank (count : ℕ) : List α := List.replicate count 0

@[simp] theorem length_blank (count : ℕ) : (blank count : List α).length = count := List.length_replicate

theorem blank_add (first second : ℕ) : (blank (first + second) : List α) = blank first ++ blank second :=
  List.replicate_add ..

/-- Rows one after the other, each with blank cells up to its stride. -/
def strided (rows : List (Row α)) : List α :=
  rows.flatMap fun row => row.cells ++ blank (row.stride - row.cells.length)

theorem strided_cons (row : Row α) (rows : List (Row α)) :
    strided (row :: rows) = row.cells ++ (blank (row.stride - row.cells.length) ++ strided rows) := by
  simp [strided]

@[simp] theorem strided_append (first second : List (Row α)) :
    strided (first ++ second) = strided first ++ strided second := List.flatMap_append ..

theorem length_strided (rows : List (Row α)) (fits : ∀ row ∈ rows, row.Fits) :
    (strided rows).length = extent rows := by
  induction rows with
  | nil => rfl
  | cons row rows ih =>
    have fit : row.cells.length ≤ row.stride := fits row (List.mem_cons_self ..)
    have rest := ih fun other member => fits other (List.mem_cons_of_mem _ member)
    simp only [strided_cons, extent_cons, List.length_append, length_blank, rest]
    omega

/-- Writing rows over blank cells leaves the strided rows. -/
theorem applyAll_rowPatches (front rest : List α) (rows : List (Row α)) (fits : ∀ row ∈ rows, row.Fits) :
    applyAll (front ++ (blank (extent rows) ++ rest)) (rowPatches front.length rows) =
      front ++ (strided rows ++ rest) := by
  induction rows generalizing front with
  | nil => rfl
  | cons row rows ih =>
    have fit : row.cells.length ≤ row.stride := fits row (List.mem_cons_self ..)
    have fits' : ∀ other ∈ rows, other.Fits := fun other later => fits other (List.mem_cons_of_mem _ later)
    have split : row.stride + extent rows =
        row.cells.length + ((row.stride - row.cells.length) + extent rows) := by omega
    have advance : front.length + row.stride =
        (front ++ (row.cells ++ blank (row.stride - row.cells.length))).length := by
      simp only [List.length_append, length_blank]
      omega
    have written := ih (front ++ (row.cells ++ blank (row.stride - row.cells.length))) fits'
    rw [rowPatches, applyAll_cons, extent_cons, Patch.apply, split, blank_add, List.append_assoc,
      store_middle _ _ _ _ (length_blank _), advance, strided_cons]
    simpa only [List.append_assoc, blank_add] using written

/-- Rows at the stride of their own width leave no cell blank. -/
theorem strided_uniform_self (width : ℕ) (rows : List (List α)) (wide : ∀ row ∈ rows, row.length = width) :
    strided (uniform width rows) = rows.flatten := by
  induction rows with
  | nil => rfl
  | cons row rows ih =>
    have rest := ih fun other member => wide other (List.mem_cons_of_mem _ member)
    have full : width - row.length = 0 := by rw [wide row (List.mem_cons_self ..), Nat.sub_self]
    rw [uniform, List.map_cons, strided_cons, full]
    exact congrArg (row ++ ·) rest

/-- Slices taken at the stride of a layout are its rows. -/
theorem map_slice_uniform (front rest : List α) (rows : List (List α)) (width stride : ℕ)
    (wide : ∀ row ∈ rows, row.length = width) (fit : width ≤ stride) :
    (List.range' front.length rows.length stride).map
        (fun start => slice (front ++ (strided (uniform stride rows) ++ rest)) start (start + width)) = rows := by
  induction rows generalizing front with
  | nil => rfl
  | cons row rows ih =>
    have size : row.length = width := wide row (List.mem_cons_self ..)
    have advance : front.length + stride = (front ++ (row ++ blank (stride - row.length))).length := by
      simp only [List.length_append, length_blank]
      omega
    have later := ih (front ++ (row ++ blank (stride - row.length)))
      fun other member => wide other (List.mem_cons_of_mem _ member)
    have regroup : front ++ (strided (uniform stride (row :: rows)) ++ rest) =
        front ++ (row ++ (blank (stride - row.length) ++ (strided (uniform stride rows) ++ rest))) := by
      simp only [uniform, List.map_cons, strided_cons, List.append_assoc]
    rw [regroup, List.length_cons, List.range'_succ, List.map_cons, advance, ← size, slice_middle]
    congr 1
    simpa only [List.append_assoc, size] using later

/-- A loop that appends rows with a gap behind each lays them out. -/
theorem foldl_gapped (rows : List (List α)) (width gap : ℕ) (wide : ∀ row ∈ rows, row.length = width)
    (out : List α) :
    rows.foldl (fun out row => out ++ (row ++ blank gap)) out = out ++ strided (uniform (width + gap) rows) := by
  induction rows generalizing out with
  | nil => exact (List.append_nil out).symm
  | cons row rows ih =>
    have size : width + gap - row.length = gap := by
      rw [wide row (List.mem_cons_self ..), Nat.add_sub_cancel_left]
    rw [List.foldl_cons, ih fun other member => wide other (List.mem_cons_of_mem _ member), uniform_cons, strided_cons,
      size]
    simp only [List.append_assoc]

/-- One turn of a loop that reads rows at a running position and stores them at listed places. -/
def moveRow (source : List α) (width stride : ℕ) (state : List α × ℕ) (target : ℕ) : List α × ℕ :=
  (store state.1 target (slice source state.2 (state.2 + width)), state.2 + stride)

/-- A whole such loop moves the rows of a layout into adjacent places. -/
theorem foldl_moveRow (front rest before after : List α) (rows : List (List α)) (width stride : ℕ)
    (wide : ∀ row ∈ rows, row.length = width) (fit : width ≤ stride) :
    (List.range' front.length rows.length width).foldl
        (moveRow (before ++ (strided (uniform stride rows) ++ after)) width stride)
        (front ++ (blank (rows.length * width) ++ rest), before.length) =
      (front ++ (rows.flatten ++ rest), before.length + rows.length * stride) := by
  induction rows generalizing front before with
  | nil => simp [blank]
  | cons row rows ih =>
    obtain rfl : row.length = width := wide row (List.mem_cons_self ..)
    have gap : row.length + (stride - row.length) = stride := by omega
    have regroup : before ++ (strided (uniform stride (row :: rows)) ++ after) =
        before ++ (row ++ (blank (stride - row.length) ++ (strided (uniform stride rows) ++ after))) := by
      simp only [uniform, List.map_cons, strided_cons, List.append_assoc]
    have first : moveRow (before ++ (strided (uniform stride (row :: rows)) ++ after)) row.length stride
        (front ++ (blank ((row :: rows).length * row.length) ++ rest), before.length) front.length =
        (front ++ (row ++ (blank (rows.length * row.length) ++ rest)), before.length + stride) := by
      have split : (row :: rows).length * row.length = row.length + rows.length * row.length := by
        rw [List.length_cons]; ring
      rw [moveRow, regroup, slice_middle, split, blank_add, List.append_assoc (blank row.length),
        store_middle _ _ _ _ (length_blank _)]
    have later := ih (front ++ row) (before ++ (row ++ blank (stride - row.length)))
      fun other member => wide other (List.mem_cons_of_mem _ member)
    simp only [List.length_append, length_blank, gap, List.append_assoc] at later
    rw [List.length_cons, List.range'_succ, List.foldl_cons, ← List.length_cons, first, regroup, later,
      List.flatten_cons, List.append_assoc, List.length_cons]
    congr 1
    ring

end Blank

end H618Vpu.Bytes
