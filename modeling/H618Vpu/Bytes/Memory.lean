import H618Vpu.Bytes.Image

/-! # Checked memory

Moves and copies inside a buffer, which fail where an access would leave it or a copy would overlap. Copies whose
sources are not among their targets can be made all at once; the rows of several planes are extended in this way.
-/

namespace H618Vpu.Bytes

variable {α : Type}

/-- `memmove` inside a buffer. -/
def move (memory : List α) (dst src len : ℕ) : Option (List α) :=
  if src + len ≤ memory.length ∧ dst + len ≤ memory.length then
    some (store memory dst (slice memory src (src + len)))
  else none

/-- A write of one cell. -/
def poke (memory : List α) (address : ℕ) (cell : α) : Option (List α) :=
  if address < memory.length then some (memory.set address cell) else none

/-- `memcpy` inside a buffer: a move of regions that do not overlap. -/
def copy (memory : List α) (dst src len : ℕ) : Option (List α) :=
  if dst + len ≤ src ∨ src + len ≤ dst then move memory dst src len else none

theorem length_slice (xs : List α) {start stop : ℕ} (inside : stop ≤ xs.length) :
    (slice xs start stop).length = stop - start := by
  rw [slice, List.length_drop, List.length_take, min_eq_left inside]

theorem getElem?_slice (xs : List α) (start len i : ℕ) (below : i < len) :
    (slice xs start (start + len))[i]? = xs[start + i]? := by
  rw [slice, List.getElem?_drop, List.getElem?_take_of_lt (Nat.add_lt_add_left below start)]

theorem move_eq_some {memory : List α} {dst src len : ℕ} (source : src + len ≤ memory.length)
    (target : dst + len ≤ memory.length) :
    move memory dst src len = some (store memory dst (slice memory src (src + len))) :=
  if_pos ⟨source, target⟩

/-- A move from the start of the memory, which makes room in front of what it moves. -/
theorem move_front {memory : List α} {dst len : ℕ} (fits : dst + len ≤ memory.length) :
    move memory dst 0 len = some (memory.take dst ++ (memory.take len ++ memory.drop (dst + len))) := by
  have source : slice memory 0 (0 + len) = memory.take len := by
    rw [slice, Nat.zero_add, List.drop_zero]
  have length : (memory.take len).length = len := List.length_take_of_le (by omega)
  rw [move_eq_some (by omega) fits, source, store, length]

/-- What a move leaves behind. -/
theorem move_spec {memory : List α} {dst src len : ℕ} (source : src + len ≤ memory.length)
    (target : dst + len ≤ memory.length) :
    ∃ after, move memory dst src len = some after ∧ after.length = memory.length ∧
      (∀ i < len, after[dst + i]? = memory[src + i]?) ∧
      ∀ i, i < dst ∨ dst + len ≤ i → after[i]? = memory[i]? := by
  have size : (slice memory src (src + len)).length = len := by
    rw [length_slice _ source, Nat.add_sub_cancel_left]
  have fits : dst + (slice memory src (src + len)).length ≤ memory.length := by rwa [size]
  refine ⟨_, move_eq_some source target, length_store _ _ _ fits, ?_, ?_⟩
  · intro i below
    rw [getElem?_store _ _ _ _ fits, size, if_pos (by omega), Nat.add_sub_cancel_left, getElem?_slice _ _ _ _ below]
  · intro i outside
    rw [getElem?_store _ _ _ _ fits, size, if_neg (by omega)]

/-- A `memcpy`, yet to be made. -/
structure Copy where
  dst : ℕ
  src : ℕ
  len : ℕ

namespace Copy

def run (memory : List α) (transfer : Copy) : Option (List α) := copy memory transfer.dst transfer.src transfer.len

/-- What the copy writes. -/
def patch (memory : List α) (transfer : Copy) : Patch α :=
  ⟨transfer.dst, slice memory transfer.src (transfer.src + transfer.len)⟩

def Inside (transfer : Copy) (size : ℕ) : Prop :=
  transfer.src + transfer.len ≤ size ∧ transfer.dst + transfer.len ≤ size

/-- The copy writes nothing that the other one reads. -/
def Spares (transfer other : Copy) : Prop :=
  transfer.dst + transfer.len ≤ other.src ∨ other.src + other.len ≤ transfer.dst

variable {memory : List α} {transfer other : Copy}

theorem patch_stop (inside : transfer.Inside memory.length) :
    (transfer.patch memory).stop = transfer.dst + transfer.len := by
  rw [Patch.stop, patch, length_slice _ inside.1, Nat.add_sub_cancel_left]

theorem patch_fits (inside : transfer.Inside memory.length) : (transfer.patch memory).stop ≤ memory.length := by
  rw [patch_stop inside]
  exact inside.2

theorem run_eq_some (inside : transfer.Inside memory.length) (spares : transfer.Spares transfer) :
    transfer.run memory = some ((transfer.patch memory).apply memory) := by
  rw [Spares] at spares
  rw [run, copy, if_pos spares, move_eq_some inside.1 inside.2]
  rfl

/-- A copy that is spared reads the same before and after. -/
theorem patch_apply (inside : transfer.Inside memory.length) (inside' : other.Inside memory.length)
    (spares : transfer.Spares other) : other.patch ((transfer.patch memory).apply memory) = other.patch memory := by
  have fits := patch_fits inside
  have stop := patch_stop inside
  have size : (slice memory other.src (other.src + other.len)).length = other.len := by
    rw [length_slice _ inside'.1, Nat.add_sub_cancel_left]
  have size' : (slice ((transfer.patch memory).apply memory) other.src (other.src + other.len)).length = other.len := by
    rw [length_slice _ (by rw [Patch.length_apply _ _ fits]; exact inside'.1), Nat.add_sub_cancel_left]
  refine congrArg (Patch.mk other.dst) (List.ext_getElem? fun i => ?_)
  by_cases below : i < other.len
  · have uncovered : ¬ (transfer.patch memory).Covers (other.src + i) := by
      rintro ⟨low, high⟩
      rw [stop] at high
      have start : transfer.dst ≤ other.src + i := low
      rcases spares with before | after <;> omega
    rw [getElem?_slice _ _ _ _ below, getElem?_slice _ _ _ _ below, Patch.getElem?_apply _ _ _ fits,
      if_neg uncovered]
  · rw [List.getElem?_eq_none (by omega), List.getElem?_eq_none (by omega)]

end Copy

/-- Copies whose sources are not written can be made all at once. -/
theorem foldlM_copy (copies : List Copy) (memory : List α) (inside : ∀ transfer ∈ copies, transfer.Inside memory.length)
    (spares : ∀ transfer ∈ copies, ∀ other ∈ copies, transfer.Spares other) :
    copies.foldlM Copy.run memory = some (applyAll memory (copies.map (Copy.patch memory))) := by
  induction copies generalizing memory with
  | nil => rfl
  | cons transfer copies ih =>
    have first := inside transfer (List.mem_cons_self ..)
    have same := Patch.length_apply _ _ (Copy.patch_fits first)
    have rest : copies.map (Copy.patch ((transfer.patch memory).apply memory)) = copies.map (Copy.patch memory) := by
      apply List.map_congr_left
      intro other later
      exact Copy.patch_apply first (inside other (List.mem_cons_of_mem _ later))
        (spares transfer (List.mem_cons_self ..) other (List.mem_cons_of_mem _ later))
    rw [List.foldlM_cons, Copy.run_eq_some first (spares _ (List.mem_cons_self ..) _ (List.mem_cons_self ..)),
      Option.bind_eq_bind, Option.bind_some, ih, rest, List.map_cons, applyAll_cons]
    · intro other later
      rw [same]
      exact inside other (List.mem_cons_of_mem _ later)
    · intro one member other later
      exact spares one (List.mem_cons_of_mem _ member) other (List.mem_cons_of_mem _ later)

/-- Rows from a start on, one stride each. -/
structure Plane where
  start : ℕ
  stride : ℕ

namespace Plane

def row (plane : Plane) (number : ℕ) : ℕ := plane.start + number * plane.stride

theorem row_add (plane : Plane) (number further : ℕ) :
    plane.row (number + further) = plane.row number + further * plane.stride := by
  rw [row, row, Nat.add_mul, Nat.add_assoc]

theorem row_succ (plane : Plane) (number : ℕ) : plane.row (number + 1) = plane.row number + plane.stride := by
  rw [row_add, Nat.one_mul]

theorem row_mono (plane : Plane) : Monotone plane.row := fun _ _ less =>
  Nat.add_le_add_left (Nat.mul_le_mul_right _ less) _

theorem start_le_row (plane : Plane) (number : ℕ) : plane.start ≤ plane.row number := Nat.le_add_right _ _

theorem cell_inside (plane : Plane) {number rows x : ℕ} (below : number < rows) (small : x < plane.stride) :
    plane.start ≤ plane.row number + x ∧ plane.row number + x < plane.row rows := by
  have next : plane.row (number + 1) ≤ plane.row rows := plane.row_mono below
  have first := plane.start_le_row number
  rw [plane.row_succ] at next
  omega

/-- The rows of two planes lie apart. -/
def Apart (rows : ℕ) (first second : Plane) : Prop :=
  first.row rows ≤ second.start ∨ second.row rows ≤ first.start

instance (rows : ℕ) : Std.Symm (Apart rows) := ⟨fun _ _ => Or.symm⟩

end Plane

/-- The copy of a row to another one. -/
def Plane.copyRow (dst src : ℕ) (plane : Plane) : Copy := ⟨plane.row dst, plane.row src, plane.stride⟩

/-- The copies of the last visible row of each plane to the rows below it. -/
def extension (planes : List Plane) (visible rows : ℕ) : List Copy :=
  (List.range' visible (rows - visible)).flatMap fun row => planes.map (Plane.copyRow row (visible - 1))

variable {planes : List Plane} {visible rows : ℕ}

theorem mem_extension {transfer : Copy} :
    transfer ∈ extension planes visible rows ↔
      ∃ row, visible ≤ row ∧ row < rows ∧ ∃ plane ∈ planes, plane.copyRow row (visible - 1) = transfer := by
  simp only [extension, List.mem_flatMap, List.mem_map, List.mem_range'_1]
  constructor
  · rintro ⟨row, ⟨low, high⟩, plane⟩
    exact ⟨row, low, by omega, plane⟩
  · rintro ⟨row, low, high, plane⟩
    exact ⟨row, ⟨low, by omega⟩, plane⟩

/-- Two rows of planes that lie apart do, unless they are the same. -/
theorem Plane.rows_apart {plane other : Plane} {row row' : ℕ} (inside : row < rows) (inside' : row' < rows)
    (apart : plane = other ∧ row ≠ row' ∨ Plane.Apart rows plane other) :
    plane.row row + plane.stride ≤ other.row row' ∨ other.row row' + other.stride ≤ plane.row row := by
  rw [← plane.row_succ, ← other.row_succ]
  rcases apart with ⟨rfl, different⟩ | before | after
  · rcases Nat.lt_or_gt_of_ne different with less | greater
    · exact Or.inl (plane.row_mono less)
    · exact Or.inr (plane.row_mono greater)
  · exact Or.inl ((plane.row_mono inside).trans (before.trans (other.start_le_row row')))
  · exact Or.inr ((other.row_mono inside').trans (after.trans (plane.start_le_row row)))

theorem Plane.apart_of_mem (apart : planes.Pairwise (Plane.Apart rows)) {plane other : Plane}
    (member : plane ∈ planes) (member' : other ∈ planes) : plane = other ∨ Plane.Apart rows plane other := by
  by_cases same : plane = other
  · exact Or.inl same
  · exact Or.inr (apart.forall member member' same)

/-- The copies of an extension read what none of them writes. -/
theorem extension_spares (positive : 0 < visible) (apart : planes.Pairwise (Plane.Apart rows)) :
    ∀ transfer ∈ extension planes visible rows, ∀ other ∈ extension planes visible rows, transfer.Spares other := by
  intro transfer member other member'
  obtain ⟨row, low, high, plane, present, rfl⟩ := mem_extension.mp member
  obtain ⟨row', low', high', plane', present', rfl⟩ := mem_extension.mp member'
  have below : visible - 1 < rows := by omega
  refine Plane.rows_apart high below ?_
  exact (Plane.apart_of_mem apart present present').imp_left fun same => ⟨same, by omega⟩

theorem extension_inside {size : ℕ} (positive : 0 < visible) (inside : ∀ plane ∈ planes, plane.row rows ≤ size) :
    ∀ transfer ∈ extension planes visible rows, transfer.Inside size := by
  intro transfer member
  obtain ⟨row, low, high, plane, present, rfl⟩ := mem_extension.mp member
  have top := inside plane present
  have source : plane.row (visible - 1 + 1) ≤ plane.row rows := plane.row_mono (by omega)
  have target : plane.row (row + 1) ≤ plane.row rows := plane.row_mono high
  rw [plane.row_succ] at source target
  exact ⟨source.trans top, target.trans top⟩

/-- The copies of an extension write apart from each other. -/
theorem extension_apart {memory : List α} (positive : 0 < visible) (apart : planes.Pairwise (Plane.Apart rows))
    (inside : ∀ plane ∈ planes, plane.row rows ≤ memory.length) :
    ((extension planes visible rows).map (Copy.patch memory)).Pairwise Patch.Apart := by
  have stops := extension_inside positive inside
  have targets : (extension planes visible rows).Pairwise fun first second =>
      first.dst + first.len ≤ second.dst ∨ second.dst + second.len ≤ first.dst := by
    refine List.pairwise_flatMap.mpr ⟨?_, ?_⟩
    · intro row member
      obtain ⟨low, high⟩ := List.mem_range'_1.mp member
      have below : row < rows := by omega
      exact List.pairwise_map.mpr (apart.imp fun aside => Plane.rows_apart below below (Or.inr aside))
    · refine (List.pairwise_lt_range' (s := visible) (n := rows - visible)).imp_of_mem ?_
      intro row row' member member' less transfer copied other copied'
      obtain ⟨low, high⟩ := List.mem_range'_1.mp member
      obtain ⟨low', high'⟩ := List.mem_range'_1.mp member'
      obtain ⟨plane, present, rfl⟩ := List.mem_map.mp copied
      obtain ⟨plane', present', rfl⟩ := List.mem_map.mp copied'
      have below : row < rows := by omega
      have below' : row' < rows := by omega
      refine Plane.rows_apart below below' ?_
      exact (Plane.apart_of_mem apart present present').imp_left fun same => ⟨same, less.ne⟩
  refine List.pairwise_map.mpr (targets.imp_of_mem ?_)
  intro first second member member' aside
  rw [Patch.Apart, Copy.patch_stop (stops first member), Copy.patch_stop (stops second member')]
  exact aside

/-- A fold over the parts of a list, part by part. -/
theorem foldlM_flatMap {β γ : Type} (run : α → γ → Option α) (parts : β → List γ) (items : List β) (start : α) :
    (items.flatMap parts).foldlM run start = items.foldlM (fun state item => (parts item).foldlM run state) start := by
  induction items generalizing start with
  | nil => rfl
  | cons item items ih => simp only [List.flatMap_cons, List.foldlM_append, List.foldlM_cons, ih]

/-- The loop that extends two planes at once. -/
theorem foldlM_extension (first second : Plane) (memory : List α) :
    (List.range' visible (rows - visible)).foldlM (fun memory row => do
        let memory ← copy memory (first.row row) (first.row (visible - 1)) first.stride
        copy memory (second.row row) (second.row (visible - 1)) second.stride) memory =
      (extension [first, second] visible rows).foldlM Copy.run memory := by
  rw [extension, foldlM_flatMap]
  simp only [List.map_cons, List.map_nil, List.foldlM_cons, List.foldlM_nil, bind_pure]
  rfl

/-- What an extension leaves behind. -/
structure Extended (planes : List Plane) (visible rows : ℕ) (memory after : List α) : Prop where
  length : after.length = memory.length
  row : ∀ plane ∈ planes, ∀ number < rows, ∀ x < plane.stride,
    after[plane.row number + x]? = memory[plane.row (min number (visible - 1)) + x]?
  frame : ∀ i, (∀ plane ∈ planes, i < plane.start ∨ plane.row rows ≤ i) → after[i]? = memory[i]?

theorem extension_spec {memory : List α} (positive : 0 < visible) (apart : planes.Pairwise (Plane.Apart rows))
    (inside : ∀ plane ∈ planes, plane.row rows ≤ memory.length) :
    ∃ after, (extension planes visible rows).foldlM Copy.run memory = some after ∧
      Extended planes visible rows memory after := by
  have stops := extension_inside positive inside
  have fits : ∀ patch ∈ (extension planes visible rows).map (Copy.patch memory), patch.stop ≤ memory.length := by
    intro patch member
    obtain ⟨transfer, present, rfl⟩ := List.mem_map.mp member
    exact Copy.patch_fits (stops transfer present)
  refine ⟨_, foldlM_copy _ _ stops (extension_spares positive apart), length_applyAll _ _ fits, ?_, ?_⟩
  · intro plane present number below x small
    by_cases seen : number < visible
    · rw [Nat.min_eq_left (by omega)]
      refine getElem?_applyAll_of_uncovered _ _ _ fits fun patch member => ?_
      obtain ⟨transfer, copied, rfl⟩ := List.mem_map.mp member
      obtain ⟨row, low, high, other, present', rfl⟩ := mem_extension.mp copied
      have aside := Plane.rows_apart below high
        ((Plane.apart_of_mem apart present present').imp_left fun same => ⟨same, by omega⟩)
      rintro ⟨start, stop⟩
      rw [Copy.patch_stop (stops _ copied)] at stop
      simp only [Copy.patch, Plane.copyRow] at start stop
      omega
    · have copied : plane.copyRow number (visible - 1) ∈ extension planes visible rows :=
        mem_extension.mpr ⟨number, Nat.not_lt.mp seen, below, plane, present, rfl⟩
      have covers : ((plane.copyRow number (visible - 1)).patch memory).Covers (plane.row number + x) := by
        refine ⟨Nat.le_add_right _ _, ?_⟩
        rw [Copy.patch_stop (stops _ copied)]
        exact Nat.add_lt_add_left small _
      rw [getElem?_applyAll_of_covered _ _ _ fits (extension_apart positive apart inside) _
        (List.mem_map_of_mem copied) covers, Nat.min_eq_right (by omega)]
      have place : plane.row number + x - ((plane.copyRow number (visible - 1)).patch memory).start = x :=
        Nat.add_sub_cancel_left _ _
      rw [place]
      exact getElem?_slice _ _ _ _ small
  · intro i outside
    refine getElem?_applyAll_of_uncovered _ _ _ fits fun patch member => ?_
    obtain ⟨transfer, copied, rfl⟩ := List.mem_map.mp member
    obtain ⟨row, low, high, plane, present, rfl⟩ := mem_extension.mp copied
    have bottom := plane.start_le_row row
    have top : plane.row (row + 1) ≤ plane.row rows := plane.row_mono high
    rw [plane.row_succ] at top
    rintro ⟨start, stop⟩
    rw [Copy.patch_stop (stops _ copied)] at stop
    simp only [Copy.patch, Plane.copyRow] at start stop
    rcases outside plane present with before | after <;> omega

end H618Vpu.Bytes
