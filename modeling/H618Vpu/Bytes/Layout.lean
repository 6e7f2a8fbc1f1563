import H618Vpu.Bytes.Image

/-! # Layouts: tables of rows one after the other

A table carries the facts that make its rows addressable: one width, and a stride it fits. The
cells of a layout are those of its tables in order, and every row can be found again from the
extents of the tables before its own.
-/

namespace H618Vpu.Bytes

variable {α : Type}

/-- Rows of one width, each followed by blank cells up to the stride. -/
structure Table (α : Type) where
  rows : List (List α)
  width : ℕ
  stride : ℕ
  wide : ∀ row ∈ rows, row.length = width
  fit : width ≤ stride

namespace Table

/-- The rows of a two-dimensional array, without gaps. -/
def ofFn {m n : ℕ} (entries : Fin m → Fin n → α) : Table α where
  rows := List.ofFn fun i => List.ofFn (entries i)
  width := n
  stride := n
  wide row member := by
    obtain ⟨i, rfl⟩ := List.mem_ofFn.mp member
    exact List.length_ofFn
  fit := le_rfl

/-- A one-dimensional array as a single row. -/
def row {n : ℕ} (entries : Fin n → α) : Table α := ofFn fun _ : Fin 1 => entries

/-- A one-dimensional array as rows of one cell. -/
def column {n : ℕ} (entries : Fin n → α) : Table α := ofFn fun i (_ : Fin 1) => entries i

/-- Tables of one shape, one after the other. -/
def join {m n : ℕ} (tables : Fin m → Table α) (shape : ∀ i, (tables i).width = n) : Table α where
  rows := (List.finRange m).flatMap fun i => (tables i).rows
  width := n
  stride := n
  wide row member := by
    obtain ⟨i, _, member⟩ := List.mem_flatMap.mp member
    exact ((tables i).wide row member).trans (shape i)
  fit := le_rfl

theorem ofFn_getElem? {m n : ℕ} (entries : Fin m → Fin n → α) (i : Fin m) :
    (ofFn entries).rows[(i : ℕ)]? = some (List.ofFn (entries i)) := by
  change (List.ofFn fun i => List.ofFn (entries i))[(i : ℕ)]? = _
  rw [List.getElem?_ofFn, dif_pos i.isLt]

theorem join_length {m n count : ℕ} {tables : Fin m → Table α} (shape : ∀ i, (tables i).width = n)
    (rows : ∀ i, (tables i).rows.length = count) : (join tables shape).rows.length = m * count := by
  change ((List.finRange m).flatMap fun i => (tables i).rows).length = m * count
  rw [List.length_flatMap, List.map_congr_left fun i _ => rows i, List.map_const', List.sum_replicate,
    List.length_finRange, smul_eq_mul]

/-- A row of a joined table is a row of one of its parts. -/
theorem join_getElem? {m n count : ℕ} {tables : Fin m → Table α} (shape : ∀ i, (tables i).width = n)
    (rows : ∀ i, (tables i).rows.length = count) (i : Fin m) {row : ℕ} (inside : row < count) :
    (join tables shape).rows[i * count + row]? = (tables i).rows[row]? := by
  change ((List.finRange m).flatMap fun i => (tables i).rows)[i * count + row]? = (tables i).rows[row]?
  induction m with
  | zero => exact i.elim0
  | succ m ih =>
    rw [List.finRange_succ, List.flatMap_cons, List.flatMap_map]
    cases i using Fin.cases with
    | zero => rw [Fin.val_zero, Nat.zero_mul, Nat.zero_add, List.getElem?_append_left (by rwa [rows])]
    | succ i =>
      have later : (i.succ : ℕ) * count + row = (tables 0).rows.length + (i * count + row) := by
        rw [rows, Fin.val_succ]
        ring
      rw [later, List.getElem?_append_right (Nat.le_add_right ..), Nat.add_sub_cancel_left]
      exact ih (fun i => shape i.succ) (fun i => rows i.succ) i

/-- No cells, only a distance. -/
def gap (stride : ℕ) : Table α where
  rows := [[]]
  width := 0
  stride
  wide row member := by rw [List.mem_singleton.mp member, List.length_nil]
  fit := Nat.zero_le _

/-- The same rows, each followed by a gap. -/
def spaced (table : Table α) (gap : ℕ) : Table α :=
  { table with stride := table.width + gap, fit := Nat.le_add_right .. }

/-- The rows with their stride. -/
def strideRows (table : Table α) : List (Row α) := uniform table.stride table.rows

def extent (table : Table α) : ℕ := table.rows.length * table.stride

theorem strideRows_fits (table : Table α) : ∀ row ∈ table.strideRows, row.Fits :=
  uniform_fits table.width table.stride table.rows table.wide table.fit

theorem extent_strideRows (table : Table α) : Bytes.extent table.strideRows = table.extent := extent_uniform ..

end Table

/-- The rows of a layout with their strides. -/
def layoutRows (tables : List (Table α)) : List (Row α) := tables.flatMap Table.strideRows

def layoutExtent (tables : List (Table α)) : ℕ := (tables.map Table.extent).sum

theorem layoutRows_fits (tables : List (Table α)) : ∀ row ∈ layoutRows tables, row.Fits := by
  intro row member
  obtain ⟨table, _, member⟩ := List.mem_flatMap.mp member
  exact table.strideRows_fits row member

theorem extent_layoutRows (tables : List (Table α)) : extent (layoutRows tables) = layoutExtent tables := by
  induction tables with
  | nil => rfl
  | cons table tables ih =>
    change extent (table.strideRows ++ layoutRows tables) = table.extent + layoutExtent tables
    rw [extent_append, table.extent_strideRows, ih]

section Cells

variable [Zero α]

/-- The cells of a layout. -/
def layout (tables : List (Table α)) : List α := strided (layoutRows tables)

theorem length_layout (tables : List (Table α)) : (layout tables).length = layoutExtent tables := by
  rw [layout, length_strided _ (layoutRows_fits tables), extent_layoutRows]

theorem layout_append (first second : List (Table α)) : layout (first ++ second) = layout first ++ layout second := by
  simp only [layout, layoutRows, List.flatMap_append, strided_append]

@[simp] theorem layout_cons (table : Table α) (tables : List (Table α)) :
    layout (table :: tables) = strided table.strideRows ++ layout tables := by
  simp only [layout, layoutRows, List.flatMap_cons, strided_append]

theorem strided_ofFn {m n : ℕ} (entries : Fin m → Fin n → α) :
    strided (Table.ofFn entries).strideRows = (List.ofFn fun i => List.ofFn (entries i)).flatten :=
  strided_uniform_self _ _ (Table.ofFn entries).wide

/-- Where a table lies in a layout. -/
theorem layout_split (tables : List (Table α)) (index : ℕ) (table : Table α) (found : tables[index]? = some table) :
    layout tables =
      layout (tables.take index) ++ (strided table.strideRows ++ layout (tables.drop (index + 1))) := by
  obtain ⟨bound, rfl⟩ := List.getElem?_eq_some_iff.mp found
  rw [← layout_cons, ← layout_append, ← List.drop_eq_getElem_cons bound, List.take_append_drop]

/-- The slices at a table's place in the layout are its rows. -/
theorem map_slice_layout (tables : List (Table α)) (index start : ℕ) (table : Table α)
    (found : tables[index]? = some table) (place : layoutExtent (tables.take index) = start) :
    (List.range' start table.rows.length table.stride).map
      (fun off => slice (layout tables) off (off + table.width)) = table.rows := by
  rw [layout_split tables index table found, ← place, ← length_layout]
  exact map_slice_uniform _ _ _ _ _ table.wide table.fit

/-- One row of a table, by its address in the layout. -/
theorem slice_layout (tables : List (Table α)) (index start : ℕ) (table : Table α)
    (found : tables[index]? = some table) (place : layoutExtent (tables.take index) = start)
    (row : ℕ) (bound : row < table.rows.length) :
    slice (layout tables) (start + table.stride * row) (start + table.stride * row + table.width) =
      table.rows[row] := by
  have rows := map_slice_layout tables index start table found place
  have entry := congrArg (·[row]?) rows
  simpa [List.getElem?_map, bound] using entry

end Cells

end H618Vpu.Bytes
