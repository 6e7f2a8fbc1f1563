import H618Vpu.Bits.Words
import H618Vpu.Math.Tiling
import H618Vpu.Soundness.Vp9Program
import H618Vpu.Spec.Vp9Process

/-! # The tiles of a VP9 program

The first tile stands in a register and the others in records before the probabilities. They tile the
superblocks of the frame as long as there are no more tile rows and columns than superblocks; with more, some
tiles are empty, and the driver takes one from zero.
-/

namespace H618Vpu.Vp9

open Bits Bytes Math

variable {size : ℕ}

/-- A tile by its first and last superblocks. -/
structure Tile where
  left : ℕ
  top : ℕ
  right : ℕ
  bottom : ℕ
deriving DecidableEq, Repr

/-- A tile from the words of its corners, with the row in the upper half. -/
def Tile.ofCorners (first last : UInt32) : Tile where
  left := wordField first 0 16
  top := wordField first 16 16
  right := wordField last 0 16
  bottom := wordField last 16 16

/-- The values written to a register. -/
def HwProgram.written (program : HwProgram) (register : Register) : List UInt32 :=
  (program.writes.filter (·.1 = register)).map (·.2)

/-- Four bytes of memory as a word. -/
def wordAt (memory : List UInt8) (address : ℕ) : UInt32 :=
  .ofNat ((memory.getD address 0).toNat + (memory.getD (address + 1) 0).toNat * 2 ^ 8 +
    (memory.getD (address + 2) 0).toNat * 2 ^ 16 + (memory.getD (address + 3) 0).toNat * 2 ^ 24)

/-- The tiles by number: the first one from the registers as they were last written, the others from their
records. -/
def HwProgram.tile (program : HwProgram) : ℕ → Tile
  | 0 => .ofCorners ((program.written .tileStart).getLastD 0) ((program.written .tileEnd).getLastD 0)
  | number + 1 => .ofCorners (wordAt program.probCount (number * 16 + 8)) (wordAt program.probCount (number * 16 + 12))

def HwProgram.tiles (program : HwProgram) (count : ℕ) : List Tile := (List.range count).map program.tile

/-- The superblocks of a frame across and down. -/
def Frame.sbCols (frame : Frame) : ℕ := divRoundUp frame.width 64

def Frame.sbRows (frame : Frame) : ℕ := divRoundUp frame.height 64

/-- The tile of a row and a column, by the offsets of the decoding process. -/
def Frame.tileAt (frame : Frame) (row col : ℕ) : Tile where
  left := Spec.Vp9.tileOffset col frame.sbCols frame.tileColsLog2
  top := Spec.Vp9.tileOffset row frame.sbRows frame.tileRowsLog2
  right := Spec.Vp9.tileOffset (col + 1) frame.sbCols frame.tileColsLog2 - 1
  bottom := Spec.Vp9.tileOffset (row + 1) frame.sbRows frame.tileRowsLog2 - 1

/-- The tiles in row-major order. -/
def Frame.specTiles (frame : Frame) : List Tile :=
  (List.range (2 ^ frame.tileRowsLog2)).flatMap fun row =>
    (List.range (2 ^ frame.tileColsLog2)).map fun col => frame.tileAt row col

/-- The superblock belongs to the tile. -/
def Tile.Has (tile : Tile) (x y : ℕ) : Prop := tile.left ≤ x ∧ x ≤ tile.right ∧ tile.top ≤ y ∧ y ≤ tile.bottom

/-- The sizes are those of their 16-bit fields. -/
def Frame.Sized (frame : Frame) : Prop := frame.frameWidthMinus1 < 2 ^ 16 ∧ frame.frameHeightMinus1 < 2 ^ 16

/-- There are superblocks for all tile columns and rows. -/
def Frame.TilesFit (frame : Frame) : Prop :=
  2 ^ frame.tileColsLog2 ≤ frame.sbCols ∧ 2 ^ frame.tileRowsLog2 ≤ frame.sbRows

theorem toNat_leBytes (word : UInt32) :
    word.toUInt8.toNat + (word >>> 8).toUInt8.toNat * 2 ^ 8 + (word >>> 16).toUInt8.toNat * 2 ^ 16 +
      (word >>> 24).toUInt8.toNat * 2 ^ 24 = word.toNat := by
  have small := word.toNat_lt
  have second : (word >>> 8).toNat = word.toNat / 2 ^ 8 := by
    rw [UInt32.toNat_shiftRight, Nat.shiftRight_eq_div_pow]
    rfl
  have third : (word >>> 16).toNat = word.toNat / 2 ^ 16 := by
    rw [UInt32.toNat_shiftRight, Nat.shiftRight_eq_div_pow]
    rfl
  have fourth : (word >>> 24).toNat = word.toNat / 2 ^ 24 := by
    rw [UInt32.toNat_shiftRight, Nat.shiftRight_eq_div_pow]
    rfl
  simp only [UInt32.toNat_toUInt8, second, third, fourth]
  omega

/-- A word is read from the memory its bytes are in. -/
theorem wordAt_of_leBytes {memory : List UInt8} {address : ℕ} {word : UInt32}
    (bytes : ∀ i < 4, memory[address + i]? = (leBytes word)[i]?) : wordAt memory address = word := by
  have first := bytes 0 (by decide)
  have second := bytes 1 (by decide)
  have third := bytes 2 (by decide)
  have fourth := bytes 3 (by decide)
  rw [Nat.add_zero] at first
  have value : wordAt memory address = .ofNat (word.toUInt8.toNat + (word >>> 8).toUInt8.toNat * 2 ^ 8 +
      (word >>> 16).toUInt8.toNat * 2 ^ 16 + (word >>> 24).toUInt8.toNat * 2 ^ 24) := by
    simp only [wordAt, List.getD_eq_getElem?_getD, first, second, third, fourth]
    rfl
  rw [value, toNat_leBytes, UInt32.ofNat_toNat]

/-- The word of the last superblocks of the first tile. -/
def tileEndWord (frame : Frame) : UInt32 :=
  (((superblocks frame.height >>> UInt32.ofNat frame.tileRowsLog2) - 1) <<< 16) |||
    ((superblocks frame.width >>> UInt32.ofNat frame.tileColsLog2) - 1)

/-- No write of a part of the program goes to the tile registers. -/
def Untiled (writes : List Write) : Prop := ∀ write ∈ writes, write.1 ≠ .tileStart ∧ write.1 ≠ .tileEnd

theorem Untiled.filter {writes : List Write} (untiled : Untiled writes) :
    writes.filter (·.1 = .tileStart) = [] ∧ writes.filter (·.1 = .tileEnd) = [] :=
  ⟨List.filter_eq_nil_iff.mpr fun write member => by simpa using (untiled write member).1,
    List.filter_eq_nil_iff.mpr fun write member => by simpa using (untiled write member).2⟩

theorem Untiled.append {first second : List Write} (one : Untiled first) (other : Untiled second) :
    Untiled (first ++ second) := fun write member =>
  (List.mem_append.mp member).elim (one write) (other write)

theorem untiled_sramWrite (offset : UInt32) (values : List UInt32) : Untiled (sramWrite offset values) := by
  intro write member
  rcases List.mem_cons.mp member with rfl | data
  · exact ⟨nofun, nofun⟩
  · obtain ⟨value, -, rfl⟩ := List.mem_map.mp data
    exact ⟨nofun, nofun⟩

theorem untiled_referenceWrites (frame : Frame) (references : Option References) :
    Untiled (referenceWrites frame references) := by
  cases references <;> simp [Untiled, referenceWrites]

theorem untiled_tenBitWrites (config : Config) (frame : Frame) (destination : DestinationDma) :
    Untiled (tenBitWrites config frame destination) := by
  unfold tenBitWrites
  split <;> simp [Untiled]

theorem untiled_outputWrites (frame : Frame) : Untiled (outputWrites frame) := by
  unfold outputWrites
  split <;> simp [Untiled]

/-- The tile registers are written once. -/
theorem written_tiles (config : ProgramConfig) (request : Request) (record : Record) (program : Program)
    (memory : List UInt8) :
    HwProgram.written ⟨registerWrites config request record program, memory⟩ .tileStart = [0] ∧
      HwProgram.written ⟨registerWrites config request record program, memory⟩ .tileEnd =
        [tileEndWord request.frame] := by
  have references := (untiled_referenceWrites request.frame program.references).filter
  have tenBit := (untiled_tenBitWrites config.toConfig request.frame
    (config.destinationDma request.toJob record)).filter
  have output := (untiled_outputWrites request.frame).filter
  have dequant : Untiled (dequantWrite config request) := (untiled_sramWrite _ _).append (untiled_sramWrite _ _)
  have loopFilter : Untiled (loopFilterWrite request) := untiled_sramWrite _ _
  simp only [HwProgram.written, registerWrites, List.filter_append, references, tenBit, output, dequant.filter,
    loopFilter.filter, streamWrites, controlWrites]
  constructor
  · simp
  · simp [tileEndWord]

/-- What an accepted request has of tiles. -/
theorem Decoder.hwProgram_ok {dec : Decoder size} {config : ProgramConfig} {request : Request} {program : HwProgram}
    (accepted : dec.hwProgram config request = .ok program) :
    request.frame.tileColsLog2 ≤ 6 ∧ request.frame.tileRowsLog2 ≤ 2 ∧ ∃ record values, ∃ store : Store size,
      program = ⟨registerWrites config request record values, store.probCountImage request⟩ := by
  have accepted' : dec.hwProgram config (request.withHeader
      ⟨request.frame.referenceMode, request.refFrameSignBias, request.lf.sharpness⟩) = .ok program := accepted
  obtain ⟨cols, rows, references, -, same⟩ := Decoder.hwProgram_withHeader accepted'
  exact ⟨cols, rows, _, _, _, same⟩

/-- The words of a record. -/
def recordFirst (frame : Frame) (number : ℕ) : UInt32 :=
  let row := UInt32.ofNat (number / 2 ^ frame.tileColsLog2)
  let col := UInt32.ofNat (number % 2 ^ frame.tileColsLog2)
  (((row * superblocks frame.height) >>> UInt32.ofNat frame.tileRowsLog2) <<< 16) |||
    ((col * superblocks frame.width) >>> UInt32.ofNat frame.tileColsLog2)

def recordLast (frame : Frame) (number : ℕ) : UInt32 :=
  let row := UInt32.ofNat (number / 2 ^ frame.tileColsLog2)
  let col := UInt32.ofNat (number % 2 ^ frame.tileColsLog2)
  (((((row + 1) * superblocks frame.height) >>> UInt32.ofNat frame.tileRowsLog2) - 1) <<< 16) |||
    ((((col + 1) * superblocks frame.width) >>> UInt32.ofNat frame.tileColsLog2) - 1)

theorem tileEntry_cells (frame : Frame) (number : ℕ) :
    tileEntry frame number = ⟨(number - 1) * 16,
      leBytes 0 ++ leBytes 0 ++ leBytes (recordFirst frame number) ++ leBytes (recordLast frame number)⟩ := rfl

/-- The records lie apart. -/
theorem tileEntries_apart (frame : Frame) : frame.tileEntries.Pairwise Patch.Apart := by
  refine List.pairwise_map.mpr ((List.pairwise_lt_range' (s := 1) (n := frame.tileCount - 1)).imp_of_mem ?_)
  intro one other present _ order
  obtain ⟨low, -⟩ := List.mem_range'_1.mp present
  left
  simp only [Patch.stop, tileEntry_cells, leBytes, List.length_append, List.length_cons, List.length_nil]
  omega

/-- The records stand in the probability buffer. -/
theorem wordAt_record (store : Store size) {request : Request} (cols : request.frame.tileColsLog2 ≤ 6)
    (rows : request.frame.tileRowsLog2 ≤ 2) {number : ℕ} (inside : number + 1 < request.frame.tileCount) :
    wordAt (store.probCountImage request) (number * 16 + 8) = recordFirst request.frame (number + 1) ∧
      wordAt (store.probCountImage request) (number * 16 + 12) = recordLast request.frame (number + 1) := by
  have fits := store.tileEntries_fit cols rows
  have member : tileEntry request.frame (number + 1) ∈ request.frame.tileEntries :=
    List.mem_map_of_mem (List.mem_range'_1.mpr (by omega))
  have entry := tileEntry_cells request.frame (number + 1)
  -- The byte at a place of the record.
  have byte (i : ℕ) (small : i < 16) :
      (store.probCountImage request)[number * 16 + i]? = (tileEntry request.frame (number + 1)).cells[i]? := by
    have covers : (tileEntry request.frame (number + 1)).Covers (number * 16 + i) := by
      simp only [Patch.Covers, Patch.stop, entry, leBytes, List.length_append, List.length_cons, List.length_nil]
      omega
    have place : number * 16 + i - (tileEntry request.frame (number + 1)).start = i := by
      simp only [entry]
      omega
    rw [store.probCountImage_eq cols rows, List.getElem?_append_left
        (by rw [length_applyAll _ _ fits]; exact covers.2.trans_le (fits _ member)),
      getElem?_applyAll_of_covered _ _ _ fits (tileEntries_apart request.frame) _ member covers, place]
  constructor <;> apply wordAt_of_leBytes <;> intro i small
  · rw [Nat.add_assoc, byte (8 + i) (by omega), entry]
    interval_cases i <;> rfl
  · rw [Nat.add_assoc, byte (12 + i) (by omega), entry]
    interval_cases i <;> rfl

/-- The first tile is as a record would give it. -/
theorem record_zero (frame : Frame) : recordFirst frame 0 = 0 ∧ recordLast frame 0 = tileEndWord frame := by
  simp [recordFirst, recordLast, tileEndWord]

theorem tile_eq {dec : Decoder size} {config : ProgramConfig} {request : Request} {program : HwProgram}
    (accepted : dec.hwProgram config request = .ok program) {number : ℕ} (inside : number < request.frame.tileCount) :
    program.tile number = .ofCorners (recordFirst request.frame number) (recordLast request.frame number) := by
  obtain ⟨cols, rows, record, values, store, rfl⟩ := Decoder.hwProgram_ok accepted
  cases number with
  | zero =>
    obtain ⟨start, stop⟩ := written_tiles config request record values (store.probCountImage request)
    obtain ⟨first, last⟩ := record_zero request.frame
    rw [HwProgram.tile, start, stop, first, last]
    rfl
  | succ number =>
    obtain ⟨first, last⟩ := wordAt_record store cols rows inside
    simp only [HwProgram.tile, first, last]

theorem Frame.Sized.superblocks {frame : Frame} (sized : frame.Sized) : frame.sbCols ≤ 1024 ∧ frame.sbRows ≤ 1024 := by
  obtain ⟨width, height⟩ := sized
  simp only [Frame.sbCols, Frame.sbRows, divRoundUp, Frame.width, Frame.height]
  omega

/-- The products of the offsets do not wrap. -/
theorem toNat_tileOffset {number sbs log2 : ℕ} (few : number ≤ 64) (small : sbs ≤ 1024) (count : log2 ≤ 6) :
    ((UInt32.ofNat number * UInt32.ofNat sbs) >>> UInt32.ofNat log2).toNat = Spec.Vp9.tileOffset number sbs log2 := by
  have product : number * sbs ≤ 64 * 1024 := Nat.mul_le_mul few small
  rw [← UInt32.ofNat_mul, toNat_ofNat_shiftRight (by omega) (by omega)]
  rfl

theorem Tile.ofCorners_halves {left top right bottom : UInt32} (leftSmall : left.toNat < 2 ^ 16)
    (topSmall : top.toNat < 2 ^ 16) (rightSmall : right.toNat < 2 ^ 16) (bottomSmall : bottom.toNat < 2 ^ 16) :
    Tile.ofCorners ((top <<< 16) ||| left) ((bottom <<< 16) ||| right) =
      ⟨left.toNat, top.toNat, right.toNat, bottom.toNat⟩ := by
  obtain ⟨first, second⟩ := wordField_halves leftSmall topSmall
  obtain ⟨third, fourth⟩ := wordField_halves rightSmall bottomSmall
  rw [Tile.ofCorners, first, second, third, fourth]

/-- The number of a tile by its row and its column. -/
theorem Frame.tile_lt {frame : Frame} {number : ℕ} (inside : number < frame.tileCount) :
    number % 2 ^ frame.tileColsLog2 < 2 ^ frame.tileColsLog2 ∧
      number / 2 ^ frame.tileColsLog2 < 2 ^ frame.tileRowsLog2 :=
  ⟨Nat.mod_lt _ (Nat.two_pow_pos _), Nat.div_lt_of_lt_mul inside⟩

/-- The corner of a tile in one direction, and the start of the next one. -/
theorem toNat_bounds {number sbs log2 : ℕ} (few : number < 64) (small : sbs ≤ 1024) (count : log2 ≤ 6)
    (fit : 2 ^ log2 ≤ sbs) (inside : number < 2 ^ log2) :
    ((UInt32.ofNat number * UInt32.ofNat sbs) >>> UInt32.ofNat log2).toNat =
        Spec.Vp9.tileOffset number sbs log2 ∧
      ((((UInt32.ofNat number + 1) * UInt32.ofNat sbs) >>> UInt32.ofNat log2) - 1).toNat + 1 =
        Spec.Vp9.tileOffset (number + 1) sbs log2 ∧
      Spec.Vp9.tileOffset number sbs log2 < Spec.Vp9.tileOffset (number + 1) sbs log2 ∧
      Spec.Vp9.tileOffset (number + 1) sbs log2 ≤ sbs := by
  have next : UInt32.ofNat number + 1 = UInt32.ofNat (number + 1) := (UInt32.ofNat_add number 1).symm
  have stop := toNat_tileOffset (show number + 1 ≤ 64 from few) small count
  have less : Spec.Vp9.tileOffset number sbs log2 < Spec.Vp9.tileOffset (number + 1) sbs log2 :=
    cut_lt_succ (Nat.two_pow_pos log2) fit number
  have last : Spec.Vp9.tileOffset (number + 1) sbs log2 ≤ sbs := by
    calc Spec.Vp9.tileOffset (number + 1) sbs log2 ≤ Spec.Vp9.tileOffset (2 ^ log2) sbs log2 :=
          cut_monotone sbs (2 ^ log2) (Nat.succ_le_of_lt inside)
      _ = sbs := cut_self sbs (Nat.two_pow_pos log2)
  refine ⟨toNat_tileOffset few.le small count, ?_, less, last⟩
  have positive : (1 : UInt32) ≤ (UInt32.ofNat (number + 1) * UInt32.ofNat sbs) >>> UInt32.ofNat log2 := by
    rw [UInt32.le_iff_toNat_le, stop]
    exact Nat.one_le_of_lt less
  rw [next, UInt32.toNat_sub_of_le _ _ positive, stop, UInt32.toNat_one]
  omega

/-- With superblocks for all, the words of a tile are those of the decoding process. -/
theorem ofCorners_record {frame : Frame} (cols : frame.tileColsLog2 ≤ 6) (rows : frame.tileRowsLog2 ≤ 2)
    (sized : frame.Sized) (fit : frame.TilesFit) {number : ℕ} (inside : number < frame.tileCount) :
    Tile.ofCorners (recordFirst frame number) (recordLast frame number) =
      frame.tileAt (number / 2 ^ frame.tileColsLog2) (number % 2 ^ frame.tileColsLog2) := by
  obtain ⟨colInside, rowInside⟩ := Frame.tile_lt inside
  obtain ⟨width, height⟩ := sized.superblocks
  have fewCols : 2 ^ frame.tileColsLog2 ≤ 2 ^ 6 := Nat.pow_le_pow_right Nat.two_pos cols
  have fewRows : 2 ^ frame.tileRowsLog2 ≤ 2 ^ 2 := Nat.pow_le_pow_right Nat.two_pos rows
  obtain ⟨left, right, across, wide⟩ := toNat_bounds (by omega) width cols fit.1 colInside
  obtain ⟨top, bottom, down, high⟩ := toNat_bounds (by omega) height (by omega) fit.2 rowInside
  have fields : Tile.ofCorners (recordFirst frame number) (recordLast frame number) = ⟨_, _, _, _⟩ :=
    Tile.ofCorners_halves (left.trans_lt (by omega)) (top.trans_lt (by omega)) (right.le.trans (by omega))
      (bottom.le.trans (by omega))
  rw [fields, Frame.tileAt, Tile.mk.injEq]
  exact ⟨left, top, Nat.eq_sub_of_add_eq right, Nat.eq_sub_of_add_eq bottom⟩

/-- The corners of a tile as cuts. -/
theorem Frame.tileAt_eq (frame : Frame) (row col : ℕ) :
    frame.tileAt row col =
      ⟨cut frame.sbCols (2 ^ frame.tileColsLog2) col, cut frame.sbRows (2 ^ frame.tileRowsLog2) row,
        cut frame.sbCols (2 ^ frame.tileColsLog2) (col + 1) - 1,
        cut frame.sbRows (2 ^ frame.tileRowsLog2) (row + 1) - 1⟩ := rfl

/-- What a tile of the decoding process covers. -/
theorem Frame.tileAt_has {frame : Frame} (fit : frame.TilesFit) (row col x y : ℕ) :
    (frame.tileAt row col).Has x y ↔
      (cut frame.sbCols (2 ^ frame.tileColsLog2) col ≤ x ∧ x < cut frame.sbCols (2 ^ frame.tileColsLog2) (col + 1)) ∧
        cut frame.sbRows (2 ^ frame.tileRowsLog2) row ≤ y ∧
          y < cut frame.sbRows (2 ^ frame.tileRowsLog2) (row + 1) := by
  have across := cut_lt_succ (Nat.two_pow_pos _) fit.1 col
  have down := cut_lt_succ (Nat.two_pow_pos _) fit.2 row
  simp only [Tile.Has, frame.tileAt_eq]
  omega

/-- No tile is empty, and none leaves the frame. -/
theorem Frame.tileAt_bounds {frame : Frame} (fit : frame.TilesFit) {row col : ℕ}
    (rowInside : row < 2 ^ frame.tileRowsLog2) (colInside : col < 2 ^ frame.tileColsLog2) :
    (frame.tileAt row col).left ≤ (frame.tileAt row col).right ∧ (frame.tileAt row col).right < frame.sbCols ∧
      (frame.tileAt row col).top ≤ (frame.tileAt row col).bottom ∧
        (frame.tileAt row col).bottom < frame.sbRows := by
  have across := cut_lt_succ (Nat.two_pow_pos _) fit.1 col
  have down := cut_lt_succ (Nat.two_pow_pos _) fit.2 row
  have wide := cut_monotone frame.sbCols (2 ^ frame.tileColsLog2) (Nat.succ_le_of_lt colInside)
  have high := cut_monotone frame.sbRows (2 ^ frame.tileRowsLog2) (Nat.succ_le_of_lt rowInside)
  rw [cut_self _ (Nat.two_pow_pos _)] at wide high
  rw [Nat.succ_eq_add_one] at wide high
  simp only [frame.tileAt_eq]
  omega

/-- Every superblock belongs to a tile. -/
theorem Frame.exists_tileAt {frame : Frame} (fit : frame.TilesFit) {x y : ℕ} (across : x < frame.sbCols)
    (down : y < frame.sbRows) :
    ∃ number < frame.tileCount,
      (frame.tileAt (number / 2 ^ frame.tileColsLog2) (number % 2 ^ frame.tileColsLog2)).Has x y := by
  rw [← cut_self frame.sbCols (Nat.two_pow_pos frame.tileColsLog2)] at across
  rw [← cut_self frame.sbRows (Nat.two_pow_pos frame.tileRowsLog2)] at down
  obtain ⟨col, colInside, inCol⟩ := exists_between (cut_zero _ _) across
  obtain ⟨row, rowInside, inRow⟩ := exists_between (cut_zero _ _) down
  have place : (2 ^ frame.tileColsLog2 * row + col) / 2 ^ frame.tileColsLog2 = row := by
    rw [Nat.mul_add_div (Nat.two_pow_pos _), Nat.div_eq_of_lt colInside, Nat.add_zero]
  have rest : (2 ^ frame.tileColsLog2 * row + col) % 2 ^ frame.tileColsLog2 = col := by
    rw [Nat.mul_add_mod, Nat.mod_eq_of_lt colInside]
  have count : 2 ^ frame.tileColsLog2 * row + col < frame.tileCount := by
    calc 2 ^ frame.tileColsLog2 * row + col < 2 ^ frame.tileColsLog2 * (row + 1) := by
          rw [Nat.mul_succ]
          omega
      _ ≤ frame.tileCount := Nat.mul_le_mul_left _ rowInside
  refine ⟨_, count, ?_⟩
  rw [place, rest]
  exact (Frame.tileAt_has fit row col x y).mpr ⟨inCol, inRow⟩

/-- A superblock belongs to one tile. -/
theorem Frame.tileAt_unique {frame : Frame} (fit : frame.TilesFit) {one other x y : ℕ}
    (first : (frame.tileAt (one / 2 ^ frame.tileColsLog2) (one % 2 ^ frame.tileColsLog2)).Has x y)
    (second : (frame.tileAt (other / 2 ^ frame.tileColsLog2) (other % 2 ^ frame.tileColsLog2)).Has x y) :
    one = other := by
  obtain ⟨inCol, inRow⟩ := (Frame.tileAt_has fit _ _ x y).mp first
  obtain ⟨inCol', inRow'⟩ := (Frame.tileAt_has fit _ _ x y).mp second
  have cols := between_unique (cut_monotone _ _) inCol inCol'
  have rows := between_unique (cut_monotone _ _) inRow inRow'
  rw [← Nat.div_add_mod one (2 ^ frame.tileColsLog2), rows, cols, Nat.div_add_mod]

/-- The tiles of the program are those of the decoding process, in row-major order. -/
theorem tiles_eq {dec : Decoder size} {config : ProgramConfig} {request : Request} {program : HwProgram}
    (sized : request.frame.Sized) (fit : request.frame.TilesFit)
    (accepted : dec.hwProgram config request = .ok program) :
    program.tiles request.frame.tileCount = request.frame.specTiles := by
  obtain ⟨cols, rows, -⟩ := Decoder.hwProgram_ok accepted
  calc program.tiles request.frame.tileCount
      = (List.range request.frame.tileCount).map fun number => request.frame.tileAt
          (number / 2 ^ request.frame.tileColsLog2) (number % 2 ^ request.frame.tileColsLog2) := by
        apply List.map_congr_left
        intro number inside
        rw [tile_eq accepted (List.mem_range.mp inside),
          ofCorners_record cols rows sized fit (List.mem_range.mp inside)]
    _ = request.frame.specTiles := map_range_mul request.frame.tileAt (Nat.two_pow_pos _) _

theorem tiles_partition (dec : Decoder size) (config : ProgramConfig) (request : Request) (program : HwProgram)
    (sized : request.frame.Sized) (fit : request.frame.TilesFit)
    (accepted : dec.hwProgram config request = .ok program) :
    program.tiles request.frame.tileCount = request.frame.specTiles ∧
      (∀ tile ∈ program.tiles request.frame.tileCount, tile.left ≤ tile.right ∧ tile.top ≤ tile.bottom) ∧
      ((program.tiles request.frame.tileCount).Pairwise fun one other => ∀ x y, ¬ (one.Has x y ∧ other.Has x y)) ∧
      (∀ x y, (∃ tile ∈ program.tiles request.frame.tileCount, tile.Has x y) ↔
        x < request.frame.sbCols ∧ y < request.frame.sbRows) ∧
      (∀ tile ∈ request.frame.specTiles, tile.left < 2 ^ 16 ∧ tile.top < 2 ^ 16 ∧ tile.right < 2 ^ 16 ∧
        tile.bottom < 2 ^ 16) ∧
      ∀ record ∈ request.frame.tileEntries, record.stop ≤ probsOffset := by
  obtain ⟨cols, rows, -⟩ := Decoder.hwProgram_ok accepted
  have same := tiles_eq sized fit accepted
  have tiles : request.frame.specTiles = (List.range request.frame.tileCount).map fun number => request.frame.tileAt
      (number / 2 ^ request.frame.tileColsLog2) (number % 2 ^ request.frame.tileColsLog2) :=
    (map_range_mul request.frame.tileAt (Nat.two_pow_pos _) _).symm
  have bounds : ∀ tile ∈ request.frame.specTiles, tile.left ≤ tile.right ∧ tile.right < request.frame.sbCols ∧
      tile.top ≤ tile.bottom ∧ tile.bottom < request.frame.sbRows := by
    intro tile member
    rw [tiles] at member
    obtain ⟨number, inside, rfl⟩ := List.mem_map.mp member
    obtain ⟨colInside, rowInside⟩ := Frame.tile_lt (List.mem_range.mp inside)
    exact Frame.tileAt_bounds fit rowInside colInside
  rw [same]
  refine ⟨rfl, ?nonempty, ?disjoint, ?cover, ?fields, tileEntry_stop request.frame cols rows⟩
  case nonempty =>
    intro tile member
    obtain ⟨across, -, down, -⟩ := bounds tile member
    exact ⟨across, down⟩
  case disjoint =>
    rw [tiles]
    refine List.pairwise_map.mpr (List.nodup_range.imp ?_)
    intro one other different x y both
    exact different (Frame.tileAt_unique fit both.1 both.2)
  case cover =>
    intro x y
    constructor
    · rintro ⟨tile, member, -, right, -, bottom⟩
      obtain ⟨-, wide, -, high⟩ := bounds tile member
      exact ⟨right.trans_lt wide, bottom.trans_lt high⟩
    · rintro ⟨across, down⟩
      obtain ⟨number, inside, has⟩ := Frame.exists_tileAt fit across down
      refine ⟨_, ?_, has⟩
      rw [tiles]
      exact List.mem_map_of_mem (List.mem_range.mpr inside)
  case fields =>
    intro tile member
    obtain ⟨width, height⟩ := sized.superblocks
    obtain ⟨across, wide, down, high⟩ := bounds tile member
    omega

/-- A key frame of the given size in superblocks, cut into tiles. -/
def tiledRequest (sbCols sbRows colsLog2 rowsLog2 : ℕ) : Request :=
  { demoRequest 0 with
    frame :=
      { (demoRequest 0).frame with
        keyFrame := true
        frameWidthMinus1 := sbCols * 64 - 1
        frameHeightMinus1 := sbRows * 64 - 1
        tileColsLog2 := colsLog2
        tileRowsLog2 := rowsLog2 } }

def tiledConfig : ProgramConfig := { demoConfig with codedWidth := 4096, codedHeight := 2304 }

/-- Thirty superblocks cut in four, seventeen in two. -/
theorem tiles_partition_uneven :
    ∃ program, demoDecoder.hwProgram tiledConfig (tiledRequest 30 17 2 1) = .ok program ∧
      program.tiles 8 = (tiledRequest 30 17 2 1).frame.specTiles :=
  ⟨_, rfl, (tiles_partition demoDecoder tiledConfig (tiledRequest 30 17 2 1) _ ⟨by decide, by decide⟩
    ⟨by decide, by decide⟩ rfl).1⟩

/-- The corners are superblocks of the frame. -/
def Tile.InRange (tile : Tile) (frame : Frame) : Prop :=
  tile.left < frame.sbCols ∧ tile.top < frame.sbRows ∧ tile.right < frame.sbCols ∧ tile.bottom < frame.sbRows

/-- The corners are the offsets of the decoding process; the last superblocks come one before the next tile, with
nothing taken from zero. -/
def Tile.Exact (tile : Tile) (frame : Frame) (row col : ℕ) : Prop :=
  tile.left = Spec.Vp9.tileOffset col frame.sbCols frame.tileColsLog2 ∧
    tile.top = Spec.Vp9.tileOffset row frame.sbRows frame.tileRowsLog2 ∧
    tile.right + 1 = Spec.Vp9.tileOffset (col + 1) frame.sbCols frame.tileColsLog2 ∧
    tile.bottom + 1 = Spec.Vp9.tileOffset (row + 1) frame.sbRows frame.tileRowsLog2

/-- A shift that leaves no superblock. -/
theorem superblocks_shift {pixels log2 : ℕ} (small : divRoundUp pixels 64 ≤ 1024) (count : log2 ≤ 6) :
    (superblocks pixels >>> UInt32.ofNat log2).toNat = divRoundUp pixels 64 / 2 ^ log2 :=
  toNat_ofNat_shiftRight (by omega) (by omega)

/-- One from zero fills the word. -/
theorem superblocks_wrap {pixels log2 : ℕ} (small : divRoundUp pixels 64 ≤ 1024) (count : log2 ≤ 6)
    (few : divRoundUp pixels 64 < 2 ^ log2) : (superblocks pixels >>> UInt32.ofNat log2) - 1 = 0xffffffff := by
  have none : superblocks pixels >>> UInt32.ofNat log2 = 0 := by
    apply UInt32.toNat.inj
    rw [superblocks_shift small count, Nat.div_eq_of_lt few]
    rfl
  rw [none]
  rfl

/-- With too few superblocks the first tile ends beyond the frame. -/
theorem ofCorners_zero_not_inRange {frame : Frame} (cols : frame.tileColsLog2 ≤ 6) (rows : frame.tileRowsLog2 ≤ 2)
    (sized : frame.Sized) (unfit : ¬ frame.TilesFit) :
    ¬ (Tile.ofCorners (recordFirst frame 0) (recordLast frame 0)).InRange frame := by
  obtain ⟨width, height⟩ := sized.superblocks
  rintro ⟨-, -, right, bottom⟩
  rw [(record_zero frame).2] at right bottom
  by_cases wide : 2 ^ frame.tileColsLog2 ≤ frame.sbCols
  · have few : frame.sbRows < 2 ^ frame.tileRowsLog2 := Nat.lt_of_not_le fun high => unfit ⟨wide, high⟩
    -- The lower half holds a column, the upper one the wrapped row.
    have low : ((superblocks frame.width >>> UInt32.ofNat frame.tileColsLog2) - 1).toNat < 2 ^ 16 := by
      have columns := superblocks_shift width cols
      have quotient : 1 ≤ frame.sbCols / 2 ^ frame.tileColsLog2 := Nat.div_pos wide (Nat.two_pow_pos _)
      have most : frame.sbCols / 2 ^ frame.tileColsLog2 ≤ frame.sbCols := Nat.div_le_self _ _
      have positive : (1 : UInt32) ≤ superblocks frame.width >>> UInt32.ofNat frame.tileColsLog2 := by
        rw [UInt32.le_iff_toNat_le, columns]
        exact quotient
      rw [UInt32.toNat_sub_of_le _ _ positive, columns]
      exact (Nat.sub_le _ _).trans_lt (most.trans_lt (by omega))
    have word : tileEndWord frame =
        ((0xffff : UInt32) <<< 16) ||| ((superblocks frame.width >>> UInt32.ofNat frame.tileColsLog2) - 1) := by
      rw [tileEndWord, superblocks_wrap height (rows.trans (by decide)) few]
      rfl
    have high : (0xffff : UInt32).toNat < 2 ^ 16 := by decide
    have field := (wordField_halves low high).2
    rw [← word] at field
    have row : wordField (tileEndWord frame) 16 16 < frame.sbRows := bottom
    rw [field] at row
    exact absurd row (by simp only [UInt32.reduceToNat]; omega)
  · have word : tileEndWord frame = 0xffffffff := by
      rw [tileEndWord, superblocks_wrap width cols (Nat.lt_of_not_le wide)]
      exact UInt32.or_neg_one
    have column : wordField (tileEndWord frame) 0 16 < frame.sbCols := right
    rw [word] at column
    exact absurd column (by rw [show wordField 0xffffffff 0 16 = 65535 from rfl]; omega)

/-- With superblocks for all, the corners are exact and in range. -/
theorem tile_exact {dec : Decoder size} {config : ProgramConfig} {request : Request} {program : HwProgram}
    (sized : request.frame.Sized) (fit : request.frame.TilesFit)
    (accepted : dec.hwProgram config request = .ok program) {number : ℕ} (inside : number < request.frame.tileCount) :
    (program.tile number).InRange request.frame ∧
      (program.tile number).Exact request.frame (number / 2 ^ request.frame.tileColsLog2)
        (number % 2 ^ request.frame.tileColsLog2) := by
  obtain ⟨cols, rows, -⟩ := Decoder.hwProgram_ok accepted
  obtain ⟨colInside, rowInside⟩ := Frame.tile_lt inside
  rw [tile_eq accepted inside, ofCorners_record cols rows sized fit inside]
  obtain ⟨across, wide, down, high⟩ := Frame.tileAt_bounds fit rowInside colInside
  refine ⟨⟨across.trans_lt wide, down.trans_lt high, wide, high⟩, rfl, rfl, ?_, ?_⟩
  · exact Nat.sub_add_cancel (Nat.one_le_of_lt (cut_lt_succ (Nat.two_pow_pos _) fit.1 _))
  · exact Nat.sub_add_cancel (Nat.one_le_of_lt (cut_lt_succ (Nat.two_pow_pos _) fit.2 _))

theorem tiles_inRange_iff (dec : Decoder size) (config : ProgramConfig) (request : Request) (program : HwProgram)
    (sized : request.frame.Sized) (accepted : dec.hwProgram config request = .ok program) :
    ((∀ number < request.frame.tileCount, (program.tile number).InRange request.frame) ↔ request.frame.TilesFit) ∧
      (request.frame.TilesFit → ∀ number < request.frame.tileCount, (program.tile number).Exact request.frame
        (number / 2 ^ request.frame.tileColsLog2) (number % 2 ^ request.frame.tileColsLog2)) := by
  obtain ⟨cols, rows, -⟩ := Decoder.hwProgram_ok accepted
  refine ⟨⟨?_, ?_⟩, ?_⟩
  · intro inRange
    by_contra unfit
    have positive : 0 < request.frame.tileCount := Nat.mul_pos (Nat.two_pow_pos _) (Nat.two_pow_pos _)
    have first := inRange 0 positive
    rw [tile_eq accepted positive] at first
    exact ofCorners_zero_not_inRange cols rows sized unfit first
  · exact fun fit number inside => (tile_exact sized fit accepted inside).1
  · exact fun fit number inside => (tile_exact sized fit accepted inside).2

theorem tiles_inRange_iff_fitting :
    ∃ program, demoDecoder.hwProgram tiledConfig (tiledRequest 30 17 2 1) = .ok program ∧
      ∀ number < 8, (program.tile number).InRange (tiledRequest 30 17 2 1).frame ∧
        (program.tile number).Exact (tiledRequest 30 17 2 1).frame (number / 4) (number % 4) := by
  have fit : (tiledRequest 30 17 2 1).frame.TilesFit := ⟨by decide, by decide⟩
  refine ⟨_, rfl, fun number inside => ?_⟩
  obtain ⟨inRange, exact⟩ := tiles_inRange_iff demoDecoder tiledConfig (tiledRequest 30 17 2 1) _
    ⟨by decide, by decide⟩ rfl
  exact ⟨inRange.mpr fit number inside, exact fit number inside⟩

/-- One superblock in two rows of tiles. -/
theorem tiles_not_inRange :
    ¬ ∀ (size : ℕ) (dec : Decoder size) (config : ProgramConfig) (request : Request) (program : HwProgram),
      request.frame.Sized → dec.hwProgram config request = .ok program →
      ∀ number < request.frame.tileCount, (program.tile number).InRange request.frame := by
  intro claim
  have accepted : ∃ program, demoDecoder.hwProgram demoConfig (tiledRequest 1 1 0 1) = .ok program := ⟨_, rfl⟩
  obtain ⟨program, accepted⟩ := accepted
  have first := claim 0 demoDecoder demoConfig (tiledRequest 1 1 0 1) program ⟨by decide, by decide⟩ accepted 0
    (by decide)
  rw [tile_eq accepted (by decide)] at first
  exact absurd first.2.2.2 (by decide)

end H618Vpu.Vp9
