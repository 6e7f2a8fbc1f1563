import H618Vpu.Math.Tiling
import H618Vpu.Model.DecH265
import H618Vpu.Soundness.Vp9Tiles

/-! # The tiles of an H.265 slice

The PPS cuts a picture into columns and rows of CTBs. The two searches find the tile of the first CTB of a slice, and
the walk over the entry points goes through the tiles behind it in raster order. Without tiles the arrays of the PPS
carry no sizes, and the searches take them for columns and rows of one CTB.
-/

namespace H618Vpu.DecH265

open Bits Machine Math Touching
open Vp9 (Tile Tile.ofCorners Tile.Has)

namespace Pps

def cols (pps : Pps) : ℕ := pps.numTileColumnsMinus1.toNat + 1

def rows (pps : Pps) : ℕ := pps.numTileRowsMinus1.toNat + 1

/-- The first CTB of a column, and of a row. -/
def colBound (pps : Pps) : ℕ → ℕ := boundOf fun i => (pps.columnWidthMinus1 i).toNat + 1

def rowBound (pps : Pps) : ℕ → ℕ := boundOf fun i => (pps.rowHeightMinus1 i).toNat + 1

/-- The column widths and the row heights sum to the size of the picture. -/
def Covers (pps : Pps) (width height : ℕ) : Prop := pps.colBound pps.cols = width ∧ pps.rowBound pps.rows = height
deriving Decidable

/-- A tile by its number in raster order. -/
def tile (pps : Pps) (number : ℕ) : Tile where
  left := pps.colBound (number % pps.cols)
  top := pps.rowBound (number / pps.cols)
  right := pps.colBound (number % pps.cols + 1) - 1
  bottom := pps.rowBound (number / pps.cols + 1) - 1

/-- The locals of the walk when it is at a tile. -/
def walk (pps : Pps) (number : ℕ) : Walk where
  x := pps.colBound (number % pps.cols)
  tx := number % pps.cols
  y := pps.rowBound (number / pps.cols)
  ty := number / pps.cols

end Pps

/-- `DIV_ROUND_UP` of the picture's height, as `width_in_ctb_luma` is of its width. -/
def Job.heightInCtb (job : Job) : ℕ := divRoundUp job.sps.picHeightInLumaSamples.toNat job.sps.ctbSizeLuma

/-- The slice begins in the picture. -/
def Job.InPicture (job : Job) : Prop :=
  job.sliceParams.sliceSegmentAddr.toNat < job.widthInCtb * job.heightInCtb
deriving Decidable

/-- The job has its entry points, and its destination a motion-vector buffer, when it comes to the tiles. -/
def Job.Begins (job : Job) (decoder : Decoder) : Prop :=
  (job.sliceParams.numEntryPointOffsets = 0 ∨ job.sliceParams.numEntryPointOffsets = job.entryPointOffsetsCount) ∧
    (decoder.mvColBuf.mvColBufSize ≠ 0 ∨ job.allocated = true)

/-- The tile in the registers. -/
def Tiles.first (tiles : Tiles) : Tile := .ofCorners tiles.startCtb tiles.endCtb

/-- The offset and the tile in the record of an entry point. -/
def Tiles.entryPoint (tiles : Tiles) (i : ℕ) : UInt32 × Tile :=
  (tiles.entryPointsBuf (i * 4), .ofCorners (tiles.entryPointsBuf (i * 4 + 2)) (tiles.entryPointsBuf (i * 4 + 3)))

section Seek

variable {array : ControlArray} {sizeMinus1 : ℕ → UInt8} {ctbAddr : ℕ} {bound : ℕ → ℕ}

theorem value_seek_from (sums : bound = boundOf fun i => (sizeMinus1 i).toNat + 1) {remaining k : ℕ}
    (reached : bound k ≤ ctbAddr) :
    (seek array sizeMinus1 ctbAddr remaining ⟨bound k, k⟩).value =
      ⟨bound (passed bound (k + remaining) ctbAddr), passed bound (k + remaining) ctbAddr⟩ := by
  have monotone : Monotone bound := sums ▸ boundOf_monotone _
  induction remaining generalizing k with
  | zero =>
    have here : passed bound (k + 0) ctbAddr = k :=
      passed_eq monotone le_rfl reached fun later => absurd later (Nat.lt_irrefl k)
    rw [here]
    rfl
  | succ remaining ih =>
    have next : bound k + (sizeMinus1 k).toNat + 1 = bound (k + 1) := by rw [sums, boundOf_succ, Nat.add_assoc]
    simp only [seek, read, value_bind, value_touch, next]
    split
    · rename_i beyond
      rw [passed_eq monotone (Nat.le_add_right k _) reached fun _ => beyond]
      rfl
    · rename_i within
      rw [value_bind, value_touch, next, ih (Nat.not_lt.mp within), Nat.add_assoc, Nat.add_comm 1]

/-- The search has passed the columns or rows that end before the CTB. -/
theorem value_seek (sums : bound = boundOf fun i => (sizeMinus1 i).toNat + 1) (count : ℕ) :
    (seek array sizeMinus1 ctbAddr count {}).value =
      ⟨bound (passed bound count ctbAddr), passed bound count ctbAddr⟩ := by
  have zero : bound 0 = 0 := sums ▸ boundOf_zero _
  have found : (seek array sizeMinus1 ctbAddr count ⟨bound 0, 0⟩).value = _ :=
    value_seek_from sums (zero.le.trans (Nat.zero_le ctbAddr))
  rwa [zero, Nat.zero_add] at found

end Seek

namespace Pps

variable (pps : Pps) {number : ℕ}

theorem cols_pos : 0 < pps.cols := Nat.succ_pos _

theorem colBound_succ (i : ℕ) : pps.colBound (i + 1) = pps.colBound i + ((pps.columnWidthMinus1 i).toNat + 1) :=
  boundOf_succ ..

theorem rowBound_succ (i : ℕ) : pps.rowBound (i + 1) = pps.rowBound i + ((pps.rowHeightMinus1 i).toNat + 1) :=
  boundOf_succ ..

/-- A tile has the CTBs between its bounds. -/
theorem tile_has {x y : ℕ} : (pps.tile number).Has x y ↔
    (pps.colBound (number % pps.cols) ≤ x ∧ x < pps.colBound (number % pps.cols + 1)) ∧
      pps.rowBound (number / pps.cols) ≤ y ∧ y < pps.rowBound (number / pps.cols + 1) := by
  simp only [Tile.Has, tile, colBound_succ, rowBound_succ]
  omega

/-- Every CTB of the picture is in a tile. -/
theorem exists_tile {width height x y : ℕ} (covers : pps.Covers width height) (left : x < width) (above : y < height) :
    ∃ number < pps.cols * pps.rows, (pps.tile number).Has x y := by
  obtain ⟨rfl, rfl⟩ := covers
  obtain ⟨col, colSmall, colHas⟩ := exists_between (boundOf_zero _) left
  obtain ⟨row, rowSmall, rowHas⟩ := exists_between (boundOf_zero _) above
  have colOf : (pps.cols * row + col) % pps.cols = col := by rw [Nat.mul_add_mod, Nat.mod_eq_of_lt colSmall]
  have rowOf : (pps.cols * row + col) / pps.cols = row := by
    rw [Nat.mul_add_div pps.cols_pos, Nat.div_eq_of_lt colSmall, Nat.add_zero]
  refine ⟨pps.cols * row + col, ?_, ?_⟩
  · calc pps.cols * row + col < pps.cols * (row + 1) := by rw [Nat.mul_succ]; exact Nat.add_lt_add_left colSmall _
      _ ≤ pps.cols * pps.rows := Nat.mul_le_mul_left _ rowSmall
  · rw [tile_has, colOf, rowOf]
    exact ⟨colHas, rowHas⟩

/-- The searches find the tile of a CTB. -/
theorem value_find {x y : ℕ} (inside : number < pps.cols * pps.rows) (has : (pps.tile number).Has x y) :
    (pps.find x y).value = pps.walk number := by
  obtain ⟨⟨colReached, colStopped⟩, rowReached, rowStopped⟩ := pps.tile_has.mp has
  have col : passed pps.colBound pps.cols x = number % pps.cols :=
    passed_eq (boundOf_monotone _) (Nat.mod_lt _ pps.cols_pos).le colReached fun _ => colStopped
  have row : passed pps.rowBound pps.rows y = number / pps.cols :=
    passed_eq (boundOf_monotone _) (Nat.div_lt_of_lt_mul inside).le rowReached fun _ => rowStopped
  simp only [find, value_bind, value_pure, value_seek (rfl : pps.colBound = _), value_seek (rfl : pps.rowBound = _)]
  rw [← cols, ← rows, col, row]
  rfl

/-- From a tile the walk goes to the next in raster order. -/
theorem value_advance (number : ℕ) : (pps.advance (pps.walk number)).value = pps.walk (number + 1) := by
  by_cases last : number % pps.cols + 1 = pps.cols
  · obtain ⟨col, row⟩ := succ_of_last last
    have wraps : (pps.walk number).tx + 1 ≥ pps.numTileColumnsMinus1.toNat + 1 := last.ge
    rw [advance, if_pos wraps]
    simp only [read, value_bind, value_touch, value_pure, walk, col, row, rowBound_succ, Nat.add_assoc]
    rw [colBound, boundOf_zero]
  · have inner : number % pps.cols + 1 < pps.cols := lt_of_le_of_ne (Nat.mod_lt number pps.cols_pos) last
    obtain ⟨col, row⟩ := succ_of_inner inner
    have stays : ¬(pps.walk number).tx + 1 ≥ pps.numTileColumnsMinus1.toNat + 1 := Nat.not_le.mpr inner
    rw [advance, if_neg stays]
    simp only [read, value_bind, value_touch, value_pure, walk, col, row, colBound_succ, Nat.add_assoc]

/-- The last CTB of the tile the walk is at. -/
theorem value_endCtb (number : ℕ) :
    (pps.endCtb (pps.walk number)).value = ctbWord (pps.tile number).bottom (pps.tile number).right := by
  simp only [endCtb, read, value_bind, value_touch, value_pure, walk, tile, colBound_succ, rowBound_succ]
  rfl

/-- The bounds of a tile of the picture do not leave it. -/
theorem tile_within {width height : ℕ} (covers : pps.Covers width height) (inside : number < pps.cols * pps.rows) :
    (pps.tile number).left < width ∧ (pps.tile number).right < width ∧
      (pps.tile number).top < height ∧ (pps.tile number).bottom < height := by
  obtain ⟨rfl, rfl⟩ := covers
  have col : pps.colBound (number % pps.cols + 1) ≤ pps.colBound pps.cols :=
    boundOf_monotone _ (Nat.mod_lt number pps.cols_pos)
  have row : pps.rowBound (number / pps.cols + 1) ≤ pps.rowBound pps.rows :=
    boundOf_monotone _ (Nat.div_lt_of_lt_mul inside)
  rw [colBound_succ] at col
  rw [rowBound_succ] at row
  simp only [tile, colBound_succ, rowBound_succ]
  omega

end Pps

/-- Corners of 16 bits are read as they were written. -/
theorem ofCorners_ctbWord {left top right bottom : ℕ} (leftSmall : left < 2 ^ 16) (topSmall : top < 2 ^ 16)
    (rightSmall : right < 2 ^ 16) (bottomSmall : bottom < 2 ^ 16) :
    Tile.ofCorners (ctbWord top left) (ctbWord bottom right) = ⟨left, top, right, bottom⟩ := by
  have small {n : ℕ} (fits : n < 2 ^ 16) : (UInt32.ofNat n).toNat = n :=
    UInt32.toNat_ofNat_of_lt' (fits.trans (by decide))
  have first := wordField_halves (small leftSmall ▸ leftSmall) (small topSmall ▸ topSmall)
  have last := wordField_halves (small rightSmall ▸ rightSmall) (small bottomSmall ▸ bottomSmall)
  rw [small leftSmall, small topSmall] at first
  rw [small rightSmall, small bottomSmall] at last
  simp only [Tile.ofCorners, ctbWord, first, last]

/-- A picture has fewer CTBs across, and down, than a half word counts. -/
theorem divRoundUp_lt {size : UInt16} {d : ℕ} (some : 0 < divRoundUp size.toNat d) :
    divRoundUp size.toNat d < 2 ^ 16 := by
  have small := size.toNat_lt
  have positive : 0 < d := Nat.pos_of_ne_zero fun zero => by simp [divRoundUp, zero] at some
  rw [divRoundUp, Nat.div_lt_iff_lt_mul positive]
  have grow : 2 ^ 16 - 1 + d ≤ 2 ^ 16 * d := by
    have := Nat.mul_le_mul_left (2 ^ 16 - 1) positive
    omega
  omega

/-- A store to one word of the buffer leaves the others. -/
theorem value_store (buf : ℕ → UInt32) (index : ℕ) (value : UInt32) (other : ℕ) :
    (store buf index value).value other = if other = index then value else buf other :=
  Function.update_apply ..

namespace Job

variable (job : Job) {decoder : Decoder} {number count : ℕ}

/-- The record of an entry point with its tile. -/
def Recorded (number i : ℕ) (buf : ℕ → UInt32) : Prop :=
  buf (i * 4) = job.entryPointOffsets i ∧
    buf (i * 4 + 2) = ctbWord (job.pps.tile number).top (job.pps.tile number).left ∧
    buf (i * 4 + 3) = ctbWord (job.pps.tile number).bottom (job.pps.tile number).right

/-- A round goes to the next tile and records it behind the records there are. -/
theorem recordWrite_step {i : ℕ} {buf : ℕ → UInt32} (before : ∀ j < i, job.Recorded (number + j + 1) j buf) :
    (job.recordWrite i (job.pps.walk (number + i), buf)).value.1 = job.pps.walk (number + (i + 1)) ∧
      ∀ j < i + 1, job.Recorded (number + j + 1) j (job.recordWrite i (job.pps.walk (number + i), buf)).value.2 := by
  simp only [recordWrite, read, value_bind, value_touch, value_pure, Pps.value_advance, Pps.value_endCtb, Recorded,
    value_store]
  refine ⟨rfl, fun j below => ?_⟩
  rcases Nat.lt_succ_iff_lt_or_eq.mp below with earlier | rfl
  · obtain ⟨offset, first, last⟩ := before j earlier
    refine ⟨?_, ?_, ?_⟩
    · rw [if_neg (by omega), if_neg (by omega), if_neg (by omega), if_neg (by omega), offset]
    · rw [if_neg (by omega), if_neg (by omega), if_neg (by omega), if_neg (by omega), first]
    · rw [if_neg (by omega), if_neg (by omega), if_neg (by omega), if_neg (by omega), last]
  · refine ⟨?_, ?_, ?_⟩
    · rw [if_neg (by omega), if_neg (by omega), if_neg (by omega), if_pos (by omega)]
    · rw [if_neg (by omega), if_pos rfl]
      rfl
    · rw [if_pos rfl]

/-- The entry points are recorded with the tiles behind the first. -/
theorem recorded_loop (buf : ℕ → UInt32) (number count : ℕ) :
    ∀ i < count, job.Recorded (number + i + 1) i (loop job.recordWrite (job.pps.walk number, buf) count).value.2 := by
  have invariant := loop_invariant job.recordWrite (job.pps.walk number, buf) count
    (fun i state => state.1 = job.pps.walk (number + i) ∧ ∀ j < i, job.Recorded (number + j + 1) j state.2)
    ⟨rfl, fun _ none => absurd none (Nat.not_lt_zero _)⟩
    (fun i _ state ⟨here, before⟩ => by
      obtain ⟨walk, buf⟩ := state
      obtain rfl : walk = _ := here
      exact job.recordWrite_step before)
  exact invariant.2

@[simp] theorem listWrite_tiles (l : ListX) (weighted : Bool) (decoder : Decoder) :
    (job.listWrite l weighted decoder).value.tiles = decoder.tiles := by
  cases weighted <;> rfl

@[simp] theorem sliceWrite_tiles (decoder : Decoder) : (job.sliceWrite decoder).value.tiles = decoder.tiles := by
  simp only [sliceWrite, value_bind, list0Write, list1Write]
  split_ifs <;> simp only [listWrite_tiles, value_pure]

/-- Past its first two checks, a job leaves the tiles as it has programmed them. -/
theorem configure_tiles (begins : job.Begins decoder) :
    (job.configure decoder).value.1.tiles = (job.tiles decoder.tiles.entryPointsBuf).value := by
  have counted : ¬(job.sliceParams.numEntryPointOffsets ≠ 0 ∧
      job.sliceParams.numEntryPointOffsets ≠ job.entryPointOffsetsCount) := by
    rintro ⟨present, different⟩
    exact begins.1.elim present different
  have attached : (decoder.mvColBuf.attach (MvCol.h265MvColSize job.size job.sps.toH265Sps) job.allocated).2 = 0 := by
    rw [MvCol.Buffer.attach]
    split_ifs with there allocated
    · rfl
    · rfl
    · exact absurd begins.2 (not_or.mpr ⟨not_not.mpr (not_not.mp there), allocated⟩)
  rw [configure]
  simp only [if_neg counted, attached, ne_eq, not_true_eq_false, if_false, value_bind]
  split_ifs <;> simp only [value_bind, value_pure, sliceWrite_tiles]

end Job

variable (job : Job) (decoder : Decoder)

/-- The first CTB of a slice of the picture is in the picture. -/
theorem Job.InPicture.first {job : Job} (inside : job.InPicture) :
    job.ctbAddrX < job.widthInCtb ∧ job.ctbAddrY < job.heightInCtb := by
  rw [Job.InPicture] at inside
  have wide : 0 < job.widthInCtb := Nat.pos_of_ne_zero fun zero => by simp [zero] at inside
  exact ⟨Nat.mod_lt _ wide, Nat.div_lt_of_lt_mul inside⟩

/-- With tiles, the registers have the tile of the first CTB of the slice, and each entry point its offset and the next
tile in raster order. -/
theorem tiles_of_slice (begins : job.Begins decoder) (tiled : job.pps.tilesEnabled = true)
    (unsynced : job.pps.entropyCodingSyncEnabled = false) (covers : job.pps.Covers job.widthInCtb job.heightInCtb)
    (inside : job.InPicture) :
    (∃ number < job.pps.cols * job.pps.rows, (job.pps.tile number).Has job.ctbAddrX job.ctbAddrY) ∧
      ∀ number < job.pps.cols * job.pps.rows, (job.pps.tile number).Has job.ctbAddrX job.ctbAddrY →
        (job.configure decoder).value.1.tiles.first = job.pps.tile number ∧
          (number + 1 + job.sliceParams.numEntryPointOffsets.toNat ≤ job.pps.cols * job.pps.rows →
            ∀ i < job.sliceParams.numEntryPointOffsets.toNat,
              (job.configure decoder).value.1.tiles.entryPoint i =
                (job.entryPointOffsets i, job.pps.tile (number + i + 1))) := by
  obtain ⟨left, above⟩ := inside.first
  have wide : job.widthInCtb < 2 ^ 16 := divRoundUp_lt ((Nat.zero_le _).trans_lt left)
  have high : job.heightInCtb < 2 ^ 16 := divRoundUp_lt ((Nat.zero_le _).trans_lt above)
  have corners {number : ℕ} (there : number < job.pps.cols * job.pps.rows) :
      Tile.ofCorners (ctbWord (job.pps.tile number).top (job.pps.tile number).left)
        (ctbWord (job.pps.tile number).bottom (job.pps.tile number).right) = job.pps.tile number := by
    obtain ⟨one, two, three, four⟩ := job.pps.tile_within covers there
    exact ofCorners_ctbWord (one.trans wide) (three.trans high) (two.trans wide) (four.trans high)
  refine ⟨job.pps.exists_tile covers left above, fun number there has => ?_⟩
  have found := job.pps.value_find there has
  rw [job.configure_tiles begins, Job.tiles, if_pos (.inl tiled), Job.tilesWrite]
  simp only [value_bind, found, Pps.value_endCtb, unsynced, Bool.false_eq_true, if_false, value_pure]
  refine ⟨corners there, fun few i below => ?_⟩
  obtain ⟨offset, first, last⟩ := job.recorded_loop decoder.tiles.entryPointsBuf number _ i below
  simp only [Tiles.entryPoint, offset, first, last]
  rw [corners (by omega)]

/-- A PPS with tile columns and rows of the given sizes, less one. -/
def smallPps (tilesEnabled entropyCodingSyncEnabled : Bool) (columnWidthMinus1 rowHeightMinus1 : List UInt8) : Pps where
  tilesEnabled
  entropyCodingSyncEnabled
  weightedPred := false
  weightedBipred := false
  numTileColumnsMinus1 := .ofNat (columnWidthMinus1.length - 1)
  numTileRowsMinus1 := .ofNat (rowHeightMinus1.length - 1)
  columnWidthMinus1 i := columnWidthMinus1.getD i 0
  rowHeightMinus1 i := rowHeightMinus1.getD i 0

/-- A reference list that names the given entries of the DPB. -/
def smallList (refIdx : List UInt8) : RefList where
  refIdx i := refIdx.getD i 0
  numRefIdxActiveMinus1 := .ofNat (refIdx.length - 1)
  deltaLumaWeight _ := 0
  lumaOffset _ := 0
  deltaChromaWeight _ _ := 0
  chromaOffset _ _ := 0

/-- A slice of a picture of three by two CTBs, with its entry points. -/
def smallJob (pps : Pps) (sliceSegmentAddr : UInt32) (sliceType : UInt8) (refIdx : List UInt8)
    (entryPointOffsets : List UInt32) : Job where
  sps := ⟨⟨0, 3⟩, 192, 128⟩
  pps
  sliceParams :=
    { sliceSegmentAddr
      numEntryPointOffsets := .ofNat entryPointOffsets.length
      dataByteOffset := 8
      sliceType
      picStruct := 0
      slicePicOrderCnt := 0
      list _ := smallList refIdx }
  decodeParams := ⟨0, 1, fun _ => {}⟩
  entryPointOffsets i := entryPointOffsets.getD i 0
  entryPointOffsetsCount := .ofNat entryPointOffsets.length
  destination := 0
  pictureFind _ := none
  size := ⟨192, 128, by decide, by decide, by decide, by decide⟩
  padding := 0x80
  allocated := true

def freshDecoder : Decoder where
  mvColBuf := {}
  tiles := ⟨0, 0, fun _ => 0⟩
  sliceNotLowDelay := false
  frameInfos _ := none
  refPicList _ := []
  predWeights _ := ⟨[], []⟩

/-- Two columns of two and one CTBs and two rows of one, and a slice in the upper right tile. -/
def fourTiles : Job := smallJob (smallPps true false [1, 0] [0, 0]) 2 sliceTypeI [] [100, 200]

theorem tiles_of_slice_four :
    (fourTiles.configure freshDecoder).value.1.tiles.first = ⟨2, 0, 2, 0⟩ ∧
      (fourTiles.configure freshDecoder).value.1.tiles.entryPoint 0 = (100, ⟨0, 1, 1, 1⟩) ∧
        (fourTiles.configure freshDecoder).value.1.tiles.entryPoint 1 = (200, ⟨2, 1, 2, 1⟩) := by
  obtain ⟨-, found⟩ := tiles_of_slice fourTiles freshDecoder ⟨.inr rfl, .inr rfl⟩ rfl rfl
    (by decide) (by decide)
  obtain ⟨first, records⟩ := found 1 (by decide) ⟨by decide, by decide, by decide, by decide⟩
  exact ⟨first, records (by decide) 0 (by decide), records (by decide) 1 (by decide)⟩

/-- A PPS without tiles. The V4L2 core clears its tile counts and sizes. -/
structure Pps.Cleared (pps : Pps) : Prop where
  untiled : pps.tilesEnabled = false
  cols : pps.numTileColumnsMinus1 = 0
  rows : pps.numTileRowsMinus1 = 0
  columnWidthMinus1 : ∀ i < 20, pps.columnWidthMinus1 i = 0
  rowHeightMinus1 : ∀ i < 22, pps.rowHeightMinus1 i = 0

/-- A search in an array without sizes goes on to a second column or row, unless the CTB is in the first. -/
theorem value_seek_zero {array : ControlArray} {sizeMinus1 : ℕ → UInt8} (zero : sizeMinus1 0 = 0) (ctbAddr : ℕ) :
    (seek array sizeMinus1 ctbAddr 1 {}).value = ⟨min ctbAddr 1, min ctbAddr 1⟩ := by
  have one : boundOf (fun i => (sizeMinus1 i).toNat + 1) 1 = 1 := by
    rw [boundOf_succ, boundOf_zero, zero]
    rfl
  rw [value_seek rfl]
  by_cases first : ctbAddr < 1
  · rw [passed_eq (boundOf_monotone _) (Nat.zero_le 1) (Nat.zero_le _) fun _ => first.trans_eq one.symm, boundOf_zero,
      Nat.lt_one_iff.mp first]
    rfl
  · have later := Nat.not_lt.mp first
    rw [passed_eq (boundOf_monotone _) le_rfl (one.le.trans later) fun beyond => absurd beyond (Nat.lt_irrefl 1), one,
      min_eq_right later]

namespace Pps.Cleared

variable {pps : Pps}

theorem value_find (cleared : pps.Cleared) (x y : ℕ) : (pps.find x y).value = ⟨min x 1, min x 1, min y 1, min y 1⟩ := by
  simp only [find, cleared.cols, cleared.rows, value_bind, value_pure]
  rw [UInt8.toNat_zero, Nat.zero_add, value_seek_zero (cleared.columnWidthMinus1 0 (by decide)),
    value_seek_zero (cleared.rowHeightMinus1 0 (by decide))]

/-- The end of the tile is its start. -/
theorem value_endCtb (cleared : pps.Cleared) (x y : ℕ) :
    (pps.endCtb ⟨min x 1, min x 1, min y 1, min y 1⟩).value = ctbWord (min y 1) (min x 1) := by
  have width : pps.columnWidthMinus1 (min x 1) = 0 :=
    cleared.columnWidthMinus1 _ ((min_le_right x 1).trans_lt (by decide))
  have height : pps.rowHeightMinus1 (min y 1) = 0 := cleared.rowHeightMinus1 _ ((min_le_right y 1).trans_lt (by decide))
  simp only [endCtb, read, value_bind, value_touch, value_pure, width, height]
  rfl

end Pps.Cleared

/-- Without tiles, the registers have one CTB, in the first two columns and rows. -/
theorem first_of_cleared (begins : job.Begins decoder) (synced : job.pps.entropyCodingSyncEnabled = true)
    (cleared : job.pps.Cleared) :
    (job.configure decoder).value.1.tiles.first =
      ⟨min job.ctbAddrX 1, min job.ctbAddrY 1, min job.ctbAddrX 1, min job.ctbAddrY 1⟩ := by
  have small (n : ℕ) : min n 1 < 2 ^ 16 := (min_le_right n 1).trans_lt (by decide)
  rw [job.configure_tiles begins, Job.tiles, if_pos (.inr synced), Job.tilesWrite]
  simp only [value_bind, cleared.value_find, cleared.value_endCtb, synced, if_true, value_pure, Tiles.first]
  exact ofCorners_ctbWord (small _) (small _) (small _) (small _)

/-- With wavefronts and without tiles, the registers have the one tile of the picture only if that has one CTB. -/
theorem wavefront_tile_iff (begins : job.Begins decoder) (synced : job.pps.entropyCodingSyncEnabled = true)
    (cleared : job.pps.Cleared) (inside : job.InPicture) :
    (job.configure decoder).value.1.tiles.first = ⟨0, 0, job.widthInCtb - 1, job.heightInCtb - 1⟩ ↔
      job.widthInCtb = 1 ∧ job.heightInCtb = 1 := by
  obtain ⟨left, above⟩ := inside.first
  rw [first_of_cleared job decoder begins synced cleared, Tile.mk.injEq]
  omega

/-- A slice in the last CTB of three by two. -/
def lastWavefront : Job := smallJob (smallPps false true [0] [0]) 5 sliceTypeI [] []

def oneCtb : Job :=
  { lastWavefront with
    sps := ⟨⟨0, 3⟩, 64, 64⟩
    sliceParams := { lastWavefront.sliceParams with sliceSegmentAddr := 0 } }

theorem smallPps_cleared : (smallPps false true [0] [0]).Cleared where
  untiled := rfl
  cols := rfl
  rows := rfl
  columnWidthMinus1 := by decide
  rowHeightMinus1 := by decide

theorem wavefront_tile_one : (oneCtb.configure freshDecoder).value.1.tiles.first = ⟨0, 0, 0, 0⟩ :=
  (wavefront_tile_iff oneCtb freshDecoder ⟨.inl rfl, .inr rfl⟩ rfl smallPps_cleared
    (by decide)).mpr ⟨by decide, by decide⟩

/-- The slice in the last CTB gets the second CTB of the second row for its tile. -/
theorem wavefront_tile_wrong :
    ¬ ∀ (job : Job) (decoder : Decoder), job.Begins decoder → job.pps.entropyCodingSyncEnabled = true →
      job.pps.Cleared → job.InPicture →
        (job.configure decoder).value.1.tiles.first = ⟨0, 0, job.widthInCtb - 1, job.heightInCtb - 1⟩ := by
  intro always
  have first := always lastWavefront freshDecoder ⟨.inl rfl, .inr rfl⟩ rfl smallPps_cleared (by decide)
  exact absurd first (by decide)

end H618Vpu.DecH265
