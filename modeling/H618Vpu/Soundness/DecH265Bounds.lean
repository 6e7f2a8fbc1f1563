import H618Vpu.Soundness.DecH264Bounds
import H618Vpu.Soundness.DecH264Slots
import H618Vpu.Soundness.DecH265Tiles

/-! # Accesses of an H.265 job

The number of tile columns and rows, of active entries of the DPB and of entry points is bounded; where the slice
begins, how many references it has and which they are is not. The searches and the walk leave the arrays of the PPS when
the slice begins behind its tiles or has more entry points than tiles follow, and the lists are followed wherever they
lead.
-/

namespace H618Vpu.DecH265

open Machine Math Touching

/-- The element is one of its array. -/
def Cell.Inside (entryPointOffsetsCount : ℕ) (cell : Cell) : Prop :=
  cell.index < cell.array.length entryPointOffsetsCount
deriving Decidable

section Tiles

variable {allowed : Cell → Prop} {count : ℕ}

/-- A search stays among the columns or rows it goes through. -/
theorem within_seek {array : ControlArray} (sizeMinus1 : ℕ → UInt8) (ctbAddr : ℕ) {remaining : ℕ} {here : Seek}
    (inside : ∀ i < here.tile + remaining, allowed ⟨array, i⟩) :
    Within allowed (seek array sizeMinus1 ctbAddr remaining here) := by
  induction remaining generalizing here with
  | zero => exact within_pure _
  | succ remaining ih =>
    have first : allowed ⟨array, here.tile⟩ := inside here.tile (Nat.lt_add_of_pos_right (Nat.succ_pos _))
    simp only [seek, read, within_touch_bind]
    refine ⟨first, ?_⟩
    split
    · exact within_pure _
    · rw [within_touch_bind]
      refine ⟨first, ih fun i below => inside i ?_⟩
      rw [Nat.add_assoc, Nat.add_comm 1] at below
      exact below

variable (pps : Pps)

theorem inside_find (cols : pps.cols ≤ 20) (rows : pps.rows ≤ 22) (x y : ℕ) :
    Within (Cell.Inside count) (pps.find x y) := by
  simp only [Pps.find, within_bind, within_pure, and_true]
  refine ⟨within_seek _ _ fun i below => ?_, within_seek _ _ fun i below => ?_⟩
  · exact (below.trans_eq (Nat.zero_add _)).trans_le cols
  · exact (below.trans_eq (Nat.zero_add _)).trans_le rows

theorem inside_endCtb (walk : Walk) : Within (Cell.Inside count) (pps.endCtb walk) ↔ walk.tx < 20 ∧ walk.ty < 22 := by
  simp only [Pps.endCtb, read, within_touch_bind, within_pure, and_true]
  exact and_comm

theorem inside_advance {walk : Walk} (col : walk.tx < 20) (row : walk.ty < 22) :
    Within (Cell.Inside count) (pps.advance walk) := by
  rw [Pps.advance]
  split
  · rw [read, within_touch_bind]
    exact ⟨row, within_pure _⟩
  · rw [read, within_touch_bind]
    exact ⟨col, within_pure _⟩

/-- A tile by its place behind a row of tiles. A search that passed all columns is in the last one. -/
def Pps.At (walk : Walk) (row place : ℕ) : Prop :=
  min walk.tx (pps.cols - 1) = place % pps.cols ∧ walk.ty = row + place / pps.cols

/-- The walk goes on by one place, and is within the columns from then on. -/
theorem Pps.At.advance {walk : Walk} {row place : ℕ} (here : pps.At walk row place) :
    pps.At (pps.advance walk).value row (place + 1) ∧ (pps.advance walk).value.tx < pps.cols := by
  obtain ⟨col, down⟩ := here
  have positive := pps.cols_pos
  by_cases last : place % pps.cols + 1 = pps.cols
  · obtain ⟨nextCol, nextRow⟩ := succ_of_last last
    have wraps : walk.tx + 1 ≥ pps.numTileColumnsMinus1.toNat + 1 := by
      rw [← Pps.cols]
      omega
    rw [Pps.advance, if_pos wraps]
    exact ⟨⟨by rw [nextCol]; exact Nat.zero_min _, by rw [nextRow, ← Nat.add_assoc, ← down]; rfl⟩, positive⟩
  · have inner : place % pps.cols + 1 < pps.cols := lt_of_le_of_ne (Nat.mod_lt place positive) last
    obtain ⟨nextCol, nextRow⟩ := succ_of_inner inner
    have stays : ¬walk.tx + 1 ≥ pps.numTileColumnsMinus1.toNat + 1 := by
      rw [← Pps.cols]
      omega
    have same : walk.tx = place % pps.cols := by omega
    rw [Pps.advance, if_neg stays]
    refine ⟨⟨?_, by rw [nextRow]; exact down⟩, ?_⟩
    · change min (walk.tx + 1) (pps.cols - 1) = _
      rw [nextCol, same]
      omega
    · change walk.tx + 1 < pps.cols
      rw [same]
      exact inner

end Tiles

namespace Job

variable (job : Job) {count : ℕ}

/-- The tile column and row that the searches come to; the count when they pass all. -/
def firstCol : ℕ := passed job.pps.colBound job.pps.cols job.ctbAddrX

def firstRow : ℕ := passed job.pps.rowBound job.pps.rows job.ctbAddrY

/-- The searches end within the arrays of the PPS, and so does the walk over the entry points. -/
def TilesInside : Prop :=
  job.firstCol < 20 ∧ job.firstRow < 22 ∧
    (job.pps.entropyCodingSyncEnabled = true ∨ job.sliceParams.numEntryPointOffsets.toNat = 0 ∨
      job.firstRow +
        (min job.firstCol (job.pps.cols - 1) + job.sliceParams.numEntryPointOffsets.toNat) / job.pps.cols < 22)
deriving Decidable

/-- The V4L2 core lets no more entry points through, and the driver takes all or none. -/
structure FewEntryPoints (count : ℕ) : Prop where
  core : count ≤ 256
  driver : job.sliceParams.numEntryPointOffsets.toNat ≤ count

variable {job}

theorem inside_syncWrite {i : ℕ} (few : count ≤ 256) (below : i < count) (buf : ℕ → UInt32) :
    Within (Cell.Inside count) (job.syncWrite i buf) := by
  rw [syncWrite, read, within_touch_bind, store, within_touch]
  exact ⟨below, lt_of_lt_of_le below (few.trans (by decide : 256 ≤ 1024))⟩

/-- The record of an entry point is within the buffer; the end of its tile is read from the arrays of the PPS. -/
theorem inside_recordWrite {i : ℕ} (few : count ≤ 256) (below : i < count) (walk : Walk) (buf : ℕ → UInt32) :
    Within (Cell.Inside count) (job.recordWrite i (walk, buf)) ↔
      Within (Cell.Inside count) (job.pps.advance walk) ∧
        (job.pps.advance walk).value.tx < 20 ∧ (job.pps.advance walk).value.ty < 22 := by
  have entry : Cell.Inside count ⟨.entryPoints, i⟩ := below
  have word {k : ℕ} (small : k < 4) : Cell.Inside count ⟨.entryPointsBuf, i * 4 + k⟩ := by
    change i * 4 + k < 1024
    omega
  simp only [recordWrite, within_bind, read, store, within_touch, inside_endCtb, within_pure, entry,
    word (by decide : 0 < 4), word (by decide : 1 < 4), word (by decide : 2 < 4), word (by decide : 3 < 4), true_and,
    and_true]

/-- The walk stays within the arrays as long as its last tile does. -/
theorem inside_records (few : job.FewEntryPoints count) (cols : job.pps.cols ≤ 20) {walk : Walk} (buf : ℕ → UInt32)
    (col : walk.tx < 20) (n : ℕ) (fewer : n ≤ count) :
    Within (Cell.Inside count) (loop job.recordWrite (walk, buf) n) ↔
      n = 0 ∨ walk.ty + (min walk.tx (job.pps.cols - 1) + n) / job.pps.cols < 22 := by
  have inRow : min walk.tx (job.pps.cols - 1) < job.pps.cols :=
    (min_le_right ..).trans_lt (Nat.sub_lt job.pps.cols_pos Nat.one_pos)
  have places (k : ℕ) :
      job.pps.At (loop job.recordWrite (walk, buf) k).value.1 walk.ty (min walk.tx (job.pps.cols - 1) + k) ∧
        (loop job.recordWrite (walk, buf) k).value.1.tx < 20 :=
    loop_invariant job.recordWrite (walk, buf) k
      (fun k state => job.pps.At state.1 walk.ty (min walk.tx (job.pps.cols - 1) + k) ∧ state.1.tx < 20)
      ⟨⟨(Nat.mod_eq_of_lt inRow).symm, by rw [Nat.add_zero, Nat.div_eq_of_lt inRow, Nat.add_zero]⟩, col⟩
      fun k _ state before => ⟨before.1.advance.1, before.1.advance.2.trans_le cols⟩
  have lower {j k : ℕ} (order : j ≤ k) : (min walk.tx (job.pps.cols - 1) + j) / job.pps.cols ≤
      (min walk.tx (job.pps.cols - 1) + k) / job.pps.cols := Nat.div_le_div_right (Nat.add_le_add_left order _)
  rw [within_loop]
  constructor
  · intro inside
    cases n with
    | zero => exact .inl rfl
    | succ last =>
      right
      have record := inside last (Nat.lt_succ_self last)
      obtain ⟨-, -, nextRow⟩ := (inside_recordWrite few.core (Nat.lt_of_succ_le fewer) _ _).mp record
      rwa [(places last).1.advance.1.2] at nextRow
  · rintro (rfl | bounded) k below
    · exact absurd below (Nat.not_lt_zero k)
    · obtain ⟨here, inCols⟩ := places k
      obtain ⟨⟨-, nextRow⟩, nextCol⟩ := here.advance
      have rowHere := here.2.trans_lt ((Nat.add_le_add_left (lower below.le) _).trans_lt bounded)
      have rowNext := nextRow.trans_lt ((Nat.add_le_add_left (lower below) _).trans_lt bounded)
      exact (inside_recordWrite few.core (below.trans_le fewer) _ _).mpr
        ⟨inside_advance job.pps inCols rowHere, nextCol.trans_le cols, rowNext⟩

/-- The tile registers and the records are written from inside the arrays just when the tiles are there. -/
theorem inside_tiles (few : job.FewEntryPoints count) (cols : job.pps.cols ≤ 20) (rows : job.pps.rows ≤ 22)
    (buf : ℕ → UInt32) :
    Within (Cell.Inside count) (job.tiles buf) ↔
      (job.pps.tilesEnabled = true ∨ job.pps.entropyCodingSyncEnabled = true → job.TilesInside) := by
  have found : (job.pps.find job.ctbAddrX job.ctbAddrY).value =
      ⟨job.pps.colBound job.firstCol, job.firstCol, job.pps.rowBound job.firstRow, job.firstRow⟩ := by
    simp only [Pps.find, value_bind, value_pure, value_seek (rfl : job.pps.colBound = _),
      value_seek (rfl : job.pps.rowBound = _)]
    rfl
  rw [tiles]
  split
  · rename_i tiled
    rw [tilesWrite, within_bind, found, within_bind, inside_endCtb, imp_iff_right tiled, TilesInside]
    refine (and_iff_right (inside_find job.pps cols rows _ _)).trans (Iff.trans ?_ and_assoc)
    refine and_congr_right fun corner => ?_
    cases synced : job.pps.entropyCodingSyncEnabled with
    | true =>
      simp only [if_true, within_bind, within_pure, within_loop, and_true, true_or, iff_true]
      exact fun i below => inside_syncWrite few.core (below.trans_le few.driver) _
    | false =>
      simp only [Bool.false_eq_true, if_false, within_bind, within_pure, and_true, false_or]
      exact inside_records few cols buf corner.1 _ few.driver
  · rename_i untiled
    exact iff_of_true (within_pure _) fun tiled => absurd tiled untiled

/-- An entry of a list is one of the list, and names an entry of the DPB. -/
def Named (job : Job) (l : ListX) (i : ℕ) : Prop := i < 16 ∧ (job.sliceParams.list l).refIdx i < 16

/-- The picture an entry names comes later. -/
def Later (job : Job) (l : ListX) (i : ℕ) : Prop :=
  (job.decodeParams.dpb ((job.sliceParams.list l).refIdx i).toNat).picOrderCntVal > job.decodeParams.picOrderCntVal

/-- How many entries of a list `cedrus_h265_is_low_delay` looks at. -/
def refs (job : Job) (l : ListX) : ℕ := (job.sliceParams.list l).numRefIdxActiveMinus1.toNat + 1

variable {l : ListX}

theorem inside_dpb (index : UInt8) : Cell.Inside count ⟨.dpb, index.toNat⟩ ↔ index < 16 := by
  rw [UInt8.lt_iff_toNat_lt]
  rfl

theorem inside_isLater (i : ℕ) : Within (Cell.Inside count) (job.isLater l i) ↔ job.Named l i := by
  simp only [isLater, read, within_touch_bind, within_pure, and_true, inside_dpb]
  rfl

theorem value_isLater (i : ℕ) : (job.isLater l i).value = false ↔ ¬ job.Later l i :=
  decide_eq_false_iff_not

theorem inside_refPicListWrite (n : UInt8) :
    Within (Cell.Inside count) (refPicListWrite job.decodeParams.dpb l (job.sliceParams.list l).refIdx n) ↔
      ∀ i < n.toNat, job.Named l i := by
  rw [refPicListWrite, within_bind, within_loop]
  refine (and_iff_left (within_pure _)).trans (forall₂_congr fun i _ => ?_)
  simp only [refPicWrite, read, within_touch_bind, inside_dpb]
  constructor
  · rintro ⟨entry, -, named, -⟩
    exact ⟨entry, named⟩
  · rintro ⟨entry, named⟩
    refine ⟨entry, entry, named, ?_⟩
    split <;> exact within_pure _

theorem inside_predWeightWrite (list : RefList) {n : UInt8} (few : ∀ i < n.toNat, i < 16) :
    Within (Cell.Inside count) (predWeightWrite l list n) := by
  simp only [predWeightWrite, within_bind, within_loop, within_pure, and_true]
  constructor
  · intro i below
    have entry := few i below
    simp only [lumaWeightWrite, read, within_touch_bind]
    refine ⟨entry, entry, ?_⟩
    split <;> split <;> exact within_pure _
  · intro i below
    have entry := few i below
    have component {j : ℕ} (small : j < 2) : 2 * i + j < 32 := by omega
    simp only [chromaWeightWrite, chromaWeight, within_bind, within_touch, within_pure, and_true]
    exact ⟨⟨component Nat.two_pos, component Nat.two_pos⟩, component Nat.one_lt_two, component Nat.one_lt_two⟩

/-- The weights add nothing to what the list itself asks for. -/
theorem inside_listWrite (weighted : Bool) (decoder : Decoder) :
    Within (Cell.Inside count) (job.listWrite l weighted decoder) ↔
      ∀ i < (job.numRefIdxActive l).toNat, job.Named l i := by
  simp only [listWrite, within_bind, inside_refPicListWrite]
  refine and_iff_left_of_imp fun named => ?_
  cases weighted with
  | false => exact within_pure _
  | true => exact (within_bind ..).mpr ⟨inside_predWeightWrite _ fun i below => (named i below).1, within_pure _⟩

theorem inside_dpbWrite {i : ℕ} (active : i < 16) (infos : FrameInfos) :
    Within (Cell.Inside count) (job.dpbWrite i infos) := by
  simp only [dpbWrite, read, within_touch_bind]
  refine ⟨active, ?_⟩
  split
  · exact within_pure _
  · rw [within_touch_bind]
    exact ⟨active, within_pure _⟩

theorem inside_frameInfoWriteDpb (few : job.decodeParams.numActiveDpbEntries ≤ 16) (infos : FrameInfos) :
    Within (Cell.Inside count) (job.frameInfoWriteDpb infos) :=
  (within_loop ..).mpr fun _ below => inside_dpbWrite (below.trans_le (UInt8.le_iff_toNat_le.mp few)) _

/-- The look through a list stays within the arrays up to the first picture that comes later. -/
def Looks (job : Job) (l : ListX) : Prop := ∀ i < job.refs l, (∀ j < i, ¬ job.Later l j) → job.Named l i

/-- Some picture of a list comes later. -/
def HasLater (job : Job) (l : ListX) : Prop := ∃ i < job.refs l, job.Later l i

theorem inside_any : Within (Cell.Inside count) (any (job.isLater l) (job.refs l)) ↔ job.Looks l := by
  rw [within_any]
  simp only [inside_isLater, value_isLater]
  rfl

theorem value_any_isLater : (any (job.isLater l) (job.refs l)).value = true ↔ job.HasLater l := by
  rw [← not_iff_not, Bool.not_eq_true, value_any]
  simp only [value_isLater, HasLater, not_exists, not_and]

theorem inside_isLowDelay :
    Within (Cell.Inside count) job.isLowDelay ↔
      job.Looks .l0 ∧ (job.sliceParams.sliceType = sliceTypeB → job.HasLater .l0 ∨ job.Looks .l1) := by
  rw [isLowDelay, within_bind, ← refs, ← refs, inside_any, ← value_any_isLater]
  refine and_congr_right fun _ => ?_
  cases (any (job.isLater .l0) (job.refs .l0)).value with
  | true => exact iff_of_true (within_pure _) fun _ => .inl rfl
  | false =>
    simp only [Bool.false_eq_true, if_false, false_or]
    split
    · rename_i other
      exact iff_of_true (within_pure _) fun b => absurd b other
    · rename_i b
      rw [inside_any, imp_iff_right (not_not.mp b)]

/-- All entries of a list name pictures of the DPB. -/
def ListInside (job : Job) (l : ListX) : Prop := ∀ i < job.refs l, job.Named l i

/-- A list of 256 entries, which does not fit the byte that counts the entries to write, has a picture that comes later,
and until then only pictures of the DPB. -/
def StopsInside (job : Job) (l : ListX) : Prop :=
  job.refs l = 256 ∧ ∃ stop, job.Later l stop ∧ ∀ i ≤ stop, job.Named l i

/-- The look ends at the first picture that comes later, or goes through the whole list. -/
theorem looks_iff :
    job.Looks l ↔ job.ListInside l ∨ ∃ stop < job.refs l, job.Later l stop ∧ ∀ i ≤ stop, job.Named l i := by
  classical
  constructor
  · intro looks
    by_cases later : job.HasLater l
    · obtain ⟨inside, here⟩ := Nat.find_spec later
      refine .inr ⟨Nat.find later, inside, here, fun i before => ?_⟩
      refine looks i (before.trans_lt inside) fun j earlier found => ?_
      exact Nat.find_min later (earlier.trans_le before) ⟨(earlier.trans_le before).trans inside, found⟩
    · exact .inl fun i below => looks i below fun j before found => later ⟨j, before.trans below, found⟩
  · rintro (all | ⟨stop, -, here, named⟩) i below none
    · exact all i below
    · exact named i (Nat.not_lt.mp fun beyond => none stop beyond here)

theorem numRefIdxActive_toNat : (job.numRefIdxActive l).toNat = if job.refs l = 256 then 0 else job.refs l := by
  have small := (job.sliceParams.list l).numRefIdxActiveMinus1.toNat_lt
  have one : (1 : UInt8).toNat = 1 := rfl
  rw [numRefIdxActive, UInt8.toNat_add, one, refs]
  split
  · rename_i full
    rw [full]
  · rename_i other
    exact Nat.mod_eq_of_lt (by omega)

variable (job l) in
/-- A list is looked through, unless something made that unnecessary, and written. -/
theorem searched_iff (unneeded : Prop) :
    ((unneeded ∨ job.Looks l) ∧ ∀ i < (job.numRefIdxActive l).toNat, job.Named l i) ↔
      job.ListInside l ∨ (job.refs l = 256 ∧ unneeded) ∨ job.StopsInside l := by
  rw [numRefIdxActive_toNat]
  by_cases full : job.refs l = 256
  · have stop {stop : ℕ} (named : ∀ i ≤ stop, job.Named l i) : stop < job.refs l :=
      (named stop le_rfl).1.trans_le (full ▸ (by decide : 16 ≤ 256))
    rw [if_pos full, looks_iff, StopsInside]
    constructor
    · rintro ⟨yes | all | ⟨at_, -, here, named⟩, -⟩
      · exact .inr (.inl ⟨full, yes⟩)
      · exact .inl all
      · exact .inr (.inr ⟨full, at_, here, named⟩)
    · rintro (all | ⟨-, yes⟩ | ⟨-, at_, here, named⟩)
      · exact ⟨.inr (.inl all), fun _ none => absurd none (Nat.not_lt_zero _)⟩
      · exact ⟨.inl yes, fun _ none => absurd none (Nat.not_lt_zero _)⟩
      · exact ⟨.inr (.inr ⟨at_, stop named, here, named⟩), fun _ none => absurd none (Nat.not_lt_zero _)⟩
  · rw [if_neg full]
    constructor
    · exact fun ⟨_, all⟩ => .inl all
    · rintro (all | ⟨same, -⟩ | ⟨same, -⟩)
      · exact ⟨.inr (looks_iff.mpr (.inl all)), all⟩
      · exact absurd same full
      · exact absurd same full

variable (job) in
/-- The lists of a slice stay within the arrays, as far as they are followed. -/
def ListsInside : Prop :=
  job.sliceParams.sliceType = sliceTypeI ∨
    (job.ListInside .l0 ∨ job.StopsInside .l0) ∧
      (job.sliceParams.sliceType = sliceTypeB →
        job.ListInside .l1 ∨ (job.refs .l1 = 256 ∧ job.HasLater .l0) ∨ job.StopsInside .l1)

theorem inside_list1Write (decoder : Decoder) :
    Within (Cell.Inside count) (job.list1Write decoder) ↔
      (job.sliceParams.sliceType = sliceTypeB → ∀ i < (job.numRefIdxActive .l1).toNat, job.Named .l1 i) := by
  rw [list1Write]
  split
  · rename_i b
    rw [inside_listWrite, imp_iff_right b]
  · rename_i other
    exact iff_of_true (within_pure _) fun b => absurd b other

theorem inside_sliceWrite (few : job.decodeParams.numActiveDpbEntries ≤ 16) (decoder : Decoder) :
    Within (Cell.Inside count) (job.sliceWrite decoder) ↔ job.ListsInside := by
  simp only [sliceWrite, within_bind, inside_frameInfoWriteDpb few, inside_list1Write, true_and, sliceNotLowDelay,
    list0Write, ListsInside]
  by_cases intra : job.sliceParams.sliceType = sliceTypeI
  · have notB : sliceTypeI ≠ sliceTypeB := by decide
    simp [intra, notB]
  · have list0 := job.searched_iff .l0 False
    have list1 := job.searched_iff .l1 (job.HasLater .l0)
    simp only [false_or, and_false] at list0
    simp only [ne_eq, intra, not_false_eq_true, if_true, within_bind, within_pure, and_true, inside_isLowDelay,
      inside_listWrite, false_or, ← list0, ← list1]
    rw [imp_and]
    exact and_and_and_comm

end Job

/-- A job that the V4L2 core lets through, with its counts bounded, and that the driver configures without an error. -/
structure Job.Accepted (job : Job) (decoder : Decoder) : Prop where
  tileColumns : job.pps.cols ≤ 20
  tileRows : job.pps.rows ≤ 22
  activeDpbEntries : job.decodeParams.numActiveDpbEntries ≤ 16
  entryPoints : job.entryPointOffsetsCount ≤ 256
  configured : (job.configure decoder).value.2 = 0

/-- A job is configured from inside the arrays of its controls just when its tiles are there, if it has any, and its
lists stay inside. -/
theorem inside_configure (job : Job) (decoder : Decoder) (accepted : job.Accepted decoder) :
    Within (Cell.Inside job.entryPointOffsetsCount.toNat) (job.configure decoder) ↔
      (job.pps.tilesEnabled = true ∨ job.pps.entropyCodingSyncEnabled = true → job.TilesInside) ∧ job.ListsInside := by
  obtain ⟨cols, rows, active, core, configured⟩ := accepted
  by_cases mismatch : job.sliceParams.numEntryPointOffsets ≠ 0 ∧
      job.sliceParams.numEntryPointOffsets ≠ job.entryPointOffsetsCount
  · rw [Job.configure, if_pos mismatch] at configured
    exact absurd configured (by decide : MvCol.erange ≠ 0)
  have few : job.FewEntryPoints job.entryPointOffsetsCount.toNat := by
    refine ⟨UInt32.le_iff_toNat_le.mp core, ?_⟩
    by_cases none : job.sliceParams.numEntryPointOffsets = 0
    · rw [none]
      exact Nat.zero_le _
    · rw [not_not.mp fun different => mismatch ⟨none, different⟩]
  rw [Job.configure, if_neg mismatch] at configured ⊢
  generalize decoder.mvColBuf.attach (MvCol.h265MvColSize job.size job.sps.toH265Sps) job.allocated = attached
    at configured ⊢
  obtain ⟨mvColBuf, ret⟩ := attached
  by_cases failed : ret ≠ 0
  · simp only [if_pos failed, value_pure] at configured
    exact absurd configured failed
  simp only [if_neg failed, value_bind, within_bind, Job.inside_tiles few cols rows] at configured ⊢
  refine and_congr_right fun _ => ?_
  by_cases unsupported : job.sliceParams.dataByteOffset = 0
  · rw [if_pos unsupported] at configured
    exact absurd configured (by decide : MvCol.eopnotsupp ≠ 0)
  by_cases unpadded : job.padding = 0
  · rw [if_neg unsupported, if_pos unpadded] at configured
    exact absurd configured (by decide : MvCol.einval ≠ 0)
  rw [if_neg unsupported, if_neg unpadded, within_bind, Job.inside_sliceWrite active]
  exact and_iff_left (within_pure _)

/-- What a job of either decoder needs for its accesses to stay inside the arrays of its controls. -/
theorem accesses_inside_iff (job : Job) (decoder : Decoder) (accepted : job.Accepted decoder) (dec : DecH264.Decoder)
    (config : DecH264.Config) (weighted : DecH264.WeightedJob)
    (configured : ∃ program, (dec.jobConfigure config weighted.toJob).2 = .ok program) :
    (Within (Cell.Inside job.entryPointOffsetsCount.toNat) (job.configure decoder) ↔
        (job.pps.tilesEnabled = true ∨ job.pps.entropyCodingSyncEnabled = true → job.TilesInside) ∧ job.ListsInside) ∧
      (Within DecH264.Cell.Inside (dec.jobConfigureAccess config weighted) ↔ weighted.ListsNamed) :=
  ⟨inside_configure job decoder accepted, dec.inside_jobConfigure config weighted configured⟩

/-- A P slice in the upper right of four tiles, with one reference and an entry point for each tile behind. -/
def fourTilesP (refIdx : UInt8) : Job := smallJob (smallPps true false [1, 0] [0, 0]) 2 1 [refIdx] [100, 200]

theorem fourTilesP_accepted (refIdx : UInt8) : (fourTilesP refIdx).Accepted freshDecoder where
  tileColumns := (by decide : 2 ≤ 20)
  tileRows := (by decide : 2 ≤ 22)
  activeDpbEntries := (by decide : (1 : UInt8) ≤ 16)
  entryPoints := (by decide : (2 : UInt32) ≤ 256)
  configured := rfl

/-- A P slice with one reference. -/
def smallH264Job (index : UInt8) : DecH264.WeightedJob where
  toJob :=
    let job := DecH264.smallJob 0 10 [] false false
    { job with refList0 := { job.refList1 with refPicList := fun _ => ⟨0, index⟩ } }
  weightedPred := true
  weightedBipredIdc := 0
  weightFactors _ := ⟨fun _ => 0, fun _ => 0, fun _ _ => 0, fun _ _ => 0⟩

theorem accesses_inside_first :
    Within (Cell.Inside 2) ((fourTilesP 0).configure freshDecoder) ∧
      Within DecH264.Cell.Inside
        (DecH264.Decoder.jobConfigureAccess {} DecH264.smallConfig (smallH264Job 0)) := by
  obtain ⟨h265, h264⟩ := accesses_inside_iff (fourTilesP 0) freshDecoder (fourTilesP_accepted 0) {} DecH264.smallConfig
    (smallH264Job 0) ⟨_, rfl⟩
  have list0 : (fourTilesP 0).ListInside .l0 := by
    intro i below
    obtain rfl : i = 0 := Nat.lt_one_iff.mp below
    exact ⟨by decide, by decide⟩
  refine ⟨h265.mpr ⟨fun _ => by decide, .inr ⟨.inl list0, fun b => absurd b (by decide)⟩⟩, h264.mpr ⟨?_, nofun⟩⟩
  intro _ i _
  exact (by decide : (0 : UInt8) < 16)

/-- A reference that names entry 255 is followed out of the DPB, in either decoder. -/
theorem accesses_outside :
    (¬ ∀ (job : Job) (decoder : Decoder), job.Accepted decoder →
      Within (Cell.Inside job.entryPointOffsetsCount.toNat) (job.configure decoder)) ∧
    ¬ ∀ (dec : DecH264.Decoder) (config : DecH264.Config) (job : DecH264.WeightedJob),
      (∃ program, (dec.jobConfigure config job.toJob).2 = .ok program) →
        Within DecH264.Cell.Inside (dec.jobConfigureAccess config job) := by
  constructor
  · intro always
    have inside := always (fourTilesP 255) freshDecoder (fourTilesP_accepted 255) ⟨.dpb, 255⟩ (by decide)
    exact absurd inside (by decide)
  · intro always
    have inside := always {} DecH264.smallConfig (smallH264Job 255) ⟨_, rfl⟩ ⟨.dpb, 255⟩ (by decide)
    exact absurd inside (by decide)

end H618Vpu.DecH265
