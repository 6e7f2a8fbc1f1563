import H618Vpu.Math.Tiling
import H618Vpu.Model.Vp9ProbsTool
import H618Vpu.Soundness.Vp9Image

/-! # The offline tool and the forward update of the driver

A control that the tool makes takes the driver, on a key frame, from the one context to the other. The tool applies its
deltas to the positions it has listed and compares the outcome; what it takes the driver to leave alone has to be what
the driver leaves alone.
-/

namespace H618Vpu.Vp9

open Bytes Math

namespace Tool

section Assign

variable {item : ℕ → UInt8 → Except ToolError ℤ} {indices : List ℕ}

theorem byteOf_ok {value : ℤ} {byte : UInt8} (inRange : byteOf value = .ok byte) : UInt8.ofInt value = byte := by
  rw [byteOf] at inRange
  split at inRange
  · exact Except.ok.inj inRange
  · cases inRange

/-- A computation that comes to an end has come to the end of its first step. -/
theorem ok_of_bind {α β : Type} {first : Except ToolError α} {next : α → Except ToolError β} {result : β}
    (done : first >>= next = .ok result) : ∃ value, first = .ok value ∧ next value = .ok result := by
  cases first with
  | error error => cases done
  | ok value => exact ⟨value, rfl, done⟩

theorem getD_set_ne {bytes : List UInt8} {index x : ℕ} (byte : UInt8) (other : x ≠ index) :
    (bytes.set index byte).getD x 0 = bytes.getD x 0 := by
  rw [List.getD_eq_getElem?_getD, List.getElem?_set_ne other.symm, List.getD_eq_getElem?_getD]

theorem getD_set_self {bytes : List UInt8} {index : ℕ} (byte : UInt8) (inside : index < bytes.length) :
    (bytes.set index byte).getD index 0 = byte := by
  rw [List.getD_eq_getElem?_getD, List.getElem?_set_self inside, Option.getD_some]

/-- A loop over different indices makes each item from what it was before the loop, and leaves the others. -/
theorem assignEach_ok (different : indices.Nodup) {before after : List UInt8}
    (done : assignEach item indices before = .ok after) :
    after.length = before.length ∧ (∀ x ∉ indices, after.getD x 0 = before.getD x 0) ∧
      ∀ x ∈ indices, x < before.length → ∃ value, item x (before.getD x 0) = .ok value ∧
        after.getD x 0 = .ofInt value := by
  induction indices generalizing before with
  | nil =>
    obtain rfl : before = after := Except.ok.inj done
    exact ⟨rfl, fun _ _ => rfl, nofun⟩
  | cons index indices ih =>
    obtain ⟨fresh, different⟩ := List.nodup_cons.mp different
    rw [assignEach, List.foldlM_cons] at done
    obtain ⟨set, assigned, done⟩ := ok_of_bind done
    obtain ⟨value, made, assigned⟩ := ok_of_bind assigned
    obtain ⟨byte, inRange, assigned⟩ := ok_of_bind assigned
    obtain rfl : before.set index byte = set := Except.ok.inj assigned
    obtain ⟨length, others, items⟩ := ih different done
    refine ⟨length.trans (List.length_set ..), fun x absent => ?_, fun x member inside => ?_⟩
    · obtain ⟨other, absent⟩ := not_or.mp (mt List.mem_cons.mpr absent)
      rw [others x absent, getD_set_ne byte other]
    · rcases List.mem_cons.mp member with rfl | member
      · refine ⟨value, made, ?_⟩
        rw [others x fresh, byteOf_ok inRange, getD_set_self _ inside]
      · rw [← getD_set_ne byte (ne_of_mem_of_not_mem member fresh)]
        exact items x member (by rwa [List.length_set])

end Assign

theorem range_one (start length : ℕ) : range start (start + length) 1 = List.range' start length := by
  rw [range, Nat.add_sub_cancel_left, Nat.sub_self, Nat.add_zero, Nat.div_one]

/-- The contexts of a band, counted by threes. -/
def bandContexts (band : ℕ) : ℕ := if band = 0 then 3 else 6

theorem bandIndices_eq (tx blockType intra band : ℕ) :
    bandIndices tx blockType intra band =
      List.range' (coef + ((tx * 2 + blockType) * 2 + intra) * 108 + band * 18) (bandContexts band * 3) := by
  have start : coef + (((((tx * 2 + blockType) * 2 + intra) * 6 + band) * 6) * 3) =
      coef + ((tx * 2 + blockType) * 2 + intra) * 108 + band * 18 := by omega
  rw [bandIndices, range_one, start, bandContexts]

theorem skip_eq : skip = coef + 1728 := rfl

theorem coef_le_skip : coef ≤ skip := Nat.le_add_right ..

theorem bandContexts_le (band : ℕ) : bandContexts band * 3 ≤ 18 := by
  rw [bandContexts]
  split <;> omega

/-- The coefficients come transform size by transform size. -/
theorem ascends_coefIndices (txMode : ℤ) : Ascends coef skip (coefIndices txMode) := by
  have sizes : coef + (min txMode 3 + 1).toNat * 432 ≤ skip := by
    rw [skip_eq]
    omega
  refine Ascends.mono (Ascends.flatMap coef 432 _ fun tx _ => ?_) le_rfl sizes
  refine Ascends.mono (Ascends.flatMap (coef + tx * 432) 216 2 fun blockType _ => ?_) le_rfl (by omega)
  refine Ascends.mono (Ascends.flatMap (coef + tx * 432 + blockType * 216) 108 2 fun intra _ => ?_) le_rfl (by omega)
  refine Ascends.mono
    (Ascends.flatMap (coef + tx * 432 + blockType * 216 + intra * 108) 18 6 fun band _ => ?_) le_rfl (by omega)
  rw [bandIndices_eq]
  have few := bandContexts_le band
  exact (Ascends.range' _ _).mono (by omega) (by omega)

/-- The tool goes through its positions in order. -/
theorem ascends_processed (txMode : ℤ) : Ascends 0 (skip + 3) (processed txMode) := by
  have last : Ascends skip (skip + 3) (range skip (skip + 3) 1) := by
    rw [range_one]
    exact Ascends.range' skip 3
  have later := (ascends_coefIndices txMode).append last coef_le_skip (Nat.le_add_right ..)
  have first : Ascends 0 coef (if txMode = 4 then range tx8 coef 1 else []) := by
    split
    · exact Ascends.range' 0 12
    · exact Ascends.nil
  exact first.append later (Nat.zero_le _) (coef_le_skip.trans (Nat.le_add_right ..))

theorem mem_coefIndices {txMode : ℤ} {x : ℕ} : x ∈ coefIndices txMode ↔
    ∃ tx < (min txMode 3 + 1).toNat, ∃ blockType < 2, ∃ intra < 2, ∃ band < 6,
      coef + ((tx * 2 + blockType) * 2 + intra) * 108 + band * 18 ≤ x ∧
        x < coef + ((tx * 2 + blockType) * 2 + intra) * 108 + band * 18 + bandContexts band * 3 := by
  simp only [coefIndices, List.mem_flatMap, List.mem_range, bandIndices_eq, List.mem_range'_1]

theorem mem_processed {txMode : ℤ} {x : ℕ} :
    x ∈ processed txMode ↔ txMode = 4 ∧ x < coef ∨ x ∈ coefIndices txMode ∨ skip ≤ x ∧ x < skip + 3 := by
  have first : x ∈ (if txMode = 4 then range tx8 coef 1 else []) ↔ txMode = 4 ∧ x < coef := by
    split
    next all =>
      rw [← Nat.zero_add coef, tx8, range_one, List.mem_range'_1]
      simp only [all, Nat.zero_le, true_and]
    next other => simp only [other, List.not_mem_nil, false_and]
  rw [processed, List.mem_append, List.mem_append, first, range_one, List.mem_range'_1]

theorem ofInt_toNat (byte : UInt8) : UInt8.ofInt byte.toNat = byte := by
  have small : (byte.toNat : ℤ) % 2 ^ 8 = byte.toNat := by
    have below := byte.toNat_lt
    omega
  rw [UInt8.ofInt, small, Int.toNat_natCast, UInt8.ofNat_toNat]

/-- The tool and the driver compute an update alike. -/
theorem ofInt_updateProb (delta prob : UInt8) :
    UInt8.ofInt (updateProb delta.toNat prob.toNat) = Vp9.updateProb delta prob := by
  have zero : ((delta.toNat : ℤ) = 0) = (delta = 0) := by
    rw [Int.natCast_eq_zero, ← UInt8.toNat_inj]
    rfl
  simp only [updateProb, Vp9.updateProb, zero]
  split
  · exact ofInt_toNat prob
  · split <;> rfl

/-- A context after the update of a key frame, position by position. -/
structure Updated (txMode : ℤ) (before delta after : List UInt8) : Prop where
  touched : ∀ x ∈ processed txMode, after.getD x 0 = Vp9.updateProb (delta.getD x 0) (before.getD x 0)
  kept : ∀ x ∉ processed txMode, after.getD x 0 = before.getD x 0

/-- A control has the deltas of the positions the tool goes through, and takes the one context to the other. -/
theorem makeKeyframeControl_ok {default target control : List UInt8} {txMode : ℤ} (size : default.length = ctxSize)
    (done : makeKeyframeControl default target txMode = .ok control) :
    (0 ≤ txMode ∧ txMode < 256) ∧ ∃ delta : List UInt8, control = .ofInt txMode :: delta ∧
      Updated txMode default delta target := by
  obtain ⟨delta, deltas, done⟩ := ok_of_bind done
  obtain ⟨first, inRange, done⟩ := ok_of_bind done
  have mode : 0 ≤ txMode ∧ txMode < 256 := by
    by_contra outside
    rw [byteOf, if_neg outside] at inRange
    cases inRange
  refine ⟨mode, delta, ?_⟩
  by_cases length : (first :: delta).length = controlSize
  · dsimp only at done
    rw [if_neg (not_not_intro length)] at done
    obtain ⟨check, checks, done⟩ := ok_of_bind done
    by_cases same : check = target
    · rw [if_neg (not_not_intro same)] at done
      obtain rfl : first :: delta = control := Except.ok.inj done
      obtain ⟨-, others, items⟩ := assignEach_ok (ascends_processed txMode).nodup checks
      subst same
      refine ⟨by rw [byteOf_ok inRange], fun x member => ?_, others⟩
      have inside : x < default.length := by
        have below := ((ascends_processed txMode).2 x member).2
        rw [size]
        exact below.trans (by decide)
      obtain ⟨value, made, assigned⟩ := items x member inside
      obtain rfl := Except.ok.inj made
      rw [assigned, ofInt_updateProb]
    · rw [if_pos same] at done
      cases done
  · dsimp only at done
    rw [if_pos length] at done
    cases done

end Tool

namespace FrameContext

/-- A cell of a field of the serialised context. -/
theorem entry_bytes (p : FrameContext) (index : ℕ) {table : Table UInt8} (found : p.tables[index]? = some table)
    {n row : ℕ} {cells : Fin n → UInt8} (wide : table.width = n) (flat : table.stride = n)
    (stored : table.rows[row]? = some (List.ofFn cells)) (j : Fin n) :
    entry p.bytes (tableSizes.take index).sum n row j = cells j := by
  obtain ⟨bound, same⟩ := List.getElem?_eq_some_iff.mp stored
  have cut := (p.slice_bytes index table found row bound).trans same
  have cell : (List.ofFn cells)[(j : ℕ)]? = some (cells j) := by
    rw [List.getElem?_ofFn, dif_pos j.isLt]
  rw [← cut, flat, wide, slice, List.getElem?_drop,
    List.getElem?_take_of_lt (Nat.add_lt_add_left j.isLt _)] at cell
  rw [entry, List.getD_eq_getElem?_getD, cell, Option.getD_some]

theorem entry_ofFn (p : FrameContext) (index : ℕ) {m n : ℕ} {entries : Fin m → Fin n → UInt8}
    (found : p.tables[index]? = some (.ofFn entries)) (i : Fin m) (j : Fin n) :
    entry p.bytes (tableSizes.take index).sum n i j = entries i j :=
  p.entry_bytes index found rfl rfl (Table.ofFn_getElem? entries i) j

theorem entry_class0Fr (p : FrameContext) (i j : Fin 2) (k : Fin 3) :
    entry p.bytes Tool.class0Fr 3 (i * 2 + j) k = p.mv.class0Fr i j k := by
  have part := Table.ofFn_getElem? (p.mv.class0Fr i) j
  refine p.entry_bytes 19 rfl rfl rfl (Eq.trans ?_ part) k
  exact Table.join_getElem? _ (fun _ => List.length_ofFn) i j.isLt

theorem entry_coef (p : FrameContext) (i : Fin 4) (j k : Fin 2) (l m : Fin 6) (n : Fin 3) :
    entry p.bytes Tool.coef 3 ((((i * 2 + j) * 2 + k) * 6 + l) * 6 + m) n = p.coef i j k l m n := by
  have nested : ((((i : ℕ) * 2 + j) * 2 + k) * 6 + l) * 6 + m = i * 144 + (j * 72 + (k * 36 + (l * 6 + m))) := by
    omega
  have bands (i j k) : (Table.join (n := 3) (fun l => .ofFn (p.coef i j k l)) fun _ => rfl).rows.length = 6 * 6 :=
    Table.join_length _ fun _ => List.length_ofFn
  have inner (i j) : (Table.join (n := 3) (fun k => .join (fun l => .ofFn (p.coef i j k l)) fun _ => rfl)
      fun _ => rfl).rows.length = 2 * (6 * 6) := Table.join_length _ fun k => bands i j k
  have part := Table.ofFn_getElem? (p.coef i j k l) m
  rw [nested]
  refine p.entry_bytes 3 rfl rfl rfl (Eq.trans ?_ part) n
  refine (Table.join_getElem? _ (fun i => Table.join_length _ (inner i)) i (by omega)).trans ?_
  refine (Table.join_getElem? _ (inner i) j (by omega)).trans ?_
  refine (Table.join_getElem? _ (bands i j) k (by omega)).trans ?_
  exact Table.join_getElem? _ (fun _ => List.length_ofFn) l m.isLt

theorem entry_row (p : FrameContext) (index : ℕ) {n : ℕ} {entries : Fin n → UInt8}
    (found : p.tables[index]? = some (.row entries)) (j : Fin n) :
    entry p.bytes (tableSizes.take index).sum n 0 j = entries j := p.entry_ofFn index found 0 j

theorem entry_column (p : FrameContext) (index : ℕ) {m : ℕ} {entries : Fin m → UInt8}
    (found : p.tables[index]? = some (.column entries)) (i : Fin m) :
    entry p.bytes (tableSizes.take index).sum 1 i 0 = entries i := p.entry_ofFn index found i 0

/-- The serialised context is read back as it was. -/
theorem ofBytes_bytes (p : FrameContext) : ofBytes p.bytes = p := by
  have tx8 (i : Fin 2) (j : Fin 1) : entry p.bytes Tool.tx8 1 i j = p.tx8 i j := p.entry_ofFn 0 rfl i j
  have tx16 (i j : Fin 2) : entry p.bytes Tool.tx16 2 i j = p.tx16 i j := p.entry_ofFn 1 rfl i j
  have tx32 (i : Fin 2) (j : Fin 3) : entry p.bytes Tool.tx32 3 i j = p.tx32 i j := p.entry_ofFn 2 rfl i j
  have skip (i : Fin 3) : entry p.bytes Tool.skip 3 0 i = p.skip i := p.entry_row 4 rfl i
  have interMode (i : Fin 7) (j : Fin 3) : entry p.bytes Tool.interMode 3 i j = p.interMode i j :=
    p.entry_ofFn 5 rfl i j
  have interpFilter (i : Fin 4) (j : Fin 2) : entry p.bytes Tool.interpFilter 2 i j = p.interpFilter i j :=
    p.entry_ofFn 6 rfl i j
  have isInter (i : Fin 4) : entry p.bytes Tool.isInter 4 0 i = p.isInter i := p.entry_row 7 rfl i
  have compMode (i : Fin 5) : entry p.bytes Tool.compMode 5 0 i = p.compMode i := p.entry_row 8 rfl i
  have singleRef (i : Fin 5) (j : Fin 2) : entry p.bytes Tool.singleRef 2 i j = p.singleRef i j :=
    p.entry_ofFn 9 rfl i j
  have compRef (i : Fin 5) : entry p.bytes Tool.compRef 5 0 i = p.compRef i := p.entry_row 10 rfl i
  have yMode (i : Fin 4) (j : Fin 9) : entry p.bytes Tool.yMode 9 i j = p.yMode i j := p.entry_ofFn 11 rfl i j
  have uvMode (i : Fin 10) (j : Fin 9) : entry p.bytes Tool.uvMode 9 i j = p.uvMode i j := p.entry_ofFn 12 rfl i j
  have partition (i : Fin 16) (j : Fin 3) : entry p.bytes Tool.partition 3 i j = p.partition i j :=
    p.entry_ofFn 13 rfl i j
  have joint (i : Fin 3) : entry p.bytes Tool.mv 3 0 i = p.mv.joint i := p.entry_row 14 rfl i
  have sign (i : Fin 2) : entry p.bytes Tool.sign 1 i 0 = p.mv.sign i := p.entry_column 15 rfl i
  have classes (i : Fin 2) (j : Fin 10) : entry p.bytes Tool.classes 10 i j = p.mv.classes i j :=
    p.entry_ofFn 16 rfl i j
  have class0Bit (i : Fin 2) : entry p.bytes Tool.class0Bit 1 i 0 = p.mv.class0Bit i := p.entry_column 17 rfl i
  have bits (i : Fin 2) (j : Fin 10) : entry p.bytes Tool.bits 10 i j = p.mv.bits i j := p.entry_ofFn 18 rfl i j
  have fr (i : Fin 2) (j : Fin 3) : entry p.bytes Tool.fr 3 i j = p.mv.fr i j := p.entry_ofFn 20 rfl i j
  have class0Hp (i : Fin 2) : entry p.bytes Tool.class0Hp 1 i 0 = p.mv.class0Hp i := p.entry_column 21 rfl i
  have hp (i : Fin 2) : entry p.bytes Tool.hp 1 i 0 = p.mv.hp i := p.entry_column 22 rfl i
  simp only [ofBytes, tx8, tx16, tx32, p.entry_coef, skip, interMode, interpFilter, isInter, compMode, singleRef,
    compRef, yMode, uvMode, partition, joint, sign, classes, class0Bit, bits, p.entry_class0Fr, fr, class0Hp, hp]

end FrameContext

namespace Tool

variable {txMode : ℕ}

/-- Before the coefficients only the transform mode with all sizes is updated. -/
theorem mem_processed_tx {x : ℕ} (before : x < coef) : x ∈ processed txMode ↔ txMode = 4 := by
  have first : x ∉ coefIndices txMode := fun member =>
    Nat.not_le.mpr before ((ascends_coefIndices txMode).2 x member).1
  have second : ¬ (skip ≤ x ∧ x < skip + 3) := fun ⟨after, _⟩ =>
    Nat.not_le.mpr before (coef_le_skip.trans after)
  simp only [mem_processed, first, second, before, and_true, or_false]
  omega

/-- The bands of the tool are those of the driver. -/
theorem mem_processed_coef (i : Fin 4) (j k : Fin 2) (l m : Fin 6) (n : Fin 3) :
    coef + 3 * ((((i * 2 + j) * 2 + k) * 6 + l) * 6 + m) + n ∈ processed txMode ↔ i ≤ txMode ∧ m < band6 l := by
  have contexts : band6 l = bandContexts l := by
    simp only [band6, bandContexts, Fin.ext_iff, Fin.val_zero]
  rw [mem_processed, mem_coefIndices, contexts]
  constructor
  · rintro (⟨-, before⟩ | ⟨tx, size, blockType, _, intra, _, band, _, low, high⟩ | ⟨after, -⟩)
    · omega
    · have few := bandContexts_le band
      have block : tx = i ∧ blockType = j ∧ intra = k ∧ band = l := by omega
      obtain ⟨rfl, rfl, rfl, rfl⟩ := block
      constructor <;> omega
    · rw [skip_eq] at after
      omega
  · rintro ⟨size, context⟩
    exact .inr (.inl ⟨i, by omega, j, j.isLt, k, k.isLt, l, l.isLt, by omega, by omega⟩)

theorem mem_processed_skip {x : ℕ} (after : skip ≤ x) : x ∈ processed txMode ↔ x < skip + 3 := by
  have first : ¬ ((txMode : ℤ) = 4 ∧ x < coef) := fun ⟨_, before⟩ =>
    Nat.not_le.mpr before (coef_le_skip.trans after)
  have second : x ∉ coefIndices txMode := fun member =>
    Nat.not_le.mpr ((ascends_coefIndices txMode).2 x member).2 after
  simp only [mem_processed, first, second, after, true_and, false_or]

namespace Updated

variable {before delta after : List UInt8}

theorem entry_tx (updated : Updated txMode before delta after) (start width row col : ℕ)
    (inside : start + width * row + col < coef) : entry after start width row col =
      if txMode = 4 then Vp9.updateProb (entry delta start width row col) (entry before start width row col)
      else entry before start width row col := by
  split
  next all => exact updated.touched _ ((mem_processed_tx inside).mpr all)
  next other => exact updated.kept _ (mt (mem_processed_tx inside).mp other)

theorem entry_coef (updated : Updated txMode before delta after) (i : Fin 4) (j k : Fin 2) (l m : Fin 6)
    (n : Fin 3) : entry after coef 3 ((((i * 2 + j) * 2 + k) * 6 + l) * 6 + m) n =
      if i ≤ txMode ∧ m < band6 l then
        Vp9.updateProb (entry delta coef 3 ((((i * 2 + j) * 2 + k) * 6 + l) * 6 + m) n)
          (entry before coef 3 ((((i * 2 + j) * 2 + k) * 6 + l) * 6 + m) n)
      else entry before coef 3 ((((i * 2 + j) * 2 + k) * 6 + l) * 6 + m) n := by
  split
  next coded => exact updated.touched _ ((mem_processed_coef i j k l m n).mpr coded)
  next other => exact updated.kept _ (mt (mem_processed_coef i j k l m n).mp other)

theorem entry_skip (updated : Updated txMode before delta after) (i : Fin 3) :
    entry after skip 3 0 i = Vp9.updateProb (entry delta skip 3 0 i) (entry before skip 3 0 i) :=
  updated.touched _ ((mem_processed_skip (Nat.le_add_right ..)).mpr (Nat.add_lt_add_left i.isLt skip))

/-- The fields that a key frame does not update. -/
theorem entry_later (updated : Updated txMode before delta after) {start : ℕ} (later : skip + 3 ≤ start)
    (width row col : ℕ) : entry after start width row col = entry before start width row col := by
  have beyond : skip + 3 ≤ start + width * row + col := by omega
  refine updated.kept _ fun member => Nat.not_lt.mpr beyond ((mem_processed_skip ?_).mp member)
  exact (Nat.le_add_right ..).trans beyond

/-- The driver makes the update of a key frame at the positions the tool goes through. -/
theorem fwUpdateProbs_eq (updated : Updated txMode before delta after) {frame : Frame} (key : frame.keyFrame = true) :
    fwUpdateProbs (.ofBytes before) ⟨txMode, .ofBytes delta⟩ frame = .ofBytes after := by
  have intra : frame.isIntra = true := by rw [Frame.isIntra, key, Bool.true_or]
  have tx8 (i : Fin 2) (j : Fin 1) := updated.entry_tx Tool.tx8 1 i j (by
    simp only [coef, tx32, tx16, Tool.tx8]
    omega)
  have tx16 (i j : Fin 2) := updated.entry_tx Tool.tx16 2 i j (by
    simp only [coef, tx32, Tool.tx16, Tool.tx8]
    omega)
  have tx32 (i : Fin 2) (j : Fin 3) := updated.entry_tx Tool.tx32 3 i j (by
    simp only [coef, Tool.tx32, Tool.tx16, Tool.tx8]
    omega)
  have coefs : (updateCoefProbs (.ofBytes before) ⟨txMode, .ofBytes delta⟩).coef =
      (FrameContext.ofBytes after).coef := by
    funext i j k l m n
    refine Eq.trans ?_ (updated.entry_coef i j k l m n).symm
    by_cases coded : (i : ℕ) ≤ txMode
    · simp only [updateCoefProbs, updateCoeff, FrameContext.ofBytes, coded, true_and, if_true]
    · simp only [updateCoefProbs, FrameContext.ofBytes, coded, false_and, if_false]
  have later {start : ℕ} (beyond : skip + 3 ≤ start) := updated.entry_later beyond
  -- the fields behind the skip probabilities are what they were
  have afterwards : FrameContext.ofBytes after =
      { updateSkipProbs (.ofBytes before) ⟨txMode, .ofBytes delta⟩ with
        tx8 := fun i j => entry after Tool.tx8 1 i j
        tx16 := fun i j => entry after Tool.tx16 2 i j
        tx32 := fun i j => entry after Tool.tx32 3 i j
        coef := (FrameContext.ofBytes after).coef } := by
    simp only [FrameContext.ofBytes, updateSkipProbs, updated.entry_skip]
    simp (disch := decide) only [updated.entry_later]
  rw [afterwards, ← coefs]
  by_cases all : txMode = 4
  · simp only [tx8, tx16, tx32, all, if_true, fwUpdateProbs, intra, txModeSelect]
    rfl
  · simp only [tx8, tx16, tx32, all, if_true, if_false, fwUpdateProbs, intra, txModeSelect]
    rfl

end Updated

theorem ext_getD {xs ys : List UInt8} (length : xs.length = ys.length) (same : ∀ x, xs.getD x 0 = ys.getD x 0) :
    xs = ys := by
  refine List.ext_getElem length fun x first second => ?_
  rw [← List.getD_eq_getElem xs 0 first, ← List.getD_eq_getElem ys 0 second]
  exact same x

/-- A loop over different indices goes through if each item can be made. -/
theorem assignEach_eq {item : ℕ → UInt8 → Except ToolError ℤ} {indices : List ℕ} (different : indices.Nodup)
    {before after : List UInt8} (length : before.length = after.length) (inside : ∀ x ∈ indices, x < before.length)
    (made : ∀ x ∈ indices, item x (before.getD x 0) = .ok (after.getD x 0).toNat)
    (others : ∀ x ∉ indices, before.getD x 0 = after.getD x 0) : assignEach item indices before = .ok after := by
  induction indices generalizing before with
  | nil => exact congrArg Except.ok (ext_getD length fun x => others x List.not_mem_nil)
  | cons index indices ih =>
    obtain ⟨fresh, different⟩ := List.nodup_cons.mp different
    obtain ⟨here, inside⟩ := List.forall_mem_cons.mp inside
    obtain ⟨first, made⟩ := List.forall_mem_cons.mp made
    have inRange : byteOf (after.getD index 0).toNat = .ok (after.getD index 0) := by
      have below := (after.getD index 0).toNat_lt
      rw [byteOf, if_pos (by omega), ofInt_toNat]
    have step : (do
        let value ← item index (before.getD index 0)
        let byte ← byteOf value
        pure (before.set index byte)) = Except.ok (before.set index (after.getD index 0)) := by
      simp only [first, inRange, bind, Except.bind, pure, Except.pure]
    have same : (before.set index (after.getD index 0)).length = before.length := List.length_set ..
    rw [assignEach, List.foldlM_cons, step]
    refine ih different (same.trans length) (same ▸ inside) (fun x member => ?_) fun x absent => ?_
    · rw [getD_set_ne _ (ne_of_mem_of_not_mem member fresh)]
      exact made x member
    · by_cases set : x = index
      · rw [set, getD_set_self _ here]
      · rw [getD_set_ne _ set]
        exact others x (List.not_mem_cons_of_ne_of_not_mem set absent)

/-- Where there are deltas for what differs, the tool makes the control of these deltas. -/
theorem makeKeyframeControl_eq {default target delta : List UInt8} {txMode : ℤ} (inRange : 0 ≤ txMode ∧ txMode < 256)
    (sizes : default.length = ctxSize ∧ target.length = ctxSize ∧ delta.length = ctxSize)
    (found : ∀ x ∈ processed txMode,
      inverseDelta (default.getD x 0) (target.getD x 0) = .ok (delta.getD x 0).toNat ∧
        updateProb (delta.getD x 0).toNat (default.getD x 0).toNat = (target.getD x 0).toNat)
    (others : ∀ x ∉ processed txMode, delta.getD x 0 = 0 ∧ default.getD x 0 = target.getD x 0) :
    makeKeyframeControl default target txMode = .ok (.ofInt txMode :: delta) := by
  have different := (ascends_processed txMode).1.nodup
  have inside : ∀ x ∈ processed txMode, x < ctxSize := fun x member =>
    ((ascends_processed txMode).2 x member).2.trans (by decide)
  have zero (x : ℕ) : (blank ctxSize : List UInt8).getD x 0 = 0 := by
    rw [List.getD_eq_getElem?_getD, blank, List.getElem?_replicate]
    split <;> rfl
  have deltas : assignEach (fun index _ => inverseDelta (default.getD index 0) (target.getD index 0))
      (processed txMode) (blank ctxSize) = .ok delta :=
    assignEach_eq different ((length_blank ..).trans sizes.2.2.symm)
      (fun x member => (inside x member).trans_eq (length_blank ..).symm) (fun x member => (found x member).1)
      fun x absent => (zero x).trans (others x absent).1.symm
  have check : assignEach (fun index prob => .ok (updateProb (delta.getD index 0).toNat prob.toNat))
      (processed txMode) default = .ok target :=
    assignEach_eq different (sizes.1.trans sizes.2.1.symm) (fun x member => (inside x member).trans_eq sizes.1.symm)
      (fun x member => congrArg Except.ok (found x member).2) fun x absent => (others x absent).2
  have first : byteOf txMode = .ok (.ofInt txMode) := if_pos inRange
  have length : (UInt8.ofInt txMode :: delta).length = controlSize := by
    rw [List.length_cons, sizes.2.2]
    rfl
  simp only [makeKeyframeControl, deltas, first, check, length, bind, Except.bind, ne_eq, not_true_eq_false, if_false,
    pure, Except.pure]

/-- A control of the tool takes the driver from the one context to the other, and the tool makes none where the contexts
differ in a position that no update of a key frame reaches. -/
theorem makeKeyframeControl_fwUpdateProbs (default target : FrameContext) (txMode : ℤ) (frame : Frame)
    (key : frame.keyFrame = true) :
    (∀ control, makeKeyframeControl default.bytes target.bytes txMode = .ok control →
      (CompressedHdr.ofBytes control).txMode = txMode ∧
        fwUpdateProbs default (CompressedHdr.ofBytes control) frame = target) ∧
    ∀ x, (∀ probs deltas, deltas.txMode = txMode →
        (fwUpdateProbs probs deltas frame).bytes.getD x 0 = probs.bytes.getD x 0) →
      target.bytes.getD x 0 ≠ default.bytes.getD x 0 →
      ∃ error, makeKeyframeControl default.bytes target.bytes txMode = .error error := by
  have agree (control) (made : makeKeyframeControl default.bytes target.bytes txMode = .ok control) :
      (CompressedHdr.ofBytes control).txMode = txMode ∧
        fwUpdateProbs default (CompressedHdr.ofBytes control) frame = target := by
    obtain ⟨inRange, delta, rfl, updated⟩ := makeKeyframeControl_ok (length_bytes default) made
    lift txMode to ℕ using inRange.1
    have mode : (UInt8.ofInt txMode).toNat = txMode := by
      rw [UInt8.ofInt, UInt8.toNat_ofNat']
      omega
    have read : CompressedHdr.ofBytes (.ofInt txMode :: delta) = ⟨txMode, .ofBytes delta⟩ := by
      rw [CompressedHdr.ofBytes, List.getD_cons_zero, mode]
      rfl
    have outcome := updated.fwUpdateProbs_eq key
    rw [FrameContext.ofBytes_bytes, FrameContext.ofBytes_bytes] at outcome
    rw [read]
    exact ⟨rfl, outcome⟩
  refine ⟨agree, fun x alone different => ?_⟩
  cases made : makeKeyframeControl default.bytes target.bytes txMode with
  | error error => exact ⟨error, rfl⟩
  | ok control =>
    obtain ⟨mode, outcome⟩ := agree control made
    have same := alone default _ mode
    rw [outcome] at same
    exact absurd same different

/-- A context whose skip probabilities are `prob` and whose other ones are zero. -/
def skips (prob : UInt8) : FrameContext := { FrameContext.zero with skip := fun _ => prob }

theorem skips_getD (prob : UInt8) (x : ℕ) :
    (skips prob).bytes.getD x 0 = if skip ≤ x ∧ x < skip + 3 then prob else 0 := by
  have before : layout (FrameContext.zero.tables.take 4) = blank skip := by decide +kernel
  have behind : layout (FrameContext.zero.tables.drop 5) = blank (ctxSize - (skip + 3)) := by decide +kernel
  have bytes : (skips prob).bytes = blank skip ++ (List.replicate 3 prob ++ blank (ctxSize - (skip + 3))) := by
    rw [← before, ← behind, FrameContext.bytes, layout_split _ 4 (.row (skips prob).skip) rfl]
    rfl
  simp only [bytes, blank, List.getD_eq_getElem?_getD, List.getElem?_append, List.length_replicate,
    List.getElem?_replicate]
  split_ifs <;> first | rfl | omega

/-- The tool takes the skip probabilities from 128 to 129, and makes no control for other transform probabilities. -/
theorem makeKeyframeControl_fwUpdateProbs_tx8 :
    makeKeyframeControl (skips 128).bytes (skips 129).bytes 0 = .ok (.ofInt 0 :: (skips 2).bytes) ∧
      fwUpdateProbs (skips 128) (CompressedHdr.ofBytes (.ofInt 0 :: (skips 2).bytes))
        { Frame.stdInit with keyFrame := true } = skips 129 ∧
      ∃ error, makeKeyframeControl FrameContext.zero.bytes
        ({ FrameContext.zero with tx8 := fun _ _ => 1 } : FrameContext).bytes 0 = .error error := by
  have made : makeKeyframeControl (skips 128).bytes (skips 129).bytes 0 = .ok (.ofInt 0 :: (skips 2).bytes) := by
    apply makeKeyframeControl_eq (by decide) ⟨length_bytes _, length_bytes _, length_bytes _⟩
    · intro x _
      simp only [skips_getD]
      split <;> decide
    · intro x absent
      have outside : ¬ (skip ≤ x ∧ x < skip + 3) := fun inside => absent (mem_processed.mpr (.inr (.inr inside)))
      simp only [skips_getD, if_neg outside, and_self]
  have first (p : FrameContext) : p.bytes.getD 0 0 = p.tx8 0 0 := p.entry_ofFn 0 rfl 0 0
  have agree := (makeKeyframeControl_fwUpdateProbs (skips 128) (skips 129) 0 { Frame.stdInit with keyFrame := true }
    rfl).1 _ made
  refine ⟨made, agree.2, (makeKeyframeControl_fwUpdateProbs .zero _ 0 { Frame.stdInit with keyFrame := true } rfl).2 0
    ?_ ?_⟩
  · intro probs deltas mode
    have other : deltas.txMode ≠ txModeSelect := by
      rw [txModeSelect]
      omega
    rw [first, first, fwUpdateProbs, if_neg other]
    rfl
  · rw [first, first]
    decide

end Tool

end H618Vpu.Vp9
