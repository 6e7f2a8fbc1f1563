import H618Vpu.Soundness.Vp9Segments

/-! # The quantisers of VP9 segments

The decoding process clips the quantiser index of a segment before it adds a delta; the driver adds the delta
first. The two agree unless the index leaves the range on one side and the delta points back into it, save where
the table repeats an entry.
-/

namespace H618Vpu.Vp9

open Bits
open Spec.Vp9 (lookupQ clipQ)

/-- The entries as numbers. -/
def QLookup.dcQ (lookup : QLookup) (index : Fin 256) : ℕ := (lookup.dc index).toNat

def QLookup.acQ (lookup : QLookup) (index : Fin 256) : ℕ := (lookup.ac index).toNat

/-- A table that rises over any two steps, over the first one, and over every step of its upper half. -/
structure Rising (table : Fin 256 → ℕ) : Prop where
  first : table 0 < table 1
  skip : ∀ i j : Fin 256, i.val + 2 ≤ j.val → table i < table j
  top : ∀ i j : Fin 256, 127 ≤ i.val → i < j → table i < table j

/-- What there is to check of the entries of such a table. -/
def RisingEntries (entries : List ℕ) : Prop :=
  entries.length = 256 ∧ (∀ entry ∈ entries, entry < 2 ^ 16) ∧ entries.getD 0 0 < entries.getD 1 0 ∧
    (∀ pair ∈ entries.zip (entries.drop 1), pair.1 ≤ pair.2) ∧
    (∀ pair ∈ entries.zip (entries.drop 2), pair.1 < pair.2) ∧
    ∀ pair ∈ (entries.drop 127).zip ((entries.drop 127).drop 1), pair.1 < pair.2

instance (entries : List ℕ) : Decidable (RisingEntries entries) := inferInstanceAs (Decidable (_ ∧ _))

/-- What holds of all pairs at a distance holds of each. -/
theorem getD_of_zip_drop {R : ℕ → ℕ → Prop} {entries : List ℕ} {distance : ℕ}
    (pairs : ∀ pair ∈ entries.zip (entries.drop distance), R pair.1 pair.2) {i : ℕ}
    (inside : i + distance < entries.length) : R (entries.getD i 0) (entries.getD (i + distance) 0) := by
  have low : i < entries.length := by omega
  have pair : (entries.zip (entries.drop distance))[i]? = some (entries[i], entries[i + distance]) := by
    rw [List.getElem?_zip_eq_some]
    refine ⟨List.getElem?_eq_getElem low, ?_⟩
    rw [List.getElem?_drop, Nat.add_comm distance i]
    exact List.getElem?_eq_getElem inside
  have related := pairs _ (List.mem_of_getElem? pair)
  rwa [List.getD_eq_getElem _ _ low, List.getD_eq_getElem _ _ inside]

theorem Rising.of_entries {entries : List ℕ} (rising : RisingEntries entries) :
    Rising fun index => (UInt16.ofNat (entries.getD index 0)).toNat := by
  obtain ⟨length, small, first, steps, skips, tops⟩ := rising
  have value (i : Fin 256) : (UInt16.ofNat (entries.getD i 0)).toNat = entries.getD i 0 := by
    have inside : i.val < entries.length := by rw [length]; exact i.isLt
    rw [List.getD_eq_getElem _ _ inside]
    exact UInt16.toNat_ofNat_of_lt' (small _ (List.getElem_mem inside))
  have monotone : Monotone fun i : Fin 256 => entries.getD i 0 :=
    Fin.monotone_iff_le_succ.mpr fun i => getD_of_zip_drop steps (by rw [length]; exact Nat.succ_lt_succ i.isLt)
  constructor
  case first =>
    rw [value, value]
    exact first
  case skip =>
    intro i j apart
    rw [value, value]
    have step := getD_of_zip_drop skips (i := i.val) (by omega)
    exact step.trans_le (monotone (a := ⟨i.val + 2, by omega⟩) (b := j) (Fin.le_def.mpr apart))
  case top =>
    intro i j upper below
    rw [value, value]
    have step := getD_of_zip_drop tops (i := i.val - 127) (by rw [List.length_drop]; omega)
    simp only [List.getD_eq_getElem?_getD, List.getElem?_drop] at step
    rw [show 127 + (i.val - 127) = i.val by omega, show 127 + (i.val - 127 + 1) = i.val + 1 by omega] at step
    simp only [← List.getD_eq_getElem?_getD] at step
    exact step.trans_le (monotone (a := ⟨i.val + 1, by omega⟩) (b := j) (Fin.le_def.mpr below))

theorem qlookup_rising : Rising qlookup.dcQ ∧ Rising qlookup.acQ :=
  ⟨.of_entries (by decide +kernel), .of_entries (by decide +kernel)⟩

theorem qlookup10_rising : Rising qlookup10.dcQ ∧ Rising qlookup10.acQ :=
  ⟨.of_entries (by decide +kernel), .of_entries (by decide +kernel)⟩

/-- The delta does not point from beyond an end of the range back into it, or the table has the same entry. -/
def Harmless (table : Fin 256 → ℕ) (q delta : ℤ) : Prop :=
  (255 < q → 0 ≤ delta) ∧ (q < 0 → 0 < delta → q = -1 ∧ table (clampQ (delta - 1)) = table (clampQ delta))

instance (table : Fin 256 → ℕ) (q delta : ℤ) : Decidable (Harmless table q delta) :=
  inferInstanceAs (Decidable (_ ∧ _))

/-- Where the order of adding and clipping matters. -/
theorem Rising.lookup_eq_iff {table : Fin 256 → ℕ} (rising : Rising table) {q delta : ℤ}
    (small : -128 ≤ delta ∧ delta ≤ 127) :
    table (clampQ (q + delta)) = table (clampQ ((clampQ q : ℕ) + delta)) ↔ Harmless table q delta := by
  have value (x : ℤ) : ((clampQ x : ℕ) : ℤ) = max 0 (min x 255) := by
    simp only [clampQ]
    omega
  have equal {x y : ℤ} (same : max 0 (min x 255) = max 0 (min y 255)) : clampQ x = clampQ y := by
    apply Fin.ext
    have first := value x
    have second := value y
    omega
  have apart {x y : ℤ} (far : max 0 (min x 255) + 2 ≤ max 0 (min y 255)) : table (clampQ x) < table (clampQ y) := by
    apply rising.skip
    have first := value x
    have second := value y
    omega
  have differ {x y : ℤ} (upper : 127 ≤ x) (below : x < y) (inside : x < 255) :
      table (clampQ x) < table (clampQ y) := by
    have first := value x
    have second := value y
    exact rising.top _ _ (by omega) (Fin.lt_def.mpr (by omega))
  rw [value]
  unfold Harmless
  by_cases high : 255 < q
  · by_cases inward : 0 ≤ delta
    · rw [equal (x := q + delta) (y := max 0 (min q 255) + delta) (by omega)]
      exact ⟨fun _ => ⟨fun _ => inward, fun low => by omega⟩, fun _ => rfl⟩
    · have less := differ (x := max 0 (min q 255) + delta) (y := q + delta) (by omega) (by omega) (by omega)
      exact ⟨fun same => absurd same (Nat.ne_of_gt less), fun harmless => absurd (harmless.1 high) inward⟩
  · by_cases inward : q < 0 ∧ 0 < delta
    · have clipped : clampQ (max 0 (min q 255) + delta) = clampQ delta := equal (by omega)
      rw [clipped]
      by_cases near : q = -1
      · rw [equal (x := q + delta) (y := delta - 1) (by omega)]
        exact ⟨fun same => ⟨fun high => by omega, fun _ _ => ⟨near, same⟩⟩,
          fun harmless => (harmless.2 inward.1 inward.2).2⟩
      · have less : table (clampQ (q + delta)) < table (clampQ delta) := by
          by_cases one : delta = 1
          · rw [equal (x := q + delta) (y := 0) (by omega), one]
            exact rising.first
          · exact apart (by omega)
        exact ⟨fun same => absurd same (Nat.ne_of_lt less),
          fun harmless => absurd (harmless.2 inward.1 inward.2).1 near⟩
    · rw [equal (x := q + delta) (y := max 0 (min q 255) + delta) (by omega)]
      exact ⟨fun _ => ⟨fun above => absurd above high, fun low positive => absurd ⟨low, positive⟩ inward⟩, fun _ => rfl⟩

/-- The quantiser index of a segment before it is clipped. -/
def Request.segmentQ (request : Request) (segment : Fin 8) : ℤ :=
  request.seg.segmentValue segment segLvlAltQ request.quant.baseQIdx.toNat

/-- The segments that are written: all of them, or the first one without segmentation. -/
def Request.Programmed (request : Request) (segment : Fin 8) : Prop := request.frame.seg.enabled = true ∨ segment = 0

/-- The tables for the bit depth of the frame. -/
def Request.lookup (request : Request) : QLookup := if request.frame.bitDepth = 10 then qlookup10 else qlookup

/-- The words of a segment are the quantisers of the decoding process. -/
structure Request.Quantised (request : Request) (segment : Fin 8) (luma chroma : UInt32) : Prop where
  lumaDc : wordField luma 0 16 = lookupQ request.lookup.dcQ
    (request.seg.spec.qIndex segment request.quant.baseQIdx.toNat + request.quant.deltaQYDc.toInt)
  lumaAc : wordField luma 16 16 = lookupQ request.lookup.acQ
    (request.seg.spec.qIndex segment request.quant.baseQIdx.toNat)
  chromaDc : wordField chroma 0 16 = lookupQ request.lookup.dcQ
    (request.seg.spec.qIndex segment request.quant.baseQIdx.toNat + request.quant.deltaQUvDc.toInt)
  chromaAc : wordField chroma 16 16 = lookupQ request.lookup.acQ
    (request.seg.spec.qIndex segment request.quant.baseQIdx.toNat + request.quant.deltaQUvAc.toInt)

/-- Two quantisers in one word. -/
theorem wordField_pair (dc ac : UInt16) :
    wordField (dc.toUInt32 ||| (ac.toUInt32 <<< 16)) 0 16 = dc.toNat ∧
      wordField (dc.toUInt32 ||| (ac.toUInt32 <<< 16)) 16 16 = ac.toNat := by
  have low : dc.toUInt32.toNat = dc.toNat := UInt16.toNat_toUInt32 dc
  have high : ac.toUInt32.toNat = ac.toNat := UInt16.toNat_toUInt32 ac
  have lowSmall := dc.toNat_lt
  have highSmall := ac.toNat_lt
  have word : (dc.toUInt32 ||| (ac.toUInt32 <<< 16)).toNat = dc.toNat + ac.toNat * 2 ^ 16 := by
    have below : dc.toUInt32.toNat < 2 ^ 16 := by omega
    have fits : ac.toUInt32.toNat * 2 ^ 16 < 2 ^ 32 := by omega
    rw [← low, ← high]
    exact toNat_or_shiftLeft below (by decide) fits
  constructor <;> simp only [wordField, word] <;> omega

/-- The index of the decoding process is the clipped one of the driver. -/
theorem qIndex_eq (request : Request) (segment : Fin 8) :
    request.seg.spec.qIndex segment request.quant.baseQIdx.toNat = (clampQ (request.segmentQ segment) : ℕ) := by
  have base := request.quant.baseQIdx.toNat_lt
  rw [toNat_clampQ, Request.segmentQ, segmentValue_eq, Spec.Vp9.Segmentation.qIndex]
  change (if request.seg.spec.featureActive segment segLvlAltQ = true then _ else _) = _
  split
  · rfl
  · rw [Spec.Vp9.clip3, if_neg (by omega), if_neg (by omega)]

/-- What is written for a segment. -/
def Request.quantWords (request : Request) (segment : Fin 8) : UInt32 × UInt32 :=
  let q := request.segmentQ segment
  (((request.lookup.dc (clampQ (q + request.quant.deltaQYDc.toInt))).toUInt32 |||
      ((request.lookup.ac (clampQ q)).toUInt32 <<< 16)),
    ((request.lookup.dc (clampQ (q + request.quant.deltaQUvDc.toInt))).toUInt32 |||
      ((request.lookup.ac (clampQ (q + request.quant.deltaQUvAc.toInt))).toUInt32 <<< 16)))

theorem tables_quantWords (request : Request) (config : ProgramConfig) (sram : Sram) {segment : Fin 8}
    (programmed : request.Programmed segment) :
    (request.tables config.withTables sram).word (4 * segment) = (request.quantWords segment).1 ∧
      (request.tables config.withTables sram).word (32 + 4 * segment) = (request.quantWords segment).2 := by
  let entry (segment : Fin 8) : UInt32 × UInt32 :=
    if request.frame.seg.enabled || segment = 0 then request.quantWords segment else (0, 0)
  have written : dequantWrite config.withTables request =
      sramWrite 0 (List.ofFn fun segment => (entry segment).1) ++
        sramWrite 32 (List.ofFn fun segment => (entry segment).2) := rfl
  have present : entry segment = request.quantWords segment := by
    simp only [entry]
    rw [if_pos (by simpa [Request.Programmed] using programmed)]
  have inside := segment.isLt
  simp only [Request.tables, Sram.after_append, written, loopFilterWrite]
  constructor
  · rw [(Sram.after_sramWrite _ _ _).1 _ (show 4 * segment.val < 0x100 by omega),
      (Sram.after_sramWrite _ _ _).1 _ (show 4 * segment.val < 32 by omega), ← present]
    have found := (Sram.after_sramWrite sram 0 (List.ofFn fun segment => (entry segment).1)).2 segment.val
      (entry segment).1 (by rw [List.getElem?_ofFn, dif_pos inside])
    rwa [show (0 : UInt32).toNat + 4 * segment.val = 4 * segment.val from Nat.zero_add _] at found
  · rw [(Sram.after_sramWrite _ _ _).1 _ (show 32 + 4 * segment.val < 0x100 by omega), ← present]
    exact (Sram.after_sramWrite _ 32 (List.ofFn fun segment => (entry segment).2)).2 segment.val
      (entry segment).2 (by rw [List.getElem?_ofFn, dif_pos inside])

theorem Request.lookup_rising (request : Request) : Rising request.lookup.dcQ ∧ Rising request.lookup.acQ := by
  unfold Request.lookup
  split
  · exact qlookup10_rising
  · exact qlookup_rising

/-- The deltas of the frame are harmless for the index of a segment. -/
def Request.DeltasHarmless (request : Request) (segment : Fin 8) : Prop :=
  Harmless request.lookup.dcQ (request.segmentQ segment) request.quant.deltaQYDc.toInt ∧
    Harmless request.lookup.dcQ (request.segmentQ segment) request.quant.deltaQUvDc.toInt ∧
    Harmless request.lookup.acQ (request.segmentQ segment) request.quant.deltaQUvAc.toInt

instance (request : Request) (segment : Fin 8) : Decidable (request.DeltasHarmless segment) :=
  inferInstanceAs (Decidable (_ ∧ _))

theorem int8_small (delta : Int8) : -128 ≤ delta.toInt ∧ delta.toInt ≤ 127 := by
  have low := delta.le_toInt
  have high := delta.toInt_lt
  omega

/-- The words of one segment are those of the decoding process exactly when its deltas are harmless. -/
theorem quantWords_iff (request : Request) (segment : Fin 8) :
    request.Quantised segment (request.quantWords segment).1 (request.quantWords segment).2 ↔
      request.DeltasHarmless segment := by
  obtain ⟨dc, ac⟩ := request.lookup_rising
  have luma := wordField_pair (request.lookup.dc (clampQ (request.segmentQ segment + request.quant.deltaQYDc.toInt)))
    (request.lookup.ac (clampQ (request.segmentQ segment)))
  have chroma := wordField_pair (request.lookup.dc (clampQ (request.segmentQ segment + request.quant.deltaQUvDc.toInt)))
    (request.lookup.ac (clampQ (request.segmentQ segment + request.quant.deltaQUvAc.toInt)))
  have yDc := dc.lookup_eq_iff (q := request.segmentQ segment) (int8_small request.quant.deltaQYDc)
  have uvDc := dc.lookup_eq_iff (q := request.segmentQ segment) (int8_small request.quant.deltaQUvDc)
  have uvAc := ac.lookup_eq_iff (q := request.segmentQ segment) (int8_small request.quant.deltaQUvAc)
  have again : clipQ ((clampQ (request.segmentQ segment) : ℕ) : ℤ) = clampQ (request.segmentQ segment) := by
    rw [← clampQ_eq]
    apply Fin.ext
    simp only [clampQ]
    omega
  rw [Request.DeltasHarmless, ← yDc, ← uvDc, ← uvAc]
  constructor
  · rintro ⟨lumaDc, -, chromaDc, chromaAc⟩
    rw [qIndex_eq, lookupQ, ← clampQ_eq] at lumaDc chromaDc chromaAc
    exact ⟨luma.1.symm.trans lumaDc, chroma.1.symm.trans chromaDc, chroma.2.symm.trans chromaAc⟩
  · rintro ⟨lumaDc, chromaDc, chromaAc⟩
    constructor <;> rw [qIndex_eq, lookupQ]
    case lumaDc =>
      rw [← clampQ_eq]
      exact luma.1.trans lumaDc
    case lumaAc =>
      rw [again]
      exact luma.2
    case chromaDc =>
      rw [← clampQ_eq]
      exact chroma.1.trans chromaDc
    case chromaAc =>
      rw [← clampQ_eq]
      exact chroma.2.trans chromaAc

/-- Every programmed segment has the words of the decoding process exactly when all deltas are harmless. -/
theorem segments_quantised_iff (request : Request) (config : ProgramConfig) (sram : Sram) :
    (∀ segment, request.Programmed segment →
      request.Quantised segment ((request.tables config.withTables sram).word (4 * segment))
        ((request.tables config.withTables sram).word (32 + 4 * segment))) ↔
      ∀ segment, request.Programmed segment → request.DeltasHarmless segment := by
  refine forall_congr' fun segment => forall_congr' fun programmed => ?_
  obtain ⟨luma, chroma⟩ := tables_quantWords request config sram programmed
  rw [luma, chroma]
  exact quantWords_iff request segment

/-- A request whose first segment adds 50 to an index of 250, and whose luma delta takes 10 off. -/
def beyondRange : Request where
  frame :=
    { Frame.stdInit with
      keyFrame := true
      seg := ⟨true, true, false⟩
      frameWidthMinus1 := 63
      frameHeightMinus1 := 63
      uncompressedHeaderSize := 10
      compressedHeaderSize := 10 }
  compressedHdr := .stdInit
  destination := 0
  timestamp := 0
  codedDma := 0x50000
  codedSize := 100
  codedBufferSize := 100
  reconAlloc := none
  segData := ⟨fun _ => 0, fun _ => 0, fun _ _ => 50, fun _ feature => feature = segLvlAltQ, false⟩
  lf := ⟨fun _ => 0, fun _ => 0, 0, 0, false⟩
  quant := ⟨250, -10, 0, 0⟩
  refFrameSignBias := 0

/-- The index is clipped to 255 before 10 is taken off; the driver takes it off 300. -/
theorem segments_not_quantised :
    ¬ ∀ (request : Request) (config : ProgramConfig) (sram : Sram),
      request.frame.bitDepth = 8 ∨ request.frame.bitDepth = 10 → ∀ segment, request.Programmed segment →
      request.Quantised segment ((request.tables config.withTables sram).word (4 * segment))
        ((request.tables config.withTables sram).word (32 + 4 * segment)) := by
  intro always
  let config : ProgramConfig := ⟨⟨.zero, 0, 64, 64, true, 64, 64, 1, fun _ => 0x10000⟩, 0, 0, 0, qlookup, qlookup10⟩
  have programmed : beyondRange.Programmed 0 := .inl rfl
  have quantised := always beyondRange config {} (.inl rfl) 0 programmed
  obtain ⟨luma, chroma⟩ := tables_quantWords beyondRange config {} programmed
  rw [luma, chroma] at quantised
  exact absurd ((quantWords_iff beyondRange 0).mp quantised) (by decide)

end H618Vpu.Vp9
