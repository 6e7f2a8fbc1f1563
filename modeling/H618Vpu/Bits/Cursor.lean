import Mathlib

/-! # A position in a stream of bits

A cursor stands between two bits of a stream of bytes, the highest bit of a byte first. An alignment fills a byte up:
a bit that is set, and zeros. The byte shows where it began.
-/

namespace H618Vpu.Bits

/-- A bit of a stream. -/
def streamBit (bytes : ℕ → UInt8) (position : ℕ) : Bool := (bytes (position / 8)).toNat.testBit (7 - position % 8)

/-- The bits from a position on, as a number. -/
def showBits (bytes : ℕ → UInt8) : ℕ → ℕ → ℕ
  | _, 0 => 0
  | position, count + 1 => (streamBit bytes position).toNat * 2 ^ count + showBits bytes (position + 1) count

/-- `byte_alignment()` takes the bits between two positions. -/
structure Alignment (bytes : ℕ → UInt8) (start stop : ℕ) : Prop where
  one : streamBit bytes start = true
  zeros : ∀ position, start < position → position < stop → streamBit bytes position = false
  nonempty : start < stop
  short : stop ≤ start + 8
  aligned : stop % 8 = 0

/-- The lowest bit of a byte that is set. -/
def lowestBit (byte : UInt8) : Option ℕ := (List.range 8).find? byte.toNat.testBit

variable {bytes : ℕ → UInt8}

theorem streamBit_of_place (index : ℕ) {place : ℕ} (inside : place < 8) :
    streamBit bytes (8 * index + (7 - place)) = (bytes index).toNat.testBit place := by
  rw [streamBit, show (8 * index + (7 - place)) / 8 = index by omega,
    show 7 - (8 * index + (7 - place)) % 8 = place by omega]

/-- Eight bits from the begin of a byte are the byte. -/
theorem showBits_byte (index : ℕ) : showBits bytes (8 * index) 8 = (bytes index).toNat := by
  have bit (place : ℕ) (inside : place < 8) :
      (streamBit bytes (8 * index + (7 - place))).toNat = (bytes index).toNat / 2 ^ place % 2 := by
    rw [streamBit_of_place index inside, Nat.toNat_testBit]
  have small := (bytes index).toNat_lt
  have bits := And.intro (bit 7 (by decide)) <| And.intro (bit 6 (by decide)) <| And.intro (bit 5 (by decide)) <|
    And.intro (bit 4 (by decide)) <| And.intro (bit 3 (by decide)) <| And.intro (bit 2 (by decide)) <|
    And.intro (bit 1 (by decide)) (bit 0 (by decide))
  norm_num at bits
  simp only [showBits, Nat.add_assoc, Nat.reduceAdd, bits]
  omega

theorem lowestBit_eq_some_iff {byte : UInt8} {place : ℕ} :
    lowestBit byte = some place ↔
      place < 8 ∧ byte.toNat.testBit place = true ∧ ∀ below < place, byte.toNat.testBit below = false := by
  rw [lowestBit, List.find?_range_eq_some]
  simp [and_left_comm]

/-- The last byte before the end of an alignment shows where it begins. -/
theorem alignment_iff {index start : ℕ} :
    Alignment bytes start (8 * (index + 1)) ↔
      ∃ place, lowestBit (bytes index) = some place ∧ start = 8 * index + (7 - place) := by
  constructor
  · intro alignment
    have nonempty := alignment.nonempty
    have short := alignment.short
    obtain ⟨place, inside, rfl⟩ : ∃ place, place < 8 ∧ start = 8 * index + (7 - place) :=
      ⟨8 * index + 7 - start, by omega, by omega⟩
    refine ⟨place, lowestBit_eq_some_iff.mpr ⟨inside, ?_, fun below under => ?_⟩, rfl⟩
    · rw [← streamBit_of_place index inside]
      exact alignment.one
    · rw [← streamBit_of_place index (under.trans inside)]
      exact alignment.zeros _ (by omega) (by omega)
  · rintro ⟨place, found, rfl⟩
    obtain ⟨inside, one, zeros⟩ := lowestBit_eq_some_iff.mp found
    refine ⟨(streamBit_of_place index inside).trans one, fun position after before => ?_, by omega, by omega, by omega⟩
    obtain ⟨below, under, rfl⟩ : ∃ below, below < place ∧ position = 8 * index + (7 - below) :=
      ⟨8 * index + 7 - position, by omega, by omega⟩
    rw [streamBit_of_place index (under.trans inside)]
    exact zeros below under

/-- A byte without a bit that is set ends no alignment. -/
theorem lowestBit_eq_none_iff {byte : UInt8} : lowestBit byte = none ↔ byte = 0 := by
  rw [lowestBit, List.find?_eq_none]
  constructor
  · intro none
    apply UInt8.toNat_inj.mp
    apply Nat.eq_of_testBit_eq
    intro place
    rcases Nat.lt_or_ge place 8 with inside | outside
    · simpa using none place (List.mem_range.mpr inside)
    · rw [Nat.testBit_lt_two_pow (byte.toNat_lt.trans_le (Nat.pow_le_pow_right (by decide) outside))]
      simp
  · rintro rfl
    simp

end H618Vpu.Bits
