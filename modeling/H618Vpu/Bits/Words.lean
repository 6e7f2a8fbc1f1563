import Mathlib

/-! # Fields of a word

A register packs numbers side by side. A number below the next field is or-ed in as it would be added, so each
field is read back from the quotient and the remainder at its place.
-/

namespace H618Vpu.Bits

/-- The number in `width` bits of a word, the lowest of them at `offset`. -/
def wordField (word : UInt32) (offset width : ℕ) : ℕ := word.toNat / 2 ^ offset % 2 ^ width

variable {low high value amount : UInt32}

/-- A shift that loses no bit multiplies. -/
theorem toNat_shiftLeft (inside : amount.toNat < 32) (fits : value.toNat * 2 ^ amount.toNat < 2 ^ 32) :
    (value <<< amount).toNat = value.toNat * 2 ^ amount.toNat := by
  rw [UInt32.toNat_shiftLeft, Nat.mod_eq_of_lt inside, Nat.shiftLeft_eq, Nat.mod_eq_of_lt fits]

/-- A number below a shifted one is added to it. -/
theorem toNat_or_shiftLeft (below : low.toNat < 2 ^ amount.toNat) (inside : amount.toNat < 32)
    (fits : high.toNat * 2 ^ amount.toNat < 2 ^ 32) :
    (low ||| (high <<< amount)).toNat = low.toNat + high.toNat * 2 ^ amount.toNat := by
  rw [UInt32.toNat_or, toNat_shiftLeft inside fits, Nat.or_comm, ← Nat.shiftLeft_eq,
    ← Nat.shiftLeft_add_eq_or_of_lt below, Nat.add_comm]

theorem toNat_shiftLeft_or (below : low.toNat < 2 ^ amount.toNat) (inside : amount.toNat < 32)
    (fits : high.toNat * 2 ^ amount.toNat < 2 ^ 32) :
    ((high <<< amount) ||| low).toNat = low.toNat + high.toNat * 2 ^ amount.toNat := by
  rw [UInt32.or_comm, toNat_or_shiftLeft below inside fits]

/-- A shift to the right divides. -/
theorem toNat_ofNat_shiftRight {number distance : ℕ} (small : number < 2 ^ 32) (inside : distance < 32) :
    (UInt32.ofNat number >>> UInt32.ofNat distance).toNat = number / 2 ^ distance := by
  rw [UInt32.toNat_shiftRight, UInt32.toNat_ofNat', UInt32.toNat_ofNat', Nat.mod_eq_of_lt small,
    Nat.mod_eq_of_lt (inside.trans (by decide)), Nat.mod_eq_of_lt inside, Nat.shiftRight_eq_div_pow]

/-- The two halves of a word. -/
theorem wordField_halves (lowSmall : low.toNat < 2 ^ 16) (highSmall : high.toNat < 2 ^ 16) :
    wordField ((high <<< 16) ||| low) 0 16 = low.toNat ∧ wordField ((high <<< 16) ||| low) 16 16 = high.toNat := by
  have sum : ((high <<< 16) ||| low).toNat = low.toNat + high.toNat * 2 ^ 16 :=
    toNat_shiftLeft_or lowSmall (by decide) (by simp only [UInt32.reduceToNat]; omega)
  simp only [wordField, sum]
  omega

end H618Vpu.Bits
