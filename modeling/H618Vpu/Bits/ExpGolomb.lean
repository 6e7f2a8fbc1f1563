import H618Vpu.Bits.Reader

/-! # Exponential-Golomb codes

A number is coded as itself plus 1, with as many zeros before it as it has bits after the highest one. Signed
numbers are numbered 0, 1, -1, 2, -2 and so on.
-/

namespace H618Vpu.Bits

def expGolomb (value : ℕ) : List Bool := field (value + 1) (2 * (value + 1).log2 + 1)

/-- The place of a signed number: the positive ones are odd. -/
def signedIndex (value : ℤ) : ℕ := if 0 < value then (2 * value - 1).toNat else (-2 * value).toNat

def signedOf (index : ℕ) : ℤ := if index % 2 = 1 then (index + 1) / 2 else -(index / 2)

namespace Reader

def ue : Reader ℕ := do
  let zeros ← leadingZeros
  let low ← bits zeros
  pure (2 ^ zeros - 1 + low)

def se : Reader ℤ := do
  let index ← ue
  pure (signedOf index)

end Reader

theorem signedOf_signedIndex (value : ℤ) : signedOf (signedIndex value) = value := by
  unfold signedOf signedIndex
  split
  case isTrue positive => rw [if_pos (by omega)]; omega
  case isFalse => rw [if_neg (by omega)]; omega

/-- The code of a number: the zeros, the highest bit, and the bits after it. -/
theorem expGolomb_eq (value : ℕ) :
    expGolomb value = (List.replicate (value + 1).log2 false ++ [true]) ++ field (value + 1) (value + 1).log2 := by
  have high : (value + 1) >>> ((value + 1).log2 + 1) = 0 := by
    rw [Nat.shiftRight_eq_div_pow]
    exact Nat.div_eq_of_lt Nat.lt_log2_self
  have top : (value + 1).testBit (value + 1).log2 = true := by
    rw [Nat.testBit_log2]
    exact Nat.succ_ne_zero value
  rw [expGolomb, Nat.two_mul, Nat.add_assoc, ← field_append, high, field_zero, field, top, List.append_assoc]
  rfl

theorem Reads.ue (value : ℕ) : Reads Reader.ue (expGolomb value) value := by
  have below : 2 ^ (value + 1).log2 ≤ value + 1 := Nat.log2_self_le (Nat.succ_ne_zero value)
  have low : (value + 1) % 2 ^ (value + 1).log2 = value + 1 - 2 ^ (value + 1).log2 := by
    rw [Nat.mod_eq_sub_mod below]
    exact Nat.mod_eq_of_lt (by have := (value + 1).lt_log2_self; rw [Nat.pow_succ] at this; omega)
  have whole : 2 ^ (value + 1).log2 - 1 + (value + 1) % 2 ^ (value + 1).log2 = value := by
    have positive := Nat.two_pow_pos (value + 1).log2
    omega
  have rest : Reads (Reader.bits (value + 1).log2) (field (value + 1) (value + 1).log2)
      ((value + 1) % 2 ^ (value + 1).log2) := by
    rw [← field_mod (value + 1) le_rfl]
    exact .bits (Nat.mod_lt _ (Nat.two_pow_pos _))
  have read : Reads Reader.ue _ (2 ^ (value + 1).log2 - 1 + (value + 1) % 2 ^ (value + 1).log2) :=
    (Reads.leadingZeros _).bind (rest.last _)
  rwa [whole, ← expGolomb_eq] at read

theorem Reads.se (value : ℤ) : Reads Reader.se (expGolomb (signedIndex value)) value := by
  have read : Reads Reader.se (expGolomb (signedIndex value)) (signedOf (signedIndex value)) := (Reads.ue _).last _
  rwa [signedOf_signedIndex] at read

end H618Vpu.Bits
