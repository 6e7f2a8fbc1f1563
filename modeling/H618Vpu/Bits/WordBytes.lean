import H618Vpu.Bits.Words

/-! # The bytes of a word

A word is filled byte by byte, each or-ed in above those that are there. It is read back at the places of its bytes.
-/

namespace H618Vpu.Bits

/-- A byte of a word, the lowest one first. -/
def wordByte (word : UInt32) (place : ℕ) : UInt8 := UInt8.ofNat (wordField word (place * 8) 8)

/-- A byte or-ed into a word at a place. -/
def putByte (word : UInt32) (place : ℕ) (byte : UInt8) : UInt32 :=
  word ||| (byte.toUInt32 <<< UInt32.ofNat (place * 8))

variable {word : UInt32} {place : ℕ} {byte : UInt8}

/-- A word that is empty from a place on takes a byte there. -/
theorem toNat_putByte (inside : place < 4) (empty : word.toNat < 2 ^ (place * 8)) :
    (putByte word place byte).toNat = word.toNat + byte.toNat * 2 ^ (place * 8) := by
  have amount : (UInt32.ofNat (place * 8)).toNat = place * 8 := by
    rw [UInt32.toNat_ofNat']
    omega
  have small := byte.toNat_lt
  have value : byte.toUInt32.toNat = byte.toNat := UInt8.toNat_toUInt32 byte
  have fits : byte.toNat * 2 ^ (place * 8) < 2 ^ 32 :=
    calc byte.toNat * 2 ^ (place * 8) < 2 ^ 8 * 2 ^ (place * 8) := Nat.mul_lt_mul_of_pos_right small (by positivity)
      _ = 2 ^ (8 + place * 8) := (pow_add ..).symm
      _ ≤ 2 ^ 32 := Nat.pow_le_pow_right (by decide) (by omega)
  have sum : (putByte word place byte).toNat =
      word.toNat + byte.toUInt32.toNat * 2 ^ (UInt32.ofNat (place * 8)).toNat :=
    toNat_or_shiftLeft (by rwa [amount]) (by rw [amount]; omega) (by rwa [amount, value])
  rwa [amount, value] at sum

/-- Then it is empty from the next place on. -/
theorem putByte_lt (inside : place < 4) (empty : word.toNat < 2 ^ (place * 8)) :
    (putByte word place byte).toNat < 2 ^ ((place + 1) * 8) := by
  have small := byte.toNat_lt
  have next : 2 ^ ((place + 1) * 8) = 2 ^ 8 * 2 ^ (place * 8) := by
    rw [← pow_add]
    congr 1
    omega
  rw [toNat_putByte inside empty, next]
  nlinarith [Nat.mul_le_mul_right (2 ^ (place * 8)) (show byte.toNat ≤ 2 ^ 8 - 1 by omega)]

theorem wordByte_putByte_self (inside : place < 4) (empty : word.toNat < 2 ^ (place * 8)) :
    wordByte (putByte word place byte) place = byte := by
  have small := byte.toNat_lt
  rw [wordByte, wordField, toNat_putByte inside empty, Nat.add_mul_div_right _ _ (by positivity),
    Nat.div_eq_of_lt empty, Nat.zero_add, Nat.mod_eq_of_lt small, UInt8.ofNat_toNat]

theorem wordByte_putByte_of_lt (inside : place < 4) (empty : word.toNat < 2 ^ (place * 8)) {before : ℕ}
    (below : before < place) : wordByte (putByte word place byte) before = wordByte word before := by
  obtain ⟨distance, rfl⟩ := Nat.exists_eq_add_of_lt below
  have above : byte.toNat * 2 ^ ((before + distance + 1) * 8) =
      byte.toNat * 2 ^ (distance * 8) * 2 ^ 8 * 2 ^ (before * 8) := by
    rw [mul_assoc, mul_assoc, ← pow_add, ← pow_add]
    congr 2
    omega
  rw [wordByte, wordByte, wordField, wordField, toNat_putByte inside empty, above,
    Nat.add_mul_div_right _ _ (by positivity), Nat.add_mul_mod_self_right]

/-- Four bytes in one word. -/
def ofBytes (first second third fourth : UInt8) : UInt32 :=
  putByte (putByte (putByte first.toUInt32 1 second) 2 third) 3 fourth

section OfBytes

variable (first second third fourth : UInt8)

private theorem first_lt : first.toUInt32.toNat < 2 ^ (1 * 8) :=
  (UInt8.toNat_toUInt32 first).trans_lt first.toNat_lt

private theorem second_lt : (putByte first.toUInt32 1 second).toNat < 2 ^ (2 * 8) :=
  putByte_lt (by decide) (first_lt first)

private theorem third_lt : (putByte (putByte first.toUInt32 1 second) 2 third).toNat < 2 ^ (3 * 8) :=
  putByte_lt (by decide) (second_lt first second)

theorem wordByte_ofBytes_zero : wordByte (ofBytes first second third fourth) 0 = first := by
  rw [ofBytes, wordByte_putByte_of_lt (by decide) (third_lt ..) (by decide),
    wordByte_putByte_of_lt (by decide) (second_lt ..) (by decide),
    wordByte_putByte_of_lt (by decide) (first_lt ..) (by decide), wordByte, wordField]
  have small := first.toNat_lt
  simp [UInt8.toNat_toUInt32]

theorem wordByte_ofBytes_one : wordByte (ofBytes first second third fourth) 1 = second := by
  rw [ofBytes, wordByte_putByte_of_lt (by decide) (third_lt ..) (by decide),
    wordByte_putByte_of_lt (by decide) (second_lt ..) (by decide), wordByte_putByte_self (by decide) (first_lt ..)]

theorem wordByte_ofBytes_two : wordByte (ofBytes first second third fourth) 2 = third := by
  rw [ofBytes, wordByte_putByte_of_lt (by decide) (third_lt ..) (by decide),
    wordByte_putByte_self (by decide) (second_lt ..)]

theorem wordByte_ofBytes_three : wordByte (ofBytes first second third fourth) 3 = fourth := by
  rw [ofBytes, wordByte_putByte_self (by decide) (third_lt ..)]

end OfBytes

end H618Vpu.Bits
