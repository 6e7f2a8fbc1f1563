import H618Vpu.Bits.WordBytes
import H618Vpu.Machine.Port

/-! # Bytes behind a data port

The words behind a port have four bytes each, the lowest first. Tables are written as words and read by bytes.
-/

namespace H618Vpu.Machine

open Bits

/-- A byte of the memory behind a port. -/
def sramByte (sram : Port UInt32) (address : ℕ) : UInt8 := wordByte (sram.word (address / 4 * 4)) (address % 4)

theorem sramByte_add (sram : Port UInt32) {base : ℕ} (aligned : base % 4 = 0) (i : ℕ) :
    sramByte sram (base + i) = wordByte (sram.word (base + 4 * (i / 4))) (i % 4) := by
  have quotient : (base + i) / 4 * 4 = base + 4 * (i / 4) := by omega
  have remainder : (base + i) % 4 = i % 4 := by omega
  rw [sramByte, quotient, remainder]

/-- Bytes as the words they are copied as. -/
def bytesWords (bytes : List UInt8) : List UInt32 :=
  (List.range ((bytes.length + 3) / 4)).map fun i =>
    ofBytes (bytes.getD (4 * i) 0) (bytes.getD (4 * i + 1) 0) (bytes.getD (4 * i + 2) 0) (bytes.getD (4 * i + 3) 0)

theorem length_bytesWords (bytes : List UInt8) : (bytesWords bytes).length = (bytes.length + 3) / 4 := by
  simp [bytesWords]

/-- Bytes are read where they were copied to. -/
theorem sramByte_of_bytesWords {sram : Port UInt32} {base : ℕ} {bytes : List UInt8} (aligned : base % 4 = 0)
    (written : ∀ index value, (bytesWords bytes)[index]? = some value → sram.word (base + 4 * index) = value)
    {i : ℕ} (inside : i < bytes.length) : sramByte sram (base + i) = bytes[i] := by
  have part : i / 4 < (bytes.length + 3) / 4 := by omega
  have word := written (i / 4) _ (by rw [bytesWords, List.getElem?_map, List.getElem?_range part, Option.map_some])
  have place : i = 4 * (i / 4) + i % 4 := by omega
  have small : i % 4 < 4 := Nat.mod_lt _ (by decide)
  have byte : bytes[i] = bytes.getD (4 * (i / 4) + i % 4) 0 := by
    rw [← place, List.getD_eq_getElem?_getD, List.getElem?_eq_getElem inside, Option.getD_some]
  rw [sramByte_add sram aligned, word, byte]
  generalize i % 4 = r at small
  match r, small with
  | 0, _ => exact wordByte_ofBytes_zero ..
  | 1, _ => exact wordByte_ofBytes_one ..
  | 2, _ => exact wordByte_ofBytes_two ..
  | 3, _ => exact wordByte_ofBytes_three ..

/-- A word of one of several parts that are equally long. -/
theorem getElem?_flatMap_range {α : Type} {parts : ℕ → List α} {size : ℕ} (sized : ∀ i, (parts i).length = size)
    {count i r : ℕ} (part : i < count) (inside : r < size) :
    ((List.range count).flatMap parts)[i * size + r]? = (parts i)[r]? := by
  have length (count : ℕ) : ((List.range count).flatMap parts).length = count * size := by
    simp [List.length_flatMap, sized]
  induction count with
  | zero => exact absurd part (Nat.not_lt_zero i)
  | succ count ih =>
    rw [List.range_succ, List.flatMap_append, List.flatMap_singleton]
    rcases Nat.lt_or_eq_of_le (Nat.le_of_lt_succ part) with earlier | rfl
    · have below : i * size + r < count * size := by
        calc i * size + r < i * size + size := Nat.add_lt_add_left inside _
          _ = (i + 1) * size := (Nat.succ_mul ..).symm
          _ ≤ count * size := Nat.mul_le_mul_right _ earlier
      rw [List.getElem?_append_left (by rwa [length]), ih earlier]
    · rw [List.getElem?_append_right (by rw [length]; exact Nat.le_add_right ..), length, Nat.add_sub_cancel_left]

end H618Vpu.Machine
