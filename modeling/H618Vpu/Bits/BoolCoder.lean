import Mathlib

/-! # Boolean coders

A boolean decoder takes one bool after another from its state, each of a probability that the reader gives. A number is
read as so many bools of one probability, the highest first. The reads are kept beside the state in the order they are
made.
-/

namespace H618Vpu.Bits

/-- A decoder: the next bool of a probability, and the state behind it. -/
structure BoolCoder (σ : Type) where
  next : UInt8 → σ → Bool × σ

/-- A read of so many bools. -/
structure CodedRead where
  bits : ℕ
  prob : UInt8
deriving DecidableEq, Repr

/-- The state of a decoder, and the reads that led to it. -/
structure CodedStream (σ : Type) where
  state : σ
  reads : List CodedRead := []

namespace BoolCoder

variable {σ : Type} (coder : BoolCoder σ)

/-- The number in so many bools. -/
def number (prob : UInt8) : ℕ → σ → ℕ × σ
  | 0, state => (0, state)
  | bits + 1, state =>
      let (high, state) := coder.next prob state
      let (low, state) := number prob bits state
      (high.toNat * 2 ^ bits + low, state)

def read (bits : ℕ) (prob : UInt8) : StateM (CodedStream σ) ℕ := fun stream =>
  let (value, state) := coder.number prob bits stream.state
  (value, ⟨state, stream.reads ++ [⟨bits, prob⟩]⟩)

theorem number_lt (prob : UInt8) (bits : ℕ) (state : σ) : (coder.number prob bits state).1 < 2 ^ bits := by
  induction bits generalizing state with
  | zero => exact Nat.one_pos
  | succ bits ih =>
    have low := ih (coder.next prob state).2
    have high := Bool.toNat_le (coder.next prob state).1
    have bound : (coder.next prob state).1.toNat * 2 ^ bits ≤ 1 * 2 ^ bits := Nat.mul_le_mul_right _ high
    change (coder.next prob state).1.toNat * 2 ^ bits + (coder.number prob bits (coder.next prob state).2).1 < _
    rw [pow_succ]
    omega

/-- A number read has no more bits than were asked for. -/
theorem read_lt (bits : ℕ) (prob : UInt8) (stream : CodedStream σ) : ((coder.read bits prob).run stream).1 < 2 ^ bits :=
  coder.number_lt prob bits stream.state

end BoolCoder

end H618Vpu.Bits
