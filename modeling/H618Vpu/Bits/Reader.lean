import Mathlib

/-! # Reading bits

A stream is a list of bits with the position of its first one. A reader takes a value from the front of a
stream or fails. A reader *reads* a value from some bits if it takes these bits and returns the value wherever
they stand, whatever comes after them; such facts compose as readers do.
-/

namespace H618Vpu.Bits

structure Stream where
  position : ℕ
  rest : List Bool
deriving DecidableEq, Repr

abbrev Reader (α : Type) := StateT Stream Option α

/-- The lowest bits of a value, the highest first. -/
def field (value : ℕ) : ℕ → List Bool
  | 0 => []
  | count + 1 => value.testBit count :: field value count

namespace Reader

variable {α : Type}

def bit : Reader Bool := fun stream =>
  match stream.rest with
  | [] => none
  | bit :: rest => some (bit, ⟨stream.position + 1, rest⟩)

/-- A number of so many bits. -/
def bits : ℕ → Reader ℕ
  | 0 => pure 0
  | count + 1 => do
      let high ← bit
      let low ← bits count
      pure (high.toNat * 2 ^ count + low)

/-- A value that a condition makes present. -/
def given (condition : Prop) [Decidable condition] (reader : Reader α) : Reader (Option α) :=
  if condition then some <$> reader else pure none

/-- A value that a flag before it makes present. -/
def optionally (reader : Reader α) : Reader (Option α) := do
  let flag ← bit
  given flag reader

/-- So many values. -/
def times (reader : Reader α) : ℕ → Reader (List α)
  | 0 => pure []
  | count + 1 => do
      let first ← reader
      let later ← times reader count
      pure (first :: later)

/-- Bits up to the first one that is set. -/
def leadingZeros : Reader ℕ := fun stream =>
  let zeros := (stream.rest.takeWhile (!·)).length
  match stream.rest.drop zeros with
  | [] => none
  | _ :: rest => some (zeros, ⟨stream.position + zeros + 1, rest⟩)

/-- Zero bits up to the next multiple of the unit. -/
def alignZeros (unit : ℕ) : Reader Unit := fun stream =>
  let count := (unit - stream.position % unit) % unit
  if stream.rest.take count = List.replicate count false then
    some ((), ⟨stream.position + count, stream.rest.drop count⟩)
  else none

end Reader

/-- The reader takes these bits and returns this value, wherever they stand. -/
def Reads {α : Type} (reader : Reader α) (bits : List Bool) (value : α) : Prop :=
  ∀ position rest, reader ⟨position, bits ++ rest⟩ = some (value, ⟨position + bits.length, rest⟩)

@[simp] theorem field_length (value count : ℕ) : (field value count).length = count := by
  induction count with
  | zero => rfl
  | succ count ih => rw [field, List.length_cons, ih]

/-- Higher bits do not matter. -/
theorem field_congr {value other count : ℕ} (same : ∀ i < count, value.testBit i = other.testBit i) :
    field value count = field other count := by
  induction count with
  | zero => rfl
  | succ count ih => rw [field, field, same count count.lt_succ_self, ih fun i below => same i (by omega)]

theorem field_mod (value : ℕ) {count bound : ℕ} (enough : count ≤ bound) :
    field (value % 2 ^ bound) count = field value count := by
  refine field_congr fun i below => ?_
  rw [Nat.testBit_mod_two_pow, decide_eq_true (below.trans_le enough), Bool.true_and]

/-- A field is its higher bits and its lower ones. -/
theorem field_append (value low high : ℕ) :
    field (value >>> low) high ++ field value low = field value (high + low) := by
  induction high with
  | zero => rw [Nat.zero_add]; rfl
  | succ high ih =>
    rw [Nat.add_right_comm, field, field, List.cons_append, ih, Nat.testBit_shiftRight, Nat.add_comm low]

theorem field_zero (count : ℕ) : field 0 count = List.replicate count false := by
  induction count with
  | zero => rfl
  | succ count ih => rw [field, ih, Nat.zero_testBit, List.replicate_succ]

/-- What follows reads on from where the first reader stopped. -/
theorem Reader.bind_eq {α β : Type} {first : Reader α} {stream rest : Stream} {value : α}
    (read : first stream = some (value, rest)) (next : α → Reader β) : (first >>= next) stream = next value rest := by
  change (first stream >>= fun result => next result.1 result.2) = _
  rw [read]
  rfl

namespace Reads

variable {α β : Type}

theorem then_eq {first : Reader α} {bits : List Bool} {value : α} (reads : Reads first bits value)
    (next : α → Reader β) (position : ℕ) (rest : List Bool) :
    (first >>= next) ⟨position, bits ++ rest⟩ = next value ⟨position + bits.length, rest⟩ :=
  Reader.bind_eq (reads position rest) next

/-- Nothing was read for the first value. -/
theorem skip_eq {first : Reader α} {value : α} (reads : Reads first [] value) (next : α → Reader β)
    (stream : Stream) : (first >>= next) stream = next value stream :=
  reads.then_eq next stream.position stream.rest

theorem pure (value : α) : Reads (pure value) [] value := fun _ _ => rfl

/-- Nothing is read for the first value. -/
theorem skip {first : Reader α} {next : α → Reader β} {bits : List Bool} {value : α} {result : β}
    (reads : Reads first [] value) (later : Reads (next value) bits result) : Reads (first >>= next) bits result :=
  fun position rest => (reads.skip_eq next _).trans (later position rest)

theorem bind {first : Reader α} {next : α → Reader β} {bits more : List Bool} {value : α} {result : β}
    (reads : Reads first bits value) (later : Reads (next value) more result) :
    Reads (first >>= next) (bits ++ more) result := by
  intro position rest
  rw [List.append_assoc, reads.then_eq, later, List.length_append, Nat.add_assoc]

/-- Everything was read; the value is made of it. -/
theorem last {first : Reader α} {bits : List Bool} {value : α} (reads : Reads first bits value) (make : α → β) :
    Reads (first >>= fun value => Pure.pure (make value)) bits (make value) := by
  have both : Reads (first >>= fun value => Pure.pure (make value)) (bits ++ []) (make value) :=
    reads.bind (.pure (make value))
  rwa [List.append_nil] at both

theorem map {first : Reader α} {bits : List Bool} {value : α} (reads : Reads first bits value) (make : α → β) :
    Reads (make <$> first) bits (make value) := by
  rw [map_eq_pure_bind]
  exact reads.last make

theorem bit (value : Bool) : Reads Reader.bit [value] value := fun _ _ => rfl

theorem bits {value count : ℕ} (small : value < 2 ^ count) :
    Reads (Reader.bits count) (field value count) value := by
  induction count generalizing value with
  | zero =>
    obtain rfl : value = 0 := by omega
    exact .pure 0
  | succ count ih =>
    have low : Reads (Reader.bits count) (field value count) (value % 2 ^ count) := by
      rw [← field_mod value le_rfl]
      exact ih (Nat.mod_lt _ (Nat.two_pow_pos _))
    have whole : (value.testBit count).toNat * 2 ^ count + value % 2 ^ count = value := by
      rw [Nat.toNat_testBit, Nat.mod_eq_of_lt (Nat.div_lt_of_lt_mul (by rwa [← Nat.pow_succ])), Nat.mul_comm]
      exact Nat.div_add_mod value _
    have read : Reads (Reader.bits (count + 1)) ([value.testBit count] ++ field value count)
        ((value.testBit count).toNat * 2 ^ count + value % 2 ^ count) := (Reads.bit _).bind (low.last _)
    rwa [whole] at read

/-- A value that is there under a condition. -/
theorem given {condition shown : Prop} [Decidable condition] [Decidable shown] {reader : Reader α} {bits : List Bool}
    {value : α} (same : condition ↔ shown) (reads : shown → Reads reader bits value) :
    Reads (Reader.given condition reader) (if shown then bits else []) (if shown then some value else none) := by
  simp only [Reader.given, same]
  split
  case isTrue holds => exact (reads holds).map some
  case isFalse => exact .pure none

theorem present {condition : Prop} [Decidable condition] {reader : Reader α} {bits : List Bool} {value : α}
    (holds : condition) (reads : Reads reader bits value) :
    Reads (Reader.given condition reader) bits (some value) := by
  rw [Reader.given, if_pos holds]
  exact reads.map some

theorem missing {condition : Prop} [Decidable condition] (fails : ¬ condition) (reader : Reader α) :
    Reads (Reader.given condition reader) [] none := by
  rw [Reader.given, if_neg fails]
  exact .pure none

/-- Nothing is read for a condition that holds. -/
theorem guarded {condition : Prop} [Decidable condition] (holds : condition) :
    Reads (guard condition : Reader Unit) [] () := by
  unfold guard
  rw [if_pos holds]
  exact .pure ()

/-- A value that is there, after its flag. -/
theorem shown {reader : Reader α} {bits : List Bool} {value : α} (reads : Reads reader bits value) :
    Reads (Reader.optionally reader) ([true] ++ bits) (some value) :=
  (Reads.bit true).bind (reads.map some)

/-- A value that is not there, by its flag. -/
theorem absent (reader : Reader α) : Reads (Reader.optionally reader) [false] none := fun _ _ => rfl

theorem leadingZeros (count : ℕ) : Reads Reader.leadingZeros (List.replicate count false ++ [true]) count := by
  intro position rest
  have zeros : ((List.replicate count false ++ true :: rest).takeWhile (!·)) = List.replicate count false := by
    rw [List.takeWhile_append_of_pos fun bit member => by rw [List.eq_of_mem_replicate member]; rfl]
    exact List.append_nil _
  simp only [Reader.leadingZeros, List.append_assoc, List.singleton_append, zeros, List.length_replicate,
    List.drop_left', List.length_append, List.length_singleton, Nat.add_assoc]

/-- The zeros up to the next multiple of the unit. -/
theorem alignZeros_eq (unit : ℕ) (position : ℕ) (rest : List Bool) :
    Reader.alignZeros unit ⟨position, List.replicate ((unit - position % unit) % unit) false ++ rest⟩ =
      some ((), ⟨position + (unit - position % unit) % unit, rest⟩) := by
  rw [Reader.alignZeros]
  simp only [List.take_left', List.length_replicate, if_true, List.drop_left']

end Reads

end H618Vpu.Bits
