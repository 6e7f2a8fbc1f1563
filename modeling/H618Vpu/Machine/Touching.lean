import Mathlib

/-! # Computations that touch cells

Code over arrays returns a value and touches cells on the way. A computation notes the cells in the order in which
it touches them, whether it reads or writes; that all of them are allowed is then a property of the computation, and
follows its structure through sequences, loops and searches.
-/

namespace H618Vpu.Machine

universe u v

/-- A value, and the cells that were touched for it. -/
structure Touching (ι : Type u) (α : Type v) where
  value : α
  touched : List ι

namespace Touching

variable {ι : Type u} {α β σ : Type v} {allowed : ι → Prop}

instance : Monad (Touching ι) where
  pure value := ⟨value, []⟩
  bind first next := ⟨(next first.value).value, first.touched ++ (next first.value).touched⟩

/-- The value of a cell. -/
def touch (cell : ι) (value : α) : Touching ι α := ⟨value, [cell]⟩

/-- So many rounds, numbered from zero. -/
def loop (body : ℕ → σ → Touching ι σ) (state : σ) : ℕ → Touching ι σ
  | 0 => pure state
  | rounds + 1 => do
      let before ← loop body state rounds
      body rounds before

/-- Tests up to the first one that succeeds. -/
def any (test : ℕ → Touching ι Bool) : ℕ → Touching ι Bool
  | 0 => pure false
  | rounds + 1 => do
      let found ← any test rounds
      if found then pure true else test rounds

/-- No cell is touched that is not allowed. -/
def Within (allowed : ι → Prop) (computation : Touching ι α) : Prop := ∀ cell ∈ computation.touched, allowed cell

@[simp] theorem value_pure (value : α) : (pure value : Touching ι α).value = value := rfl

@[simp] theorem value_touch (cell : ι) (value : α) : (touch cell value).value = value := rfl

@[simp] theorem value_bind (first : Touching ι α) (next : α → Touching ι β) :
    (first >>= next).value = (next first.value).value := rfl

/-- The rest of a computation gets the value that was touched. -/
theorem value_touch_bind (cell : ι) (value : α) (next : α → Touching ι β) :
    (touch cell value >>= next).value = (next value).value := rfl

@[simp] theorem within_pure (value : α) : Within allowed (pure value : Touching ι α) := by
  intro cell member
  cases member

@[simp] theorem within_touch (cell : ι) (value : α) : Within allowed (touch cell value) ↔ allowed cell :=
  List.forall_mem_singleton

@[simp] theorem within_bind (first : Touching ι α) (next : α → Touching ι β) :
    Within allowed (first >>= next) ↔ Within allowed first ∧ Within allowed (next first.value) :=
  List.forall_mem_append

theorem within_touch_bind (cell : ι) (value : α) (next : α → Touching ι β) :
    Within allowed (touch cell value >>= next) ↔ allowed cell ∧ Within allowed (next value) := List.forall_mem_cons

/-- What holds before the first round and is kept by each round holds after the last. -/
theorem loop_invariant (body : ℕ → σ → Touching ι σ) (state : σ) (rounds : ℕ) (invariant : ℕ → σ → Prop)
    (start : invariant 0 state)
    (kept : ∀ k < rounds, ∀ before, invariant k before → invariant (k + 1) (body k before).value) :
    invariant rounds (loop body state rounds).value := by
  induction rounds with
  | zero => exact start
  | succ rounds ih =>
    have before := ih fun k below => kept k (below.trans (Nat.lt_succ_self rounds))
    exact kept rounds (Nat.lt_succ_self rounds) _ before

/-- The value of a loop is folded from the values of its rounds. -/
theorem value_loop (body : ℕ → σ → Touching ι σ) (state : σ) (rounds : ℕ) :
    (loop body state rounds).value = (List.range rounds).foldl (fun before k => (body k before).value) state := by
  induction rounds with
  | zero => rfl
  | succ rounds ih => rw [loop, value_bind, ih, List.range_succ, List.foldl_append, List.foldl_cons, List.foldl_nil]

/-- A loop whose rounds each append some values appends them all. -/
theorem value_loop_append {ν : Type v} {body : ℕ → List ν → Touching ι (List ν)} {values : ℕ → List ν}
    (appends : ∀ k before, (body k before).value = before ++ values k) (start : List ν) (rounds : ℕ) :
    (loop body start rounds).value = start ++ (List.range rounds).flatMap values := by
  induction rounds with
  | zero => exact (List.append_nil start).symm
  | succ rounds ih =>
    rw [loop, value_bind, ih, appends, List.range_succ, List.flatMap_append, List.flatMap_singleton, List.append_assoc]

/-- A loop stays within bounds when each round does in the state it starts from. -/
theorem within_loop (body : ℕ → σ → Touching ι σ) (state : σ) (rounds : ℕ) :
    Within allowed (loop body state rounds) ↔ ∀ k < rounds, Within allowed (body k (loop body state k).value) := by
  induction rounds with
  | zero => exact iff_of_true (within_pure state) fun _ none => absurd none (Nat.not_lt_zero _)
  | succ rounds ih => rw [loop, within_bind, ih, Nat.forall_lt_succ_right]

/-- A search fails when all its tests do. -/
theorem value_any (test : ℕ → Touching ι Bool) (rounds : ℕ) :
    (any test rounds).value = false ↔ ∀ k < rounds, (test k).value = false := by
  induction rounds with
  | zero => exact iff_of_true rfl fun _ none => absurd none (Nat.not_lt_zero _)
  | succ rounds ih =>
    rw [any, value_bind, Nat.forall_lt_succ_right, ← ih]
    cases (any test rounds).value <;> simp

/-- A search stays within bounds when each test does that comes after failed ones only. -/
theorem within_any (test : ℕ → Touching ι Bool) (rounds : ℕ) :
    Within allowed (any test rounds) ↔
      ∀ k < rounds, (∀ j < k, (test j).value = false) → Within allowed (test k) := by
  induction rounds with
  | zero => exact iff_of_true (within_pure false) fun _ none => absurd none (Nat.not_lt_zero _)
  | succ rounds ih =>
    rw [any, within_bind, ih, Nat.forall_lt_succ_right, ← value_any test rounds]
    cases (any test rounds).value <;> simp

end Touching

end H618Vpu.Machine
