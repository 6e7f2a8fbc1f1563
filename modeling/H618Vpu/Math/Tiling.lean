import Mathlib

/-! # Intervals between the bounds of a monotone sequence

Consecutive bounds cut a range into intervals. When the range is cut at `i * n / k`, no interval is empty as long
as there are no more intervals than elements. Intervals of given lengths have the sums of the lengths as bounds, and
the interval of an element is found from the left.
-/

namespace H618Vpu.Math

/-- Every element below a bound lies between two consecutive ones. -/
theorem exists_between {bound : ℕ → ℕ} (zero : bound 0 = 0) {x count : ℕ} (below : x < bound count) :
    ∃ i < count, bound i ≤ x ∧ x < bound (i + 1) := by
  induction count with
  | zero =>
    rw [zero] at below
    exact absurd below (Nat.not_lt_zero x)
  | succ count ih =>
    by_cases earlier : x < bound count
    · obtain ⟨i, small, between⟩ := ih earlier
      exact ⟨i, small.trans (Nat.lt_succ_self count), between⟩
    · exact ⟨count, Nat.lt_succ_self count, Nat.not_lt.mp earlier, below⟩

/-- The intervals do not overlap. -/
theorem between_unique {bound : ℕ → ℕ} (monotone : Monotone bound) {x i j : ℕ}
    (first : bound i ≤ x ∧ x < bound (i + 1)) (second : bound j ≤ x ∧ x < bound (j + 1)) : i = j := by
  by_contra different
  rcases Nat.lt_or_gt_of_ne different with before | after
  · have order : bound (i + 1) ≤ bound j := monotone (Nat.succ_le_of_lt before)
    omega
  · have order : bound (j + 1) ≤ bound i := monotone (Nat.succ_le_of_lt after)
    omega

/-- The `i`th of the bounds that cut `n` elements into `k` intervals. -/
def cut (n k i : ℕ) : ℕ := i * n / k

theorem cut_zero (n k : ℕ) : cut n k 0 = 0 := by rw [cut, Nat.zero_mul, Nat.zero_div]

theorem cut_self (n : ℕ) {k : ℕ} (positive : 0 < k) : cut n k k = n := Nat.mul_div_cancel_left n positive

theorem cut_monotone (n k : ℕ) : Monotone (cut n k) := fun _ _ less =>
  Nat.div_le_div_right (Nat.mul_le_mul_right n less)

/-- With no more intervals than elements, each interval has one. -/
theorem cut_lt_succ {n k : ℕ} (positive : 0 < k) (few : k ≤ n) (i : ℕ) : cut n k i < cut n k (i + 1) := by
  have next : (i * n + k) / k = i * n / k + 1 := Nat.add_div_right _ positive
  have more : (i * n + k) / k ≤ (i + 1) * n / k := by
    apply Nat.div_le_div_right
    rw [Nat.succ_mul]
    exact Nat.add_le_add_left few _
  rw [cut, cut]
  omega

/-- The bounds of consecutive intervals of the given lengths. -/
def boundOf (length : ℕ → ℕ) (i : ℕ) : ℕ := ∑ j ∈ Finset.range i, length j

theorem boundOf_zero (length : ℕ → ℕ) : boundOf length 0 = 0 := Finset.sum_range_zero _

theorem boundOf_succ (length : ℕ → ℕ) (i : ℕ) : boundOf length (i + 1) = boundOf length i + length i :=
  Finset.sum_range_succ ..

theorem boundOf_monotone (length : ℕ → ℕ) : Monotone (boundOf length) :=
  monotone_nat_of_le_succ fun i => by
    rw [boundOf_succ]
    exact Nat.le_add_right ..

/-- How many of the first intervals lie before an element. -/
def passed (bound : ℕ → ℕ) (count x : ℕ) : ℕ := Nat.findGreatest (fun i => bound i ≤ x) count

/-- A search from the left that stops at the first bound beyond the element has passed the intervals before it. -/
theorem passed_eq {bound : ℕ → ℕ} (monotone : Monotone bound) {count x i : ℕ} (inside : i ≤ count)
    (reached : bound i ≤ x) (stopped : i < count → x < bound (i + 1)) : passed bound count x = i := by
  refine Nat.findGreatest_eq_iff.mpr ⟨inside, fun _ => reached, fun j later bounded beyond => ?_⟩
  have order : bound (i + 1) ≤ bound j := monotone (Nat.succ_le_of_lt later)
  have before := stopped (later.trans_le bounded)
  omega

/-- After the last cell of a row comes the first of the next. -/
theorem succ_of_last {n cols : ℕ} (last : n % cols + 1 = cols) :
    (n + 1) % cols = 0 ∧ (n + 1) / cols = n / cols + 1 := by
  have split := Nat.div_add_mod n cols
  have next : n + 1 = cols * (n / cols + 1) := by rw [Nat.mul_succ]; omega
  have positive : 0 < cols := last ▸ Nat.succ_pos _
  rw [next, Nat.mul_mod_right, Nat.mul_div_cancel_left _ positive]
  exact ⟨rfl, rfl⟩

theorem succ_of_inner {n cols : ℕ} (inner : n % cols + 1 < cols) :
    (n + 1) % cols = n % cols + 1 ∧ (n + 1) / cols = n / cols := by
  have split := Nat.div_add_mod n cols
  have next : n + 1 = cols * (n / cols) + (n % cols + 1) := by omega
  have positive : 0 < cols := (Nat.succ_pos _).trans inner
  constructor
  · conv_lhs => rw [next, Nat.mul_add_mod, Nat.mod_eq_of_lt inner]
  · conv_lhs => rw [next, Nat.mul_add_div positive, Nat.div_eq_of_lt inner, Nat.add_zero]

/-- Cells numbered row by row. -/
theorem map_range_mul {α : Type} (f : ℕ → ℕ → α) {cols : ℕ} (positive : 0 < cols) (rows : ℕ) :
    ((List.range (cols * rows)).map fun number => f (number / cols) (number % cols)) =
      (List.range rows).flatMap fun row => (List.range cols).map fun col => f row col := by
  induction rows with
  | zero => rfl
  | succ rows ih =>
    have last : (((List.range cols).map (cols * rows + ·)).map fun number => f (number / cols) (number % cols)) =
        (List.range cols).map fun col => f rows col := by
      rw [List.map_map]
      apply List.map_congr_left
      intro col inside
      have small := List.mem_range.mp inside
      simp only [Function.comp_apply, Nat.mul_add_div positive, Nat.div_eq_of_lt small, Nat.add_zero,
        Nat.mul_add_mod, Nat.mod_eq_of_lt small]
    rw [Nat.mul_succ, List.range_add, List.map_append, ih, last, List.range_succ, List.flatMap_append,
      List.flatMap_singleton]

/-- Numbers of an interval, from the lowest to the highest. -/
def Ascends (low high : ℕ) (numbers : List ℕ) : Prop :=
  numbers.Pairwise (· < ·) ∧ ∀ x ∈ numbers, low ≤ x ∧ x < high

namespace Ascends

variable {low middle high : ℕ} {first second : List ℕ}

theorem nodup (ascends : Ascends low high first) : first.Nodup := ascends.1.imp Nat.ne_of_lt

theorem nil : Ascends low high [] := ⟨.nil, nofun⟩

theorem range' (start length : ℕ) : Ascends start (start + length) (List.range' start length) :=
  ⟨List.pairwise_lt_range', fun _ member => List.mem_range'_1.mp member⟩

theorem mono {below above : ℕ} (ascends : Ascends low high first) (lower : below ≤ low) (higher : high ≤ above) :
    Ascends below above first :=
  ⟨ascends.1, fun x member => (ascends.2 x member).imp lower.trans fun less => less.trans_le higher⟩

theorem append (ascends : Ascends low middle first) (follows : Ascends middle high second) (lower : low ≤ middle)
    (higher : middle ≤ high) : Ascends low high (first ++ second) := by
  refine ⟨List.pairwise_append.mpr ⟨ascends.1, follows.1, fun x before y after => ?_⟩, fun x member => ?_⟩
  · exact (ascends.2 x before).2.trans_le (follows.2 y after).1
  · rcases List.mem_append.mp member with before | after
    · exact (ascends.mono le_rfl higher).2 x before
    · exact (follows.mono lower le_rfl).2 x after

/-- Blocks of one size, one after the other. -/
theorem flatMap {block : ℕ → List ℕ} (low size count : ℕ)
    (each : ∀ i < count, Ascends (low + i * size) (low + (i + 1) * size) (block i)) :
    Ascends low (low + count * size) ((List.range count).flatMap block) := by
  induction count with
  | zero => exact nil
  | succ count ih =>
    have before := ih fun i below => each i (below.trans (Nat.lt_succ_self count))
    have last := each count (Nat.lt_succ_self count)
    rw [List.range_succ, List.flatMap_append, List.flatMap_singleton]
    exact before.append last (Nat.le_add_right ..) (Nat.add_le_add_left (Nat.mul_le_mul_right size (Nat.le_succ _)) _)

end Ascends

end H618Vpu.Math
