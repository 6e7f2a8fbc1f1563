import Mathlib

/-! # Rounding up to a multiple

The kernel's `ALIGN` and `DIV_ROUND_UP` on natural numbers.
-/

namespace H618Vpu.Math

/-- The quotient rounded up. -/
def divRoundUp (n d : ℕ) : ℕ := (n + d - 1) / d

/-- The least multiple of `a` that is not below `n`. -/
def align (n a : ℕ) : ℕ := (n + a - 1) / a * a

theorem dvd_align (n a : ℕ) : a ∣ align n a := Nat.dvd_mul_left a _

theorem le_align (n : ℕ) {a : ℕ} (positive : 0 < a) : n ≤ align n a := by
  have remainder := Nat.mod_lt (n + a - 1) positive
  have split := Nat.div_add_mod' (n + a - 1) a
  rw [align]
  omega

theorem align_le {n m a : ℕ} (positive : 0 < a) (bounded : n ≤ m) (multiple : a ∣ m) : align n a ≤ m := by
  obtain ⟨q, rfl⟩ := multiple
  have quotient : (n + a - 1) / a ≤ q := by
    apply Nat.le_of_lt_succ
    rw [Nat.div_lt_iff_lt_mul positive, Nat.succ_mul, mul_comm]
    omega
  rw [align, mul_comm a q]
  exact Nat.mul_le_mul_right a quotient

end H618Vpu.Math
