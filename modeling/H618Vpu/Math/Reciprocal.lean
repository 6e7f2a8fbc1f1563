import Mathlib

/-! # Division by a rounded-up reciprocal

A division by a known divisor is a multiplication by its reciprocal, scaled up and rounded up. The quotient is exact
as long as the rounding, multiplied by the dividend, stays below the scale.
-/

namespace H618Vpu.Math

/-- The reciprocal of `d` at the scale `b`, rounded up. -/
def reciprocal (b d : ℕ) : ℕ := (b + (d - 1)) / d

/-- The product with the divisor exceeds the scale by less than the divisor. -/
theorem reciprocal_mul (b : ℕ) {d : ℕ} (positive : 0 < d) :
    b ≤ reciprocal b d * d ∧ reciprocal b d * d ≤ b + (d - 1) := by
  have remainder := Nat.mod_lt (b + (d - 1)) positive
  have split := Nat.div_add_mod' (b + (d - 1)) d
  rw [reciprocal]
  omega

theorem mul_reciprocal_div {b d n : ℕ} (positive : 0 < d) (small : n * (d - 1) < b) :
    n * reciprocal b d / b = n / d := by
  obtain ⟨enough, tight⟩ := reciprocal_mul b positive
  have quotient := Nat.div_add_mod' n d
  have remainder := Nat.mod_lt n positive
  apply Nat.div_eq_of_lt_le
  · have whole : n / d * b ≤ n / d * (reciprocal b d * d) := Nat.mul_le_mul_left _ enough
    have below : n / d * d * reciprocal b d ≤ n * reciprocal b d :=
      Nat.mul_le_mul_right _ (Nat.div_mul_le_self n d)
    calc n / d * b ≤ n / d * (reciprocal b d * d) := whole
      _ = n / d * d * reciprocal b d := by ring
      _ ≤ n * reciprocal b d := below
  · apply lt_of_mul_lt_mul_right (a := d) _ (Nat.zero_le d)
    have next : n + 1 ≤ (n / d + 1) * d := by
      rw [Nat.succ_mul]
      omega
    calc n * reciprocal b d * d = n * (reciprocal b d * d) := by ring
      _ ≤ n * (b + (d - 1)) := Nat.mul_le_mul_left _ tight
      _ = n * b + n * (d - 1) := by ring
      _ < n * b + b := Nat.add_lt_add_left small _
      _ = (n + 1) * b := by ring
      _ ≤ (n / d + 1) * d * b := Nat.mul_le_mul_right _ next
      _ = (n / d + 1) * b * d := by ring

end H618Vpu.Math
