import Mathlib

/-! # Two computations side by side

Two stateful computations are related when they take related states to related states and return related values.
The relation follows sequences, conditions and loops of the same shape; a value that only one side looks at is related
to anything.
-/

namespace H618Vpu.Machine

variable {τ υ α β γ δ : Type} {same : τ → υ → Prop} {values : α → β → Prop} {later : γ → δ → Prop}

/-- So many rounds, each with its number. -/
def rounds (body : ℕ → StateM τ Unit) : ℕ → StateM τ Unit
  | 0 => pure ()
  | count + 1 => do
      rounds body count
      body count

/-- So many values, each read by its number. -/
def collect (body : ℕ → StateM τ α) : ℕ → StateM τ (List α)
  | 0 => pure []
  | count + 1 => do
      let before ← collect body count
      let last ← body count
      pure (before ++ [last])

def Related (same : τ → υ → Prop) (values : α → β → Prop) (one : StateM τ α) (other : StateM υ β) : Prop :=
  ∀ s t, same s t → values (one.run s).1 (other.run t).1 ∧ same (one.run s).2 (other.run t).2

/-- Values that nobody compares. -/
abbrev Any (_ : α) (_ : β) : Prop := True

namespace Related

variable {one : StateM τ α} {other : StateM υ β}

theorem pure {a : α} {b : β} (agree : values a b) : Related same values (pure a) (pure b) :=
  fun _ _ states => ⟨agree, states⟩

theorem bind {next : α → StateM τ γ} {following : β → StateM υ δ} (first : Related same values one other)
    (rest : ∀ a b, values a b → Related same later (next a) (following b)) :
    Related same later (one >>= next) (other >>= following) := by
  intro s t states
  obtain ⟨agree, states⟩ := first s t states
  exact rest _ _ agree _ _ states

/-- A sequence in one side may be opened. -/
theorem assoc {first : StateM τ γ} {second : γ → StateM τ δ} {next : δ → StateM τ α}
    (related : Related same values (first >>= fun a => second a >>= next) other) :
    Related same values ((first >>= second) >>= next) other := by
  rwa [bind_assoc]

theorem mono {weaker : α → β → Prop} (related : Related same values one other)
    (weaken : ∀ a b, values a b → weaker a b) : Related same weaker one other :=
  fun s t states => (related s t states).imp_left (weaken _ _)

/-- The other side makes something of its value. -/
theorem returning {made : β → δ} {after : α → δ → Prop} (related : Related same values one other)
    (agree : ∀ a b, values a b → after a (made b)) : Related same after one (other >>= fun b => Pure.pure (made b)) :=
  fun s t states => (related s t states).imp_left (agree _ _)

/-- Conditions that agree select related computations. -/
theorem ite {p q : Prop} [Decidable p] [Decidable q] {one' : StateM τ α} {other' : StateM υ β} (agree : p ↔ q)
    (yes : Related same values one other) (no : Related same values one' other') :
    Related same values (if p then one else one') (if q then other else other') := by
  by_cases holds : p
  · rw [if_pos holds, if_pos (agree.mp holds)]
    exact yes
  · rw [if_neg holds, if_neg (holds ∘ agree.mpr)]
    exact no

/-- As many rounds as values. -/
theorem rounds {body : ℕ → StateM τ Unit} {reader : ℕ → StateM υ β}
    (each : ∀ i, Related same Any (body i) (reader i)) (count : ℕ) :
    Related same Any (rounds body count) (collect reader count) := by
  induction count with
  | zero => exact pure trivial
  | succ count ih => exact ih.bind fun _ _ _ => (each count).returning fun _ _ _ => trivial

end Related

end H618Vpu.Machine
