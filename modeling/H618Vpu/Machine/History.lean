import H618Vpu.Machine.Run

/-! # A history beside the state

Some conditions on a run speak of what happened earlier and left no trace in the state. A history is
written by the steps and never read by them, so it can be put beside any state without changing a run.
-/

namespace H618Vpu.Machine

variable {σ ε τ : Type*}

/-- A state and what has been written down so far. -/
structure Recorded (σ τ : Type*) where
  state : σ
  history : τ

variable {step : σ → ε → Option σ} {write : σ → ε → σ → τ → τ}

/-- Take a step and write it down. -/
def record (step : σ → ε → Option σ) (write : σ → ε → σ → τ → τ) (s : Recorded σ τ) (event : ε) :
    Option (Recorded σ τ) :=
  (step s.state event).map fun next => ⟨next, write s.state event next s.history⟩

theorem record_iff {s next : Recorded σ τ} {event : ε} :
    record step write s event = some next ↔
      ∃ state, step s.state event = some state ∧ ⟨state, write s.state event state s.history⟩ = next :=
  Option.map_eq_some_iff

/-- Every run can be written down. -/
theorem run_record {s : Recorded σ τ} {final : σ} {events : List ε}
    (reached : run step s.state events = some final) :
    ∃ history, run (record step write) s events = some ⟨final, history⟩ := by
  induction events generalizing s with
  | nil => exact ⟨s.history, congrArg some (congrArg (Recorded.mk · s.history) (Option.some.inj reached))⟩
  | cons event rest ih =>
    obtain ⟨next, taken, reached⟩ := run_cons_iff.mp reached
    let written : Recorded σ τ := ⟨next, write s.state event next s.history⟩
    obtain ⟨history, written_run⟩ := ih (s := written) reached
    exact ⟨history, run_cons_iff.mpr ⟨written, record_iff.mpr ⟨next, taken, rfl⟩, written_run⟩⟩

/-- The induction rule for runs that are guarded by what happened before. -/
theorem Recorded.run_preserves {guard : Recorded σ τ → ε → Prop} (invariant : Recorded σ τ → Prop)
    (preserved : ∀ {s event next}, invariant s → guard s event → step s.state event = some next →
      invariant ⟨next, write s.state event next s.history⟩)
    {s : Recorded σ τ} {final : σ} {events : List ε} (initial : invariant s)
    (guarded : Guarded (record step write) guard s events) (reached : run step s.state events = some final) :
    ∃ history, invariant ⟨final, history⟩ := by
  have kept : ∀ {s event next}, invariant s → guard s event → record step write s event = some next →
      invariant next := by
    intro s event next before allowed taken
    obtain ⟨state, stepped, rfl⟩ := record_iff.mp taken
    exact preserved before allowed stepped
  obtain ⟨history, written_run⟩ := run_record reached
  exact ⟨history, guarded.run_preserves invariant kept initial written_run⟩

end H618Vpu.Machine
