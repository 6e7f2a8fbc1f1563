import Mathlib

/-! # Runs of a partial step function over event tapes

A component is a state type, an event type and `step : σ → ε → Option σ`; `none` says that the
event is not enabled. All nondeterminism (what user space calls, what the hardware answers, which
thread moves next) is carried by the events, so a run is an ordinary fold. An invariant is proved
once for a step and transported to every run; a *guarded* tape is one whose every event meets a
condition in the state where it is taken, and only those steps then have to keep the invariant.
-/

namespace H618Vpu.Machine

variable {σ ε : Type*}

/-- Take the events of a tape one after the other; `none` as soon as one is not enabled. -/
def run (step : σ → ε → Option σ) : σ → List ε → Option σ
  | state, [] => some state
  | state, event :: rest => (step state event).bind fun next => run step next rest

/-- Each event of the tape meets `guard` in the state where it is taken. -/
def Guarded (step : σ → ε → Option σ) (guard : σ → ε → Prop) : σ → List ε → Prop
  | _, [] => True
  | state, event :: rest =>
      guard state event ∧ ∀ next, step state event = some next → Guarded step guard next rest

variable {step : σ → ε → Option σ} {guard : σ → ε → Prop}

/-- Whether a tape is guarded is found by running it. -/
instance Guarded.decidable [∀ state event, Decidable (guard state event)] :
    ∀ (state : σ) (events : List ε), Decidable (Guarded step guard state events)
  | _, [] => .isTrue trivial
  | state, event :: rest =>
      haveI : Decidable (∀ next, step state event = some next → Guarded step guard next rest) :=
        match step state event with
        | none => .isTrue fun _ taken => nomatch taken
        | some next =>
            haveI := Guarded.decidable next rest
            decidable_of_iff (Guarded step guard next rest)
              ⟨fun guarded _ taken => Option.some.inj taken ▸ guarded, fun guarded => guarded next rfl⟩
      inferInstanceAs (Decidable (_ ∧ _))

theorem run_cons_iff {state final : σ} {event : ε} {rest : List ε} :
    run step state (event :: rest) = some final ↔
      ∃ next, step state event = some next ∧ run step next rest = some final :=
  Option.bind_eq_some_iff

theorem run_append {state final : σ} {first second : List ε} :
    run step state (first ++ second) = some final ↔
      ∃ middle, run step state first = some middle ∧ run step middle second = some final := by
  induction first generalizing state with
  | nil => exact ⟨fun reached => ⟨state, rfl, reached⟩, fun ⟨_, same, reached⟩ => Option.some.inj same ▸ reached⟩
  | cons event rest ih =>
    constructor
    · intro reached
      obtain ⟨next, taken, reached⟩ := run_cons_iff.mp reached
      obtain ⟨middle, before, after⟩ := ih.mp reached
      exact ⟨middle, run_cons_iff.mpr ⟨next, taken, before⟩, after⟩
    · rintro ⟨middle, before, after⟩
      obtain ⟨next, taken, before⟩ := run_cons_iff.mp before
      exact run_cons_iff.mpr ⟨next, taken, ih.mpr ⟨middle, before, after⟩⟩

theorem Guarded.of_append {state : σ} {first second : List ε} (guarded : Guarded step guard state (first ++ second)) :
    Guarded step guard state first ∧
      ∀ middle, run step state first = some middle → Guarded step guard middle second := by
  induction first generalizing state with
  | nil => exact ⟨trivial, fun _ same => Option.some.inj same ▸ guarded⟩
  | cons event rest ih =>
    refine ⟨⟨guarded.1, fun next taken => (ih (guarded.2 next taken)).1⟩, fun middle reached => ?_⟩
    obtain ⟨next, taken, reached⟩ := run_cons_iff.mp reached
    exact (ih (guarded.2 next taken)).2 middle reached

/-- A tape is guarded from every state when its events meet the condition in every state. -/
theorem Guarded.of_forall {events : List ε} (always : ∀ event ∈ events, ∀ state, guard state event) (state : σ) :
    Guarded step guard state events := by
  induction events generalizing state with
  | nil => trivial
  | cons event rest ih =>
    have later : ∀ event ∈ rest, ∀ state, guard state event := fun event member =>
      always event (List.mem_cons_of_mem _ member)
    exact ⟨always event List.mem_cons_self state, fun next _ => ih later next⟩

/-- The induction rule for guarded runs: what every guarded step keeps, a guarded run keeps. -/
theorem Guarded.run_preserves (invariant : σ → Prop)
    (preserved : ∀ {state event next}, invariant state → guard state event →
      step state event = some next → invariant next)
    {state final : σ} {events : List ε} (initial : invariant state)
    (guarded : Guarded step guard state events) (reached : run step state events = some final) :
    invariant final := by
  induction events generalizing state with
  | nil => exact Option.some.inj reached ▸ initial
  | cons event rest ih =>
    obtain ⟨next, taken, reached⟩ := run_cons_iff.mp reached
    exact ih (preserved initial guarded.1 taken) (guarded.2 next taken) reached

/-- The induction rule for all runs: what every step keeps, a run keeps. -/
theorem run_preserves (invariant : σ → Prop)
    (preserved : ∀ {state event next}, invariant state → step state event = some next → invariant next)
    {state final : σ} {events : List ε} (initial : invariant state)
    (reached : run step state events = some final) : invariant final := by
  induction events generalizing state with
  | nil => exact Option.some.inj reached ▸ initial
  | cons event rest ih =>
    obtain ⟨next, taken, reached⟩ := run_cons_iff.mp reached
    exact ih (preserved initial taken) reached

end H618Vpu.Machine
