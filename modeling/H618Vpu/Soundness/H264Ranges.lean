import H618Vpu.Soundness.H264ParameterSets

/-! # The ranges of the latched controls

The memory of a new context is zero, which is no value of some controls. `v4l2_ctrl_handler_setup` calls
the handler of every control before the first job, so a streaming context has only registered values.
-/

namespace H618Vpu.H264

open Machine

/-- Every control is in range, latched or not. -/
structure State.Registered (s : State) : Prop extends s.InRange where
  all : ∀ ctx, s.context = some ctx → ∀ ctrl : Ctrl, ctrl.InRange (ctx.latched ctrl)

theorem Ctrl.mem_byId (ctrl : Ctrl) : ctrl ∈ Ctrl.byId := by cases ctrl <;> decide

/-- A handler latches its own control in range, and no control out of it. -/
theorem State.ctrlLatch_inRange {s : State} (ranges : s.InRange) (ctrl : Ctrl) {next : Context}
    (streaming : (s.ctrlLatch ctrl).context = some next) :
    ∃ ctx, s.context = some ctx ∧ ∀ other : Ctrl, other = ctrl ∨ other.InRange (ctx.latched other) →
      other.InRange (next.latched other) := by
  have latched (ctx : Context) (other : Ctrl) (before : other = ctrl ∨ other.InRange (ctx.latched other)) :
      other.InRange ((ctx.latch ctrl (s.cur ctrl)).latched other) := by
    rw [ctx.latch_latched]
    by_cases own : other = ctrl
    · subst own
      rw [Function.update_self]
      exact ranges.cur other
    · rw [Function.update_of_ne own]
      exact before.resolve_left own
  rw [State.ctrlLatch] at streaming
  split at streaming
  case h_1 none =>
    rw [none] at streaming
    cases streaming
  case h_2 ctx before =>
    refine ⟨ctx, before, fun other inRange => ?_⟩
    dsimp only at streaming
    split at streaming
    · simp only [State.setEntropyModeCavlc] at streaming
      split at streaming
      · obtain rfl := Option.some.inj streaming
        exact latched ctx other inRange
      · obtain rfl := Option.some.inj streaming
        exact Ctrl.inRange_update (ranges.cur .entropyMode) (latched ctx other inRange)
    · obtain rfl := Option.some.inj streaming
      exact latched ctx other inRange

/-- A sequence of handlers latches all its controls in range. -/
theorem State.handlers_inRange (ctrls : List Ctrl) {s : State} (ranges : s.InRange) {next : Context}
    (streaming : (ctrls.foldl State.ctrlPrepare s).context = some next) :
    ∃ ctx, s.context = some ctx ∧ ∀ other : Ctrl, other ∈ ctrls ∨ other.InRange (ctx.latched other) →
      other.InRange (next.latched other) := by
  induction ctrls generalizing s with
  | nil => exact ⟨next, streaming, fun other before => before.resolve_left List.not_mem_nil⟩
  | cons ctrl ctrls ih =>
    have latched := ranges.ctrlLatch ctrl
    obtain ⟨lowered, called, later⟩ := ih (latched.ctrlLower ctrl) streaming
    obtain ⟨middle, before, rfl⟩ := Option.map_eq_some_iff.mp called
    obtain ⟨ctx, before, own⟩ := State.ctrlLatch_inRange ranges ctrl before
    refine ⟨ctx, before, fun other inRange => later other ?_⟩
    rcases inRange with member | inRange
    · rcases List.mem_cons.mp member with rfl | rest
      · exact .inr (own other (.inl rfl))
      · exact .inl rest
    · exact .inr (own other (.inr inRange))

namespace State.Registered

variable {s : State}

theorem writeCtrl (registered : s.Registered) (ctrl : Ctrl) (value : ℤ) : (s.writeCtrl ctrl value).Registered := by
  refine ⟨registered.toInRange.writeCtrl ctrl value, fun after streaming other => ?_⟩
  rcases s.writeCtrl_spec ctrl value with refused | ⟨new, -, -, called⟩
  · rw [refused] at streaming
    exact registered.all after streaming other
  · rw [called] at streaming
    obtain ⟨ctx, before, latched⟩ := State.ctrlLatch_inRange registered.toInRange ctrl streaming
    exact latched other (.inr (registered.all ctx before other))

theorem setup (registered : s.Registered) (width height : ℕ) : (s.setup width height).Registered := by
  refine ⟨registered.toInRange.setup width height, fun after streaming other => ?_⟩
  let start : Context := { widthMbs := Math.divRoundUp width 16, heightMbs := Math.divRoundUp height 16 }
  have zeroed : ({ s with context := some start } : State).InRange := by
    refine ⟨registered.cur, registered.written, ?_⟩
    rintro ctx ⟨⟩
    exact Ctrl.zero_inRange
  obtain ⟨ctx, -, latched⟩ := State.handlers_inRange Ctrl.byId zeroed streaming
  exact latched other (.inl other.mem_byId)

theorem step {event : Event} {next : State} (registered : s.Registered) (taken : H264.step s event = some next) :
    next.Registered := by
  have ranges := registered.toInRange.step taken
  cases taken_of_step taken with
  | writeCtrl ctrl value => exact registered.writeCtrl ctrl value
  | writeDone | forceKeyFrame =>
    refine ⟨ranges, fun after streaming => ?_⟩
    obtain ⟨ctx, before, rfl⟩ := Option.map_eq_some_iff.mp streaming
    exact registered.all ctx before
  | streamOn width height => exact registered.setup width height
  | streamOff => exact ⟨ranges, fun after streaming => by cases streaming⟩
  | @jobPrepare ctx free phase streaming | @headerStep ctx job raised phase streaming =>
    refine ⟨ranges, ?_⟩
    rintro after ⟨⟩
    exact registered.all ctx streaming
  | @headerCase ctx job phase streaming =>
    refine ⟨ranges, fun after same => ?_⟩
    exact registered.all after ((s.headerCase_frame ctx job).2.2.symm.trans same)
  | setInput | formatConfigured | formatFailed | program | jobFinish =>
    exact ⟨ranges, registered.all⟩

theorem initial : State.Registered {} where
  cur := Ctrl.default_inRange
  written _ _ writing := by cases writing
  latched _ streaming := by cases streaming
  all _ streaming := by cases streaming

end State.Registered

end H618Vpu.H264
