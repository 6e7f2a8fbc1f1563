import H618Vpu.Soundness.H264ParameterSets

/-! # CABAC and the profiles without it

A write of the entropy mode is checked against the profile, and the handler of the profile takes CABAC back. Both work
on the value a control had before the write, so what is latched can be CABAC with a baseline profile although the
controls never are. The steps that bring the two together are written down here; without them no parameter set and no
slice does.
-/

namespace H618Vpu.H264

open Machine

/-- The SPS in force has the (constrained) baseline profile. -/
def baselineInForce (log : List Item) : Bool :=
  match lastSps log with
  | some sps => sps.profileIdc = 66
  | none => false

/-- No PPS and no slice has CABAC while a baseline profile is in force. -/
def CabacFits : List Item → Prop
  | [] => True
  | .pps pps :: older => (baselineInForce older → pps.entropyCodingModeFlag = 0) ∧ CabacFits older
  | .slice _ job :: older => (baselineInForce older → job.entropyCodingModeFlag = 0) ∧ CabacFits older
  | _ :: older => CabacFits older

instance CabacFits.decidable : ∀ log : List Item, Decidable (CabacFits log)
  | [] => inferInstanceAs (Decidable True)
  | .pps pps :: older =>
      haveI := CabacFits.decidable older
      inferInstanceAs (Decidable ((baselineInForce older → pps.entropyCodingModeFlag = 0) ∧ CabacFits older))
  | .slice _ job :: older =>
      haveI := CabacFits.decidable older
      inferInstanceAs (Decidable ((baselineInForce older → job.entropyCodingModeFlag = 0) ∧ CabacFits older))
  | .sps _ :: older | .program _ :: older | .finish _ :: older => CabacFits.decidable older

/-- The write gets to the handler of the control. -/
def State.calls (s : State) (ctrl : Ctrl) (value : ℤ) : Bool :=
  match ctrl.validateNew value with
  | none => false
  | some new => s.ctrlValidate ctrl new && decide (new ≠ s.cur ctrl)

/-- A handler that is called, and the start of a stream, latch a baseline profile only with CAVLC and CABAC only with
another profile. They latch what the controls have before the write. -/
def LatchedApart (s : State) : Event → Prop
  | .writeCtrl .profile value =>
      match s.context with
      | some ctx => s.calls .profile value → profileIdc (s.cur .profile) = 66 →
          s.cur .entropyMode ≠ entropyModeCabac ∧ ctx.latched .entropyMode ≠ entropyModeCabac
      | none => True
  | .writeCtrl .entropyMode value =>
      match s.context with
      | some ctx => s.calls .entropyMode value → profileIdc (ctx.latched .profile) = 66 →
          s.cur .entropyMode ≠ entropyModeCabac
      | none => True
  | .streamOn _ _ => profileIdc (s.cur .profile) = 66 → s.cur .entropyMode ≠ entropyModeCabac
  | _ => True

instance (s : State) (event : Event) : Decidable (LatchedApart s event) :=
  match event with
  | .writeCtrl ctrl _ => by
    cases ctrl <;> first
      | exact instDecidableTrue
      | (dsimp only [LatchedApart]; exact match s.context with
          | some _ => inferInstance
          | none => instDecidableTrue)
  | .streamOn _ _ => inferInstanceAs (Decidable (_ → _))
  | .writeDone | .forceKeyFrame | .setInput _ | .streamOff | .jobPrepare | .formatConfigure _
  | .headerCase | .headerStep | .program | .jobFinish _ => instDecidableTrue

/-- A context that has CABAC has no baseline profile. -/
def Context.Apart (ctx : Context) : Prop :=
  profileIdc (ctx.latched .profile) = 66 → ctx.latched .entropyMode ≠ entropyModeCabac

namespace State

variable (s : State)

theorem profile_ne_entropyMode : Ctrl.profile ≠ Ctrl.entropyMode := by decide

/-- The profile stays what it is, and the entropy mode does or becomes CAVLC. -/
theorem ctrlLatch_cur (ctrl : Ctrl) : (s.ctrlLatch ctrl).cur .profile = s.cur .profile ∧
    ((s.ctrlLatch ctrl).cur .entropyMode = s.cur .entropyMode ∨
      (s.ctrlLatch ctrl).cur .entropyMode = entropyModeCavlc) := by
  rw [ctrlLatch]
  split
  · exact ⟨rfl, .inl rfl⟩
  · dsimp only
    split
    · rw [setEntropyModeCavlc]
      split
      · exact ⟨rfl, .inl rfl⟩
      · constructor
        · change Function.update s.cur .entropyMode entropyModeCavlc .profile = _
          exact Function.update_of_ne profile_ne_entropyMode ..
        · right
          change Function.update s.cur .entropyMode entropyModeCavlc .entropyMode = _
          exact Function.update_self ..
    · exact ⟨rfl, .inl rfl⟩

/-- A handler latches its own control as it was before; the one of the profile can latch the entropy mode too. -/
theorem ctrlLatch_modes (ctrl : Ctrl) {next : Context} (called : (s.ctrlLatch ctrl).context = some next) :
    ∃ ctx, s.context = some ctx ∧
      next.latched .profile = (if ctrl = .profile then s.cur .profile else ctx.latched .profile) ∧
      (next.latched .entropyMode = (if ctrl = .entropyMode then s.cur .entropyMode else ctx.latched .entropyMode) ∨
        ctrl = .profile ∧ next.latched .entropyMode = s.cur .entropyMode) := by
  have latch (ctx : Context) (other : Ctrl) : (ctx.latch ctrl (s.cur ctrl)).latched other =
      if ctrl = other then s.cur other else ctx.latched other := by
    rw [Context.latch_latched, Function.update_apply]
    by_cases same : ctrl = other
    · rw [if_pos same, if_pos same.symm, same]
    · rw [if_neg same, if_neg (Ne.symm same)]
  rw [ctrlLatch] at called
  split at called
  case h_1 none =>
    rw [none] at called
    cases called
  case h_2 ctx streaming =>
    refine ⟨ctx, streaming, ?_⟩
    dsimp only at called
    split at called
    case isTrue nested =>
      rw [setEntropyModeCavlc] at called
      split at called
      · obtain rfl := Option.some.inj called
        exact ⟨latch ctx .profile, .inl (latch ctx .entropyMode)⟩
      · obtain rfl := Option.some.inj called
        constructor
        · rw [← latch ctx .profile]
          change Function.update (ctx.latch ctrl (s.cur ctrl)).latched .entropyMode (s.cur .entropyMode) .profile = _
          exact Function.update_of_ne profile_ne_entropyMode ..
        · right
          refine ⟨nested.1, ?_⟩
          exact Function.update_self Ctrl.entropyMode (s.cur .entropyMode) (ctx.latch ctrl (s.cur ctrl)).latched
    case isFalse =>
      obtain rfl := Option.some.inj called
      exact ⟨latch ctx .profile, .inl (latch ctx .entropyMode)⟩

/-- A write does nothing, or its handler is called. -/
theorem writeCtrl_calls (ctrl : Ctrl) (value : ℤ) : s.writeCtrl ctrl value = s ∨
    s.calls ctrl value ∧ (s.writeCtrl ctrl value).context = (s.ctrlLatch ctrl).context := by
  rw [writeCtrl, calls]
  cases ctrl.validateNew value with
  | none => exact .inl rfl
  | some new =>
    dsimp only
    split
    · exact .inl rfl
    case isFalse called =>
      simp only [not_or, Bool.not_eq_true, Bool.not_eq_false'] at called
      exact .inr ⟨by simp [called], rfl⟩

variable {s}

/-- A guarded write keeps the two apart. -/
theorem writeCtrl_apart (apart : ∀ ctx, s.context = some ctx → ctx.Apart) {ctrl : Ctrl} {value : ℤ}
    (guard : LatchedApart s (.writeCtrl ctrl value)) :
    ∀ ctx, (s.writeCtrl ctrl value).context = some ctx → ctx.Apart := by
  intro next streaming
  rcases s.writeCtrl_calls ctrl value with same | ⟨calls, called⟩
  · rw [same] at streaming
    exact apart next streaming
  · rw [called] at streaming
    obtain ⟨ctx, before, profile, entropyMode⟩ := s.ctrlLatch_modes ctrl streaming
    intro baseline
    by_cases first : ctrl = .profile
    · subst first
      rw [if_pos rfl] at profile
      rw [if_neg profile_ne_entropyMode] at entropyMode
      rw [LatchedApart, before] at guard
      obtain ⟨cur, latched⟩ := guard calls (profile ▸ baseline)
      rcases entropyMode with kept | ⟨-, nested⟩
      · rwa [kept]
      · rwa [nested]
    · rw [if_neg first] at profile
      have own := entropyMode.resolve_right fun nested => first nested.1
      rw [profile] at baseline
      rw [own]
      split
      case isTrue second =>
        subst second
        rw [LatchedApart, before] at guard
        exact guard calls baseline
      case isFalse => exact apart ctx before baseline

/-- Handlers latch no CABAC where neither the control nor the context has it. -/
theorem handlers_cavlc (ctrls : List Ctrl) (s : State) (cur : s.cur .entropyMode ≠ entropyModeCabac)
    (latched : ∀ ctx, s.context = some ctx → ctx.latched .entropyMode ≠ entropyModeCabac) :
    ∀ ctx, (ctrls.foldl ctrlPrepare s).context = some ctx → ctx.latched .entropyMode ≠ entropyModeCabac := by
  induction ctrls generalizing s with
  | nil => exact latched
  | cons ctrl ctrls ih =>
    refine ih (s.ctrlPrepare ctrl) ?_ ?_
    · rcases (s.ctrlLatch_cur ctrl).2 with same | cavlc
      · exact same.trans_ne cur
      · exact cavlc.trans_ne (by decide)
    · intro next streaming
      obtain ⟨middle, called, rfl⟩ := Option.map_eq_some_iff.mp streaming
      obtain ⟨ctx, before, -, entropyMode⟩ := s.ctrlLatch_modes ctrl called
      change middle.latched .entropyMode ≠ entropyModeCabac
      rcases entropyMode with own | ⟨-, nested⟩
      · rw [own]
        split
        · exact cur
        · exact latched ctx before
      · rwa [nested]

/-- After the handler of the profile the context has the profile of the control. -/
theorem handlers_profile (ctrls : List Ctrl) (s : State)
    (latched : .profile ∈ ctrls ∨ ∀ ctx, s.context = some ctx → ctx.latched .profile = s.cur .profile) :
    ∀ ctx, (ctrls.foldl ctrlPrepare s).context = some ctx → ctx.latched .profile = s.cur .profile := by
  induction ctrls generalizing s with
  | nil => exact latched.resolve_left (List.not_mem_nil)
  | cons ctrl ctrls ih =>
    have cur : (s.ctrlPrepare ctrl).cur .profile = s.cur .profile := (s.ctrlLatch_cur ctrl).1
    rw [← cur]
    refine ih (s.ctrlPrepare ctrl) ?_
    by_cases later : .profile ∈ ctrls
    · exact .inl later
    · right
      intro next streaming
      obtain ⟨middle, called, rfl⟩ := Option.map_eq_some_iff.mp streaming
      obtain ⟨ctx, before, profile, -⟩ := s.ctrlLatch_modes ctrl called
      rw [cur]
      refine profile.trans ?_
      split
      case isTrue => rfl
      case isFalse other =>
        refine latched.resolve_left (fun member => ?_) ctx before
        rcases List.mem_cons.mp member with same | member
        · exact other same.symm
        · exact later member

theorem setup_apart {width height : ℕ} (guard : LatchedApart s (.streamOn width height)) :
    ∀ ctx, (s.setup width height).context = some ctx → ctx.Apart := by
  let start : Context := { widthMbs := Math.divRoundUp width 16, heightMbs := Math.divRoundUp height 16 }
  have handlers : s.setup width height = Ctrl.byId.foldl ctrlPrepare { s with context := some start } := rfl
  have zero : ∀ ctx, some start = some ctx → ctx.latched .entropyMode ≠ entropyModeCabac := by
    rintro ctx same
    obtain rfl := Option.some.inj same
    change (0 : ℤ) ≠ entropyModeCabac
    decide
  intro ctx streaming baseline
  rw [handlers] at streaming
  have profile : ctx.latched .profile = s.cur .profile :=
    handlers_profile Ctrl.byId { s with context := some start } (.inl (by decide)) ctx streaming
  rw [profile] at baseline
  exact handlers_cavlc Ctrl.byId { s with context := some start } (guard baseline) zero ctx streaming

end State

/-- The values of the SPS are held, a job in its headers has what the context has, and neither the context nor the log
has CABAC with a baseline profile. -/
structure State.Apart (s : State) : Prop where
  spsValues : Tracked.spsValues.Held s
  fresh : ∀ ctx job, s.context = some ctx → s.phase.headerJob = some job →
    job.spsValues = ctx.spsValues ∧ job.entropyCodingModeFlag = ctx.entropyFlag
  latched : ∀ ctx, s.context = some ctx → ctx.Apart
  fits : CabacFits s.log

namespace State.Apart

variable {s next : State} {event : Event}

theorem spsValues_kept (apart : s.Apart) (event : Event) : Tracked.spsValues.Kept s event := by
  cases event with
  | writeCtrl ctrl value => exact Tracked.spsValues_kept s ctrl value
  | headerStep =>
    intro ctx job next streaming phase _
    exact (apart.fresh ctx job streaming (by rw [phase]; rfl)).1
  | _ => trivial

theorem fresh_step (apart : s.Apart) (sequential : Sequential s event) (taken : Taken s event next) :
    ∀ ctx job, next.context = some ctx → next.phase.headerJob = some job →
      job.spsValues = ctx.spsValues ∧ job.entropyCodingModeFlag = ctx.entropyFlag := by
  refine sampled_step ?_ ?_ apart.fresh sequential taken
  · rintro ctx after job latched ⟨values, entropyMode⟩
    rw [Context.spsValues, Context.entropyFlag, latched]
    exact ⟨values, entropyMode⟩
  · intro ctx
    exact ⟨rfl, Tracked.entropyMode.sampled_prepare ctx⟩

/-- Only handlers change what is latched. -/
theorem latched_step (apart : s.Apart) (guard : LatchedApart s event) (taken : Taken s event next) :
    ∀ ctx, next.context = some ctx → ctx.Apart := by
  intro after streaming
  cases taken with
  | writeCtrl ctrl value => exact State.writeCtrl_apart apart.latched guard after streaming
  | streamOn width height => exact State.setup_apart guard after streaming
  | writeDone | forceKeyFrame =>
    obtain ⟨ctx, before, rfl⟩ := Option.map_eq_some_iff.mp streaming
    exact apart.latched ctx before
  | streamOff => cases streaming
  | @jobPrepare ctx free phase before =>
    obtain rfl := Option.some.inj streaming
    exact apart.latched ctx before
  | @headerCase ctx job =>
    rw [(s.headerCase_frame ctx job).2.2] at streaming
    exact apart.latched after streaming
  | @headerStep ctx job step phase before =>
    obtain rfl := Option.some.inj streaming
    exact apart.latched ctx before
  | setInput | formatConfigured | formatFailed | program | jobFinish => exact apart.latched after streaming

/-- With the SPS emitted, a job in its headers has the profile that is in force. -/
theorem job_fits (apart : s.Apart) {ctx : Context} {job : Job} (streaming : s.context = some ctx)
    (phase : s.phase = .headers job) (emitted : Step.sps.rank < ctx.step.rank) (baseline : baselineInForce s.log) :
    job.entropyCodingModeFlag = 0 := by
  have current : s.phase.headerJob = some job := by
    rw [phase]
    rfl
  obtain ⟨sps, last, values⟩ := Option.map_eq_some_iff.mp (apart.spsValues.carried ctx job streaming current emitted)
  obtain ⟨sampled, entropyMode⟩ := apart.fresh ctx job streaming current
  have profile : sps.profileIdc = profileIdc (ctx.latched .profile) := congrArg Prod.fst (values.trans sampled)
  rw [baselineInForce, last] at baseline
  have cavlc := apart.latched ctx streaming (profile ▸ of_decide_eq_true baseline)
  rw [entropyMode, Context.entropyFlag, if_neg cavlc]

theorem fits_step (apart : s.Apart) (taken : Taken s event next) : CabacFits next.log := by
  cases taken with
  | writeCtrl ctrl value =>
    rw [s.writeCtrl_log]
    exact apart.fits
  | streamOn width height =>
    rw [(s.setup_spec width height).2.1]
    exact apart.fits
  | @headerCase ctx job phase streaming =>
    have emitted := apart.job_fits streaming phase
    simp only [State.headerCase]
    cases step : ctx.step with
    | start | sps => exact apart.fits
    | pps | slice =>
      rw [step] at emitted
      exact ⟨emitted (by decide), apart.fits⟩
  | _ => exact apart.fits

theorem step (apart : s.Apart) (guard : Sequential s event ∧ LatchedApart s event)
    (taken : H264.step s event = some next) : next.Apart where
  spsValues := apart.spsValues.step (apart.spsValues_kept event) taken
  fresh := apart.fresh_step guard.1 (taken_of_step taken)
  latched := apart.latched_step guard.2 (taken_of_step taken)
  fits := apart.fits_step (taken_of_step taken)

theorem initial : State.Apart {} where
  spsValues := .initial
  fresh _ _ streaming := by cases streaming
  latched _ streaming := by cases streaming
  fits := trivial

end State.Apart

/-- With control writes between jobs only, of which none latches CABAC together with a baseline profile, and no stream
started with both, no PPS and no slice has CABAC while a baseline profile is in force. -/
theorem cabac_fits_of_latched_apart (events : List Event) (final : State)
    (guarded : Guarded step (fun s event => Sequential s event ∧ LatchedApart s event) {} events)
    (reached : run step {} events = some final) : CabacFits final.log :=
  (guarded.run_preserves State.Apart State.Apart.step .initial reached).fits

/-- A stream with the main profile and CABAC, and one with the baseline profile after both controls were written. -/
def profileChanged : List Event :=
  write .entropyMode 1 ++ [.streamOn 1280 720] ++ firstHeaders ++ lastHeader ++ [.streamOff] ++ write .entropyMode 0 ++
    write .profile 0 ++ [.streamOn 1280 720] ++ firstHeaders ++ lastHeader

/-- The handler of the profile takes CABAC back in the control but latches it in the context. -/
def cabacTakenBack : List Event :=
  write .entropyMode 1 ++ write .profile 0 ++ [.streamOn 1280 720] ++ firstHeaders ++ lastHeader

theorem cabac_fits_profile_changed :
    ∃ final, run step {} profileChanged = some final ∧ final.log.length = 10 ∧ CabacFits final.log :=
  ⟨_, rfl, rfl, cabac_fits_of_latched_apart profileChanged _ (by decide) rfl⟩

theorem cabac_not_always_fits :
    ¬ ∀ (events : List Event) (final : State), Guarded step Sequential {} events →
      run step {} events = some final → CabacFits final.log := by
  intro always
  have fits := always cabacTakenBack _ (by decide) rfl
  revert fits
  decide

end H618Vpu.H264
