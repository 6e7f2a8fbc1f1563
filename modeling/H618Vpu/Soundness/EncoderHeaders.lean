import H618Vpu.Soundness.EncoderGeometry
import H618Vpu.Soundness.H264Headers

/-! # Headers in every run

A context that a file can have while it streams is coherent: its setup leaves the constants and the macroblocks
of a picture format, which has an admitted size, and the jobs keep the counters under their limits. A job that
was sampled from it is in range. So whatever a file does, the headers of its jobs are read back.
-/

namespace H618Vpu.H264

open Machine

variable {s : State}

theorem Context.Counted.of_counters {ctx after : Context} (counted : ctx.Counted)
    (same : after.counters = ctx.counters) : after.Counted := by
  have fields : ctx.counters.Counted := { counted with }
  rw [← same] at fields
  exact { fields with }

/-- A job is sampled with counters under their limits, and leaves such counters. -/
theorem Context.Coherent.prepare {ctx : Context} (coherent : ctx.Coherent) : ctx.jobPrepare.1.Counted := by
  obtain ⟨-, frameNum, lsb⟩ := Context.jobPrepare_counts coherent.eightBits
  have chosen (due : Prop) [Decidable due] (frameType : FrameType) :
      0 ≤ (if due then ctx.jobQp frameType else ctx.qpInit) ∧
        (if due then ctx.jobQp frameType else ctx.qpInit) ≤ 51 := by
    split
    · exact ctx.jobQp_inRange (fun ctrl _ => coherent.ranges ctrl) frameType
    · exact coherent.qpInit
  refine ⟨coherent.eightBits, ?_, ?_, ?_, coherent.widthMbs, coherent.heightMbs⟩
  · rw [frameNum]
    exact Nat.mod_lt _ (by decide)
  · rw [lsb]
    exact Nat.mod_lt _ (by decide)
  · exact chosen _ _

/-- The controls are registered, the context is counted, and the job is one of such a context. -/
structure State.Prepared (s : State) : Prop where
  registered : s.Registered
  counted : ∀ ctx, s.context = some ctx → ctx.Counted
  coded : ∀ job, s.phase.job = some job → job.Coded

namespace State.Prepared

theorem coherent (prepared : s.Prepared) {ctx : Context} (streaming : s.context = some ctx) : ctx.Coherent where
  toCounted := prepared.counted ctx streaming
  ranges := prepared.registered.all ctx streaming

/-- The start of a stream with a picture of some size. -/
def Sized (event : Event) : Prop :=
  ∀ width height, event = .streamOn width height →
    (1 ≤ Math.divRoundUp width 16 ∧ Math.divRoundUp width 16 * 16 < 2 ^ 32) ∧
      1 ≤ Math.divRoundUp height 16 ∧ Math.divRoundUp height 16 * 16 < 2 ^ 32

theorem step {event : Event} {next : State} (prepared : s.Prepared) (sized : Sized event)
    (taken : H264.step s event = some next) : next.Prepared := by
  have registered := prepared.registered.step taken
  cases taken_of_step taken with
  | writeCtrl ctrl value =>
    refine ⟨registered, fun after streaming => ?_, ?_⟩
    · obtain ⟨ctx, before, same, -⟩ := s.writeCtrl_contextWritten ctrl value after streaming
      exact (prepared.counted ctx before).of_counters same
    · rw [s.writeCtrl_phase]
      exact prepared.coded
  | writeDone =>
    refine ⟨registered, fun after streaming => ?_, prepared.coded⟩
    obtain ⟨ctx, before, same, -⟩ := s.writeDone_contextWritten _ _ after streaming
    exact (prepared.counted ctx before).of_counters same
  | forceKeyFrame =>
    refine ⟨registered, fun after streaming => ?_, prepared.coded⟩
    obtain ⟨ctx, before, rfl⟩ := Option.map_eq_some_iff.mp streaming
    exact { prepared.counted ctx before with }
  | setInput => exact ⟨registered, prepared.counted, prepared.coded⟩
  | streamOn width height free phase =>
    refine ⟨registered, fun after streaming => ?_, ?_⟩
    · obtain ⟨ctx, started, counters⟩ := s.setup_counters width height
      obtain rfl := Option.some.inj (started.symm.trans streaming)
      obtain ⟨widthMbs, heightMbs⟩ := sized width height rfl
      have start : Context.Counted { widthMbs := Math.divRoundUp width 16, heightMbs := Math.divRoundUp height 16 } :=
        ⟨⟨rfl, rfl, rfl⟩, Nat.two_pow_pos 8, Nat.two_pow_pos 8, (by decide : (0 : ℤ) ≤ 0 ∧ (0 : ℤ) ≤ 51), widthMbs,
          heightMbs⟩
      exact start.of_counters counters
    · rw [(s.setup_spec width height).1, phase]
      rintro _ ⟨⟩
  | streamOff => exact ⟨registered, by rintro _ ⟨⟩, prepared.coded⟩
  | @jobPrepare ctx free phase streaming =>
    refine ⟨registered, ?_, ?_⟩
    · rintro after ⟨⟩
      exact (prepared.coherent streaming).prepare
    · rintro job ⟨⟩
      exact (prepared.coherent streaming).job
  | formatConfigured phase =>
    refine ⟨registered, prepared.counted, fun job same => prepared.coded job ?_⟩
    rw [phase]
    exact same
  | @headerCase ctx job phase streaming =>
    refine ⟨registered, fun after same => ?_, fun other same => prepared.coded other ?_⟩
    · exact prepared.counted after ((s.headerCase_frame ctx job).2.2.symm.trans same)
    · rw [← same, phase, State.headerCase]
      cases ctx.step <;> rfl
  | @headerStep ctx job raised phase streaming =>
    refine ⟨registered, ?_, fun other same => prepared.coded other ?_⟩
    · rintro after ⟨⟩
      exact { prepared.counted ctx streaming with }
    · rw [phase]
      exact same
  | program phase =>
    refine ⟨registered, prepared.counted, fun job same => prepared.coded job ?_⟩
    rw [phase]
    exact same
  | formatFailed | jobFinish => exact ⟨registered, prepared.counted, by rintro _ ⟨⟩⟩

end State.Prepared

end H618Vpu.H264

namespace H618Vpu.Encoder

open Formats (BufferType PixFormat)
open Machine Math

/-- The picture format has an admitted size, and the encoder is prepared. -/
structure State.Prepared (s : State) : Prop where
  role : s.node.proc.role = .encoder
  admitted : ∃ engine : Formats.Engine, engine.frmsize.Admits s.node.formatPicture.width s.node.formatPicture.height
  file : s.file.Prepared

/-- A stream starts with at least one macroblock each way. -/
theorem divRoundUp_sized {size : ℕ} (bounds : 16 ≤ size ∧ size ≤ 4096) :
    1 ≤ divRoundUp size 16 ∧ divRoundUp size 16 * 16 < 2 ^ 32 := by
  unfold divRoundUp
  omega

namespace State.Prepared

variable {s : State}

/-- The input of a file does not matter. -/
theorem input (prepared : s.Prepared) (input : H264.Input) : { s.file with input }.Prepared :=
  { prepared.file with registered := { prepared.file.registered with } }

/-- The formats stay. -/
theorem frame {next : State} (prepared : s.Prepared) (kept : Formats.FormatsKept s.node next.node)
    (file : next.file.Prepared) : next.Prepared where
  role := (congrArg Formats.Proc.role kept.proc).trans prepared.role
  admitted := by
    rw [kept.formatPicture]
    exact prepared.admitted
  file := file

theorem step {event : Event} {next : State} (prepared : s.Prepared) (stepped : Encoder.step s event = some next) :
    next.Prepared := by
  cases taken_of_step stepped with
  | sFmt type request =>
    obtain ⟨⟨proc, -, -⟩, -, size⟩ := Formats.sFmt_encoder prepared.role type request
    refine ⟨(congrArg Formats.Proc.role proc).trans prepared.role, ?_, prepared.input _⟩
    obtain same | ⟨-, clamped⟩ := size
    · rw [withNode, same]
      exact prepared.admitted
    · obtain ⟨width, height⟩ := Prod.mk.inj clamped
      rw [withNode, width, height]
      exact ⟨s.node.engine, s.node.engine.clamped_admitted ..⟩
  | queue _ kept => exact prepared.frame kept (prepared.input _)
  | memory _ kept => exact prepared.frame kept (prepared.input _)
  | started _ kept _ start =>
    obtain ⟨engine, admitted⟩ := prepared.admitted
    obtain ⟨width, height⟩ := Formats.Engine.admitted_bounds admitted
    refine prepared.frame kept (prepared.file.step ?_ start)
    rintro _ _ ⟨⟩
    exact ⟨divRoundUp_sized width, divRoundUp_sized height⟩
  | stopped _ kept _ stop => exact prepared.frame kept (prepared.file.step (by rintro _ _ ⟨⟩) stop)
  | file kept _ running taken =>
    exact prepared.frame kept (prepared.file.step (fun width height same => absurd same (running.1 width height)) taken)
  | program _ _ taken => exact prepared.frame (.refl s.node) (prepared.file.step (by rintro _ _ ⟨⟩) taken)

theorem opened {proc : Formats.Proc} {node : Formats.State} (role : proc.role = .encoder)
    (setup : Formats.State.setup proc = .ok node) : (State.opened node).Prepared := by
  obtain ⟨same, -, ⟨request, picture⟩, -⟩ := Formats.setup_encoder role setup
  have encoder : node.proc.role = .encoder := same ▸ role
  have admitted := Formats.admits_of_encPicturePrepare
    ((Formats.formatPicturePrepare_encoder encoder request).symm.trans picture)
  have start : State.Prepared { node } := ⟨encoder, ⟨_, admitted⟩, .initial, nofun, nofun⟩
  exact ⟨encoder, start.admitted, start.input _⟩

end State.Prepared

/-- Whatever an encoder file does, the headers of its job are read back while the selection lies inside the coded
size, is even, and the frame rate has a time scale. -/
theorem headers_read_back_of_run (proc : Formats.Proc) (node : Formats.State) (events : List Event) (final : State)
    (ctx : H264.Context) (job : H264.Job) (stream data : List Bool) (role : proc.role = .encoder)
    (setup : Formats.State.setup proc = .ok node) (reached : run step (.opened node) events = some final)
    (streaming : final.file.context = some ctx) (sampled : final.file.phase.job = some job)
    (selects : final.file.input.Selects ctx) (rate : final.file.input.denominator.toNat < 2 ^ 31) :
    H264.HeadersReadBack ctx final.file.input job stream data := by
  have prepared := run_preserves State.Prepared State.Prepared.step (.opened role setup) reached
  exact .of_coded (prepared.file.coherent streaming) (prepared.file.coded job sampled) selects rate stream data

end H618Vpu.Encoder
