import H618Vpu.Machine.History
import H618Vpu.Model.DecMvCol

/-! # Whether the co-located motion-vector buffer is large enough

The first job into a picture buffer sizes its motion-vector buffer, and every later job finds it there.
So a job has a buffer as large as its own SPS asks for as long as it asks for no more than the SPS did
that the buffer was allocated with.
-/

namespace H618Vpu.MvCol

open Machine Math

variable {codec : Codec} {size : Size}

/-- The factor by which the flags of an H.264 SPS multiply the size. -/
def H264Sps.fields (sps : H264Sps) : ℕ :=
  (if sps.direct8x8Inference then 1 else 2) * if sps.frameMbsOnly then 1 else 2

/-- What an SPS asks for, in the unit of its codec. -/
def Codec.demand : (codec : Codec) → Size → codec.Sps → ℕ
  | .h264, _ => H264Sps.fields
  | .h265, size => H265Sps.ctbs size

/-- The SPS each motion-vector buffer was allocated with, by the slot of its picture buffer. -/
abbrev Allocators (codec : Codec) := ℕ → Option codec.Sps

/-- Note the SPS of a job that changed the buffer of its picture. -/
def allocatedBy (s : State codec) (event : Event codec) (next : State codec) (allocators : Allocators codec) :
    Allocators codec :=
  match event with
  | .job picture job =>
      Function.update allocators picture
        (if next.buffers picture = s.buffers picture then allocators picture else some (codec.sps job))
  | .bufferCleanup picture => Function.update allocators picture none

/-- A job asks for no more than the SPS that the buffer of its picture, if there is one, was allocated with. -/
def AsksNoMore (size : Size) (s : Recorded (State codec) (Allocators codec)) : Event codec → Prop
  | .job picture job =>
      ∀ first ∈ s.history picture, codec.demand size (codec.sps job) ≤ codec.demand size first
  | .bufferCleanup _ => True

instance (s : Recorded (State codec) (Allocators codec)) (event : Event codec) : Decidable (AsksNoMore size s event) :=
  match event with
  | .job picture job =>
      match allocator : s.history picture with
      | none => .isTrue fun _ member => nomatch (allocator ▸ member : _ ∈ none)
      | some first =>
          decidable_of_iff (codec.demand size (codec.sps job) ≤ codec.demand size first)
            (by simp only [AsksNoMore, allocator, Option.mem_def, Option.some.injEq, forall_eq'])
  | .bufferCleanup _ => .isTrue trivial

/-- The buffer each programmed job had is as large as the formula of its codec gives for its SPS. -/
def State.LargeEnough (size : Size) (s : State codec) : Prop :=
  ∀ job ∈ s.programmed, codec.mvColSize size job.sps ≤ job.buffer.mvColBufSize

theorem divRoundUp_pos {n d : ℕ} (positive : 0 < n) (divisor : 0 < d) : 0 < divRoundUp n d :=
  Nat.div_pos (by omega) divisor

theorem h264MvColSize_eq (size : Size) (sps : H264Sps) :
    h264MvColSize size sps = divRoundUp size.width 16 * divRoundUp size.height 16 * 32 * sps.fields := by
  obtain ⟨direct8x8Inference, frameMbsOnly⟩ := sps
  cases direct8x8Inference <;> cases frameMbsOnly <;> simp only [h264MvColSize, H264Sps.fields] <;> simp <;> ring

theorem h264MvColSize_le_iff (size : Size) (sps first : H264Sps) :
    h264MvColSize size sps ≤ h264MvColSize size first ↔ sps.fields ≤ first.fields := by
  rw [h264MvColSize_eq, h264MvColSize_eq]
  have positive : 0 < divRoundUp size.width 16 * divRoundUp size.height 16 * 32 :=
    Nat.mul_pos (Nat.mul_pos (divRoundUp_pos size.width_pos (by decide)) (divRoundUp_pos size.height_pos (by decide)))
      (by decide)
  exact Nat.mul_le_mul_left_iff positive

theorem h265MvColSize_le_iff (size : Size) (sps first : H265Sps) :
    h265MvColSize size sps ≤ h265MvColSize size first ↔ sps.ctbs size ≤ first.ctbs size := by
  simp only [h265MvColSize]
  omega

/-- The sizes of two SPS compare as what they ask for. -/
theorem Codec.mvColSize_le_iff (size : Size) (sps first : codec.Sps) :
    codec.mvColSize size sps ≤ codec.mvColSize size first ↔ codec.demand size sps ≤ codec.demand size first := by
  cases codec with
  | h264 => exact h264MvColSize_le_iff size sps first
  | h265 => exact h265MvColSize_le_iff size sps first

theorem h264MvColSize_pos (size : Size) (sps : H264Sps) : 0 < h264MvColSize size sps := by
  have width := divRoundUp_pos size.width_pos (d := 16) (by decide)
  have height := divRoundUp_pos size.height_pos (d := 16) (by decide)
  have fields : 0 < sps.fields := by
    unfold H264Sps.fields
    split <;> split <;> decide
  rw [h264MvColSize_eq]
  positivity

/-- No formula gives zero, which is how a buffer that is not there is told. -/
theorem Codec.mvColSize_pos (size : Size) (sps : codec.Sps) : 0 < codec.mvColSize size sps := by
  cases codec with
  | h264 => exact h264MvColSize_pos size sps
  | h265 => exact Nat.succ_pos _

/-- A job keeps the buffer of its picture, or allocates it; if it is programmed, there is one. -/
inductive Configured (size : Size) (sps : codec.Sps) (before : Buffer) : Buffer → ℤ → Prop
  | kept {ret : ℤ} (there : ret = 0 → before.mvColBufSize ≠ 0) : Configured size sps before before ret
  | allocated {ret : ℤ} (missing : before.mvColBufSize = 0) :
      Configured size sps before ⟨codec.mvColSize size sps⟩ ret

theorem Buffer.attach_configured (codec : Codec) (size : Size) (sps : codec.Sps) (before : Buffer) (allocated : Bool) :
    Configured size sps before (before.attach (codec.mvColSize size sps) allocated).1
      (before.attach (codec.mvColSize size sps) allocated).2 := by
  unfold Buffer.attach
  split
  case isTrue there => exact .kept fun _ => there
  case isFalse missing =>
    split
    · exact .allocated (not_not.mp missing)
    · exact .kept fun success => absurd success (show enomem ≠ 0 by decide)

/-- A later failure does not take the buffer back. -/
theorem Configured.failed {sps : codec.Sps} {before after : Buffer} {ret errno : ℤ}
    (configured : Configured size sps before after ret) (failed : errno ≠ 0) :
    Configured size sps before after errno := by
  cases configured with
  | kept => exact .kept fun success => absurd success failed
  | allocated missing => exact .allocated missing

theorem Codec.jobConfigure_configured (job : codec.Job) (before : Buffer) :
    Configured size (codec.sps job) before (codec.jobConfigure size job before).1
      (codec.jobConfigure size job before).2 := by
  cases codec with
  | h264 => exact Buffer.attach_configured .h264 ..
  | h265 =>
    obtain ⟨sps, offsets, counted, dataByteOffset, padding, allocated⟩ := job
    have attached := Buffer.attach_configured .h265 size sps before allocated
    change @Configured .h265 size sps before (h265JobConfigure size _ before).1
      (h265JobConfigure size _ before).2
    simp only [h265JobConfigure]
    split
    · exact .kept fun success => absurd success (show erange ≠ 0 by decide)
    · split
      · exact attached
      · case _ ret =>
        split
        · exact attached.failed (show eopnotsupp ≠ 0 by decide)
        · split
          · exact attached.failed (show einval ≠ 0 by decide)
          · exact not_not.mp ret ▸ attached

/-- What is known of the buffer of a slot and the SPS it was allocated with. -/
inductive SizedBy (size : Size) : Buffer → Option codec.Sps → Prop
  | missing : SizedBy size {} none
  | allocated (first : codec.Sps) : SizedBy size ⟨codec.mvColSize size first⟩ (some first)

/-- Every buffer has the size for the SPS it was allocated with, and no job has found its own too small. -/
structure Sized (size : Size) (s : Recorded (State codec) (Allocators codec)) : Prop where
  sizedBy : ∀ picture, SizedBy size (s.state.buffers picture) (s.history picture)
  largeEnough : s.state.LargeEnough size

theorem SizedBy.update {buffers : ℕ → Buffer} {allocators : Allocators codec}
    (sizedBy : ∀ picture, SizedBy size (buffers picture) (allocators picture)) {picture : ℕ} {buffer : Buffer}
    {first : Option codec.Sps} (sized : SizedBy size buffer first) (other : ℕ) :
    SizedBy size (Function.update buffers picture buffer other) (Function.update allocators picture first other) := by
  by_cases same : other = picture
  · subst same
    simpa only [Function.update_self] using sized
  · simpa only [Function.update_of_ne same] using sizedBy other

/-- What a job leaves in its slot fits what is noted for it. -/
theorem SizedBy.configured {sps : codec.Sps} {before after : Buffer} {ret : ℤ} {first : Option codec.Sps}
    (sized : SizedBy size before first) (configured : Configured size sps before after ret) :
    SizedBy size after (if after = before then first else some sps) := by
  cases configured with
  | kept => rwa [if_pos rfl]
  | allocated missing =>
    have changed : (⟨codec.mvColSize size sps⟩ : Buffer) ≠ before := by
      intro same
      have positive := codec.mvColSize_pos size sps
      rw [← same] at missing
      exact absurd missing positive.ne'
    rw [if_neg changed]
    exact .allocated sps

/-- A programmed job that asks for no more than was allocated has enough. -/
theorem SizedBy.enough {sps : codec.Sps} {before after : Buffer} {first : Option codec.Sps}
    (sized : SizedBy size before first) (configured : Configured size sps before after 0)
    (asksNoMore : ∀ allocator ∈ first, codec.demand size sps ≤ codec.demand size allocator) :
    codec.mvColSize size sps ≤ after.mvColBufSize := by
  cases configured with
  | kept there =>
    cases sized with
    | missing => exact absurd rfl (there rfl)
    | allocated first => exact (codec.mvColSize_le_iff size sps first).mpr (asksNoMore first rfl)
  | allocated => exact le_rfl

theorem step_job {s next : State codec} {picture : ℕ} {job : codec.Job}
    (taken : step size s (.job picture job) = some next) :
    ∃ after ret, Configured size (codec.sps job) (s.buffers picture) after ret ∧
      next.buffers = Function.update s.buffers picture after ∧
      next.programmed = if ret = 0 then ⟨codec.sps job, after⟩ :: s.programmed else s.programmed := by
  obtain rfl := Option.some.inj taken
  exact ⟨_, _, codec.jobConfigure_configured job (s.buffers picture), rfl, rfl⟩

theorem Sized.step {s : Recorded (State codec) (Allocators codec)} {event : Event codec} {next : State codec}
    (sized : Sized size s) (asksNoMore : AsksNoMore size s event) (taken : MvCol.step size s.state event = some next) :
    Sized size ⟨next, allocatedBy s.state event next s.history⟩ := by
  cases event with
  | bufferCleanup picture =>
    obtain rfl := Option.some.inj taken
    exact ⟨SizedBy.update sized.sizedBy .missing, sized.largeEnough⟩
  | job picture job =>
    obtain ⟨after, ret, configured, buffers, programmed⟩ := step_job taken
    constructor
    · have written := (sized.sizedBy picture).configured configured
      intro other
      simp only [allocatedBy, buffers, Function.update_self]
      exact SizedBy.update sized.sizedBy written other
    · intro entry member
      rw [programmed] at member
      split at member
      case isTrue success =>
        rcases List.mem_cons.mp member with rfl | earlier
        · exact (sized.sizedBy picture).enough (success ▸ configured) asksNoMore
        · exact sized.largeEnough entry earlier
      case isFalse => exact sized.largeEnough entry member

theorem Sized.opened (size : Size) : Sized size ⟨({} : State codec), fun _ => none⟩ :=
  ⟨fun _ => .missing, fun _ member => absurd member List.not_mem_nil⟩

/-- As long as no job asks for more than the SPS its buffer was allocated with, every programmed job has a
buffer as large as it needs. -/
theorem mvCol_largeEnough (events : List (Event codec)) (final : State codec)
    (asksNoMore : Guarded (record (step size) allocatedBy) (AsksNoMore size) ⟨{}, fun _ => none⟩ events)
    (reached : run (step size) {} events = some final) : final.LargeEnough size := by
  obtain ⟨_, sized⟩ := Recorded.run_preserves (Sized size) Sized.step (Sized.opened size) asksNoMore reached
  exact sized.largeEnough

/-- The condition is exact: a job that asks for more and is programmed has a buffer that is too small. -/
theorem not_largeEnough_of_asksMore {s : Recorded (State codec) (Allocators codec)} {picture : ℕ} {job : codec.Job}
    {next : State codec} (sized : Sized size s) (asksMore : ¬ AsksNoMore size s (.job picture job))
    (taken : step size s.state (.job picture job) = some next) (programmed : next.programmed ≠ s.state.programmed) :
    ¬ next.LargeEnough size := by
  intro largeEnough
  obtain ⟨after, ret, configured, -, listed⟩ := step_job taken
  have success : ret = 0 := by
    by_contra failed
    exact programmed (listed.trans (if_neg failed))
  have enough : codec.mvColSize size (codec.sps job) ≤ after.mvColBufSize :=
    largeEnough ⟨codec.sps job, after⟩ (by rw [listed, if_pos success]; exact List.mem_cons_self ..)
  simp only [AsksNoMore, not_forall] at asksMore
  obtain ⟨first, allocator, more⟩ := asksMore
  have allocated := sized.sizedBy picture
  rw [Option.mem_def.mp allocator] at allocated
  generalize s.state.buffers picture = before at allocated configured
  cases allocated
  cases configured with
  | kept => exact more ((codec.mvColSize_le_iff size (codec.sps job) first).mp enough)
  | allocated missing => exact absurd missing (codec.mvColSize_pos size first).ne'

def hd : Size where
  width := 1280
  height := 720
  width_pos := by decide
  width_le := by decide
  height_pos := by decide
  height_le := by decide

def progressive : H264Sps := ⟨true, true⟩
def interlaced : H264Sps := ⟨false, false⟩

/-- A progressive and an interlaced picture, each in a picture buffer of its own, and both buffers used again for
progressive ones. -/
def ownBuffers : List (Event .h264) :=
  [.job 0 (show H264Job from ⟨progressive, true⟩), .job 1 (show H264Job from ⟨interlaced, true⟩),
    .job 0 (show H264Job from ⟨progressive, true⟩), .job 1 (show H264Job from ⟨progressive, true⟩)]

theorem mvCol_largeEnough_ownBuffers :
    ∃ final, run (step hd) {} ownBuffers = some final ∧
      final.programmed.map (fun entry => entry.buffer.mvColBufSize) = [460800, 115200, 460800, 115200] ∧
      final.LargeEnough hd :=
  ⟨_, rfl, rfl, mvCol_largeEnough ownBuffers _ (by decide) rfl⟩

/-- The picture buffer of a progressive picture is used again for an interlaced one. -/
def reusedInterlaced : List (Event .h264) :=
  [.job 0 (show H264Job from ⟨progressive, true⟩), .job 0 (show H264Job from ⟨interlaced, true⟩)]

/-- The picture buffer of a picture with 64×64 blocks is used again for one with 16×16 blocks. -/
def reusedSmallBlocks : List (Event .h265) :=
  [.job 0 (show H265Job from ⟨⟨0, 3⟩, 0, 0, 1, 1, true⟩), .job 0 (show H265Job from ⟨⟨0, 1⟩, 0, 0, 1, 1, true⟩)]

theorem mvCol_not_always_largeEnough :
    ¬ ∃ codec : Codec, ∀ (size : Size) (events : List (Event codec)) (final : State codec),
      run (step size) {} events = some final → final.LargeEnough size := by
  rintro ⟨codec, always⟩
  cases codec with
  | h264 =>
    have enough := always hd reusedInterlaced _ rfl ⟨interlaced, ⟨115200⟩⟩ (List.mem_cons_self ..)
    exact absurd enough (by decide)
  | h265 =>
    have enough := always hd reusedSmallBlocks _ rfl ⟨⟨0, 1⟩, ⟨39424⟩⟩ (List.mem_cons_self ..)
    exact absurd enough (by decide)

end H618Vpu.MvCol
