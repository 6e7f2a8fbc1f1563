import H618Vpu.Soundness.LegacyEngine

/-! # The clocks and the reset line of the engine

The clocks follow the count of engine references. The reset line does not quite: a file without references
asserts it when it closes with a lock or a buffer left, whoever uses the engine, and a failure to deassert it
again goes unnoticed.
-/

namespace H618Vpu.Legacy

open Machine

namespace Dev

/-- The clocks follow the clock status flag, and the line is not asserted while the count is positive. -/
structure Clocked (d : Dev) : Prop where
  busClk : d.busClk = d.clkStatus.toNat
  mbusClk : d.mbusClk = d.clkStatus.toNat
  veClk : d.veClk = d.clkStatus.toNat
  reset : 0 < d.refCount → d.resetAsserted = false

namespace Clocked

theorem frame {d next : Dev} (clocked : d.Clocked) (refCount : next.refCount = d.refCount := by rfl)
    (clkStatus : next.clkStatus = d.clkStatus := by rfl) (bus : next.busClk = d.busClk := by rfl)
    (mbus : next.mbusClk = d.mbusClk := by rfl) (ve : next.veClk = d.veClk := by rfl)
    (line : 0 < d.refCount → d.resetAsserted = false → next.resetAsserted = false := by exact fun _ => id) :
    next.Clocked := by
  obtain ⟨busClk, mbusClk, veClk, reset⟩ := clocked
  refine ⟨?_, ?_, ?_, ?_⟩
  · rw [bus, clkStatus, busClk]
  · rw [mbus, clkStatus, mbusClk]
  · rw [ve, clkStatus, veClk]
  · rw [refCount]
    exact fun held => line held (reset held)

theorem disableHwClk {d : Dev} (busClk : d.busClk = d.clkStatus.toNat) (mbusClk : d.mbusClk = d.clkStatus.toNat)
    (veClk : d.veClk = d.clkStatus.toNat) (none : d.refCount = 0) (tgid : ℤ) : (d.disableHwClk tgid).Clocked := by
  obtain ⟨off, same⟩ | ⟨on, down⟩ := disableHwClk_cases d tgid
  · rw [same]
    exact ⟨busClk, mbusClk, veClk, fun held => by omega⟩
  · rw [down]
    simp only [on, Bool.toNat_true] at busClk mbusClk veClk
    refine ⟨?_, ?_, ?_, fun held => ?_⟩ <;> dsimp only [unmapDmaBufAddr]
    · rw [busClk]; rfl
    · rw [mbusClk]; rfl
    · rw [veClk]; rfl
    · rw [unmapDmaBufAddr_refCount] at held
      exact absurd held (by simp [none])

variable {d : Dev} {refs total limit : ℕ} {tgid : ℤ}

theorem engineReq (clocked : d.Clocked) (counted : Counted limit d total) (answers : Answers) :
    (engineReq refs d answers).1.2.Clocked := by
  have same := counted.refCount
  have bound := counted.bound.trans counted.small
  obtain ⟨count, line, ret, kept, changed, refused⟩ | ⟨low, on, -, counts⟩ | ⟨low, first, off, -, powers⟩ :=
    engineReq_cases refs d answers
  · rw [refused]
    have small : d.refCount < 2 ^ 31 := by unfold toInt at same; omega
    refine clocked.frame (kept small) rfl rfl rfl rfl fun held was => ?_
    obtain unchanged | off := changed
    · exact unchanged.trans was
    · have none : ¬ 0 < total := by rw [← counted.clkStatus, off]; simp
      unfold toInt at same
      omega
  · rw [counts]
    refine ⟨clocked.busClk, clocked.mbusClk, clocked.veClk, fun _ => clocked.reset ?_⟩
    by_contra idle
    have none : d.refCount = 0 := by omega
    have some : 0 < total := counted.clkStatus.mp (on (by rw [none]; decide))
    unfold toInt at same
    omega
  · rw [powers]
    have clocks := clocked
    obtain ⟨busClk, mbusClk, veClk, -⟩ := clocks
    rw [off] at busClk mbusClk veClk
    exact ⟨by simp [busClk], by simp [mbusClk], by simp [veClk], fun _ => rfl⟩

theorem engineRel (clocked : d.Clocked) (tgid : ℤ) (interrupted : Bool) :
    (engineRel refs d tgid interrupted).1.2.Clocked := by
  obtain ⟨ret, refused⟩ | ⟨some, low, more, ret, counts⟩ | ⟨some, low, last, stops⟩ :=
    engineRel_cases refs d tgid interrupted
  · rw [refused]
    exact clocked
  · rw [counts]
    exact ⟨clocked.busClk, clocked.mbusClk, clocked.veClk, fun _ => clocked.reset low⟩
  · rw [stops]
    exact disableHwClk (d := { d with refCount := 0 }) clocked.busClk clocked.mbusClk clocked.veClk rfl tgid

end Clocked

/-- Dropping references with the clocks as the flag says; the line may be asserted. -/
theorem dropRefs_clocked {d : Dev} {refs answer : ℕ} (busClk : d.busClk = d.clkStatus.toNat)
    (mbusClk : d.mbusClk = d.clkStatus.toNat) (veClk : d.veClk = d.clkStatus.toNat) (some : refs ≠ 0)
    (answered : 0 < d.refCountAfter refs → answer = 0) (tgid : ℤ) : (d.dropRefs refs tgid answer).Clocked := by
  rw [dropRefs, if_neg some]
  dsimp only
  split_ifs with last
  · exact Clocked.disableHwClk (d := { d with refCount := d.refCountAfter refs }) busClk mbusClk veClk last tgid
  · unfold resetDeassert
    split_ifs with deasserted
    · exact ⟨busClk, mbusClk, veClk, fun _ => rfl⟩
    · exact ⟨busClk, mbusClk, veClk, fun held => absurd (answered held) deasserted⟩

end Dev

/-- The engine is out of reset and has its clocks while the count is positive, and has none while it is zero. -/
structure Powered (s : State) : Prop where
  held : 0 < s.dev.refCount →
    s.dev.resetAsserted = false ∧ 0 < s.dev.busClk ∧ 0 < s.dev.mbusClk ∧ 0 < s.dev.veClk
  idle : s.dev.refCount = 0 → s.dev.busClk = 0 ∧ s.dev.mbusClk = 0 ∧ s.dev.veClk = 0

/-- The calls that leave count, clocks and reset line to the references: none of the four commands that set
them at will, no close without references but with a lock or a buffer left while the engine is used, and no
failure to deassert the line after a free or a close while it is used. -/
def KeepsRunning (s : State) : Event → Prop
  | .call _ _ (.setRefcount _) | .call _ _ (.enableVe _) | .call _ _ .disableVe | .call _ _ (.resetVe _) => False
  | .call file _ (.freeCoherent request answer) =>
      (∃ buffer, request.bind (s.info file).coherent.find = some buffer) → (s.info file).engineRefs ≠ 0 →
        0 < s.dev.refCount → answer = 0
  | .release file _ answer =>
      if (s.info file).engineRefs = 0 then
        (s.info file).lockFlags ≠ 0 ∨ (s.info file).coherent.buffers ≠ [] → s.dev.refCount ≤ 0
      else 0 < s.dev.refCountAfter (s.info file).engineRefs → answer = 0
  | _ => True

variable {s next : State} {event : Event}

theorem KeepsRunning.keepsCount (counted : s.dev.Counted (2 ^ 31) s.engineRefs) (allowed : KeepsRunning s event) :
    KeepsCount (2 ^ 31) s event := by
  unfold KeepsCount
  split
  · exact absurd allowed (by simp [KeepsRunning])
  · intro _ low
    have same := counted.refCount
    have bound := counted.bound
    unfold toInt at same
    omega
  · trivial

theorem Dev.Clocked.step (clocked : s.dev.Clocked) (counted : s.dev.Counted (2 ^ 31) s.engineRefs)
    (allowed : KeepsRunning s event) (taken : Legacy.step s event = some next) : next.dev.Clocked := by
  cases event with
  | opened file allocated interrupted =>
    obtain ⟨-, rfl⟩ := step_opened_iff.mp taken
    obtain same | added := opened_cases s file allocated interrupted
    · rw [same]
      exact clocked
    · rw [added]
      exact clocked
  | munmap mm start length =>
    obtain rfl := Option.some.inj taken
    exact clocked
  | release file tgid answer =>
    obtain ⟨-, rfl⟩ := step_release_iff.mp taken
    dsimp only [KeepsRunning] at allowed
    dsimp only [State.release, setInfo_dev]
    by_cases none : (s.info file).engineRefs = 0
    · rw [if_pos none] at allowed
      rw [none, Dev.dropRefs, if_pos rfl]
      split_ifs with lost
      · refine clocked.frame rfl rfl rfl rfl rfl fun held _ => ?_
        have idle := allowed (lost.resolve_left (fun some => some rfl))
        omega
      · exact clocked.frame
    · rw [if_neg none] at allowed
      rw [if_pos (.inl none)]
      exact Dev.dropRefs_clocked (d := s.dev.quiesceDma.unmapDmaBufAddr tgid true 0 0) clocked.busClk clocked.mbusClk
        clocked.veClk none allowed tgid
  | call file tgid command =>
    obtain ⟨opened, taken⟩ := step_call_iff.mp taken
    cases command with
    | setRefcount _ | enableVe _ | disableVe | resetVe _ => exact absurd allowed (by simp [KeepsRunning])
    | engineReq answers =>
      rw [(engineReq_effect opened taken).1]
      exact clocked.engineReq counted answers
    | engineRel interrupted =>
      rw [(engineRel_effect opened taken).1]
      exact clocked.engineRel tgid interrupted
    | mapDmaBuf answers =>
      obtain rfl := Option.some.inj taken
      obtain same | ⟨fd, -, mapped⟩ := s.dev.mapDmaBuf_cases file tgid answers
      · rw [same]
        exact clocked
      · rw [mapped]
        exact clocked.frame
    | unmapDmaBuf param =>
      obtain rfl := Option.some.inj taken
      cases param <;> exact clocked.frame
    | freeCoherent request answer =>
      obtain ⟨effect, -, -⟩ := freeCoherent_effect taken
      obtain same | ⟨handle, buffer, rfl, found, freed⟩ :=
        free_cases (s.info file).coherent s.dev (s.info file).engineRefs request answer
      · rw [effect, same]
        exact clocked
      · rw [effect, freed]
        dsimp only
        split_ifs with held
        · refine clocked.frame ?_ ?_ ?_ ?_ ?_ fun used _ => ?_
          iterate 5 { dsimp only [Dev.quiesceDma, Dev.resetDeassert]; split_ifs <;> rfl }
          rw [allowed ⟨buffer, found⟩ held used]
          rfl
        · exact clocked
    | getLock _ | releaseLock _ | setProcInfo _ | copyProcInfo _ | stopProcInfo _ | allocCoherent _ | mmap _ _
    | other _ _ =>
      rw [call_dev rfl taken]
      exact clocked

/-- In a run of such calls the engine is out of reset and has its clocks exactly while it is used. -/
theorem engine_powered {debugRoot : Bool} {events : List Event} {final : State}
    (guarded : Guarded step KeepsRunning (.initial debugRoot) events)
    (reached : run step (.initial debugRoot) events = some final) : Powered final := by
  obtain ⟨counted, busClk, mbusClk, veClk, reset⟩ := guarded.run_preserves
    (fun s => s.dev.Counted (2 ^ 31) s.engineRefs ∧ s.dev.Clocked)
    (fun before allowed taken =>
      ⟨before.1.step (allowed.keepsCount before.1) taken, before.2.step before.1 allowed taken⟩)
    ⟨counted_initial debugRoot le_rfl, ⟨rfl, rfl, rfl, fun held => absurd held (by simp [State.initial])⟩⟩ reached
  obtain ⟨same, bound, -, flag⟩ := counted
  constructor
  · intro held
    have on : final.dev.clkStatus = true := by
      rw [flag]
      unfold toInt at same
      omega
    simp [reset held, busClk, mbusClk, veClk, on]
  · intro idle
    have off : final.dev.clkStatus = false := by
      rw [← Bool.not_eq_true, flag]
      unfold toInt at same
      omega
    simp [busClk, mbusClk, veClk, off]

instance (s : State) (event : Event) : Decidable (KeepsRunning s event) :=
  match event with
  | .call file _ (.freeCoherent request _) =>
      haveI : Decidable (∃ buffer, request.bind (s.info file).coherent.find = some buffer) :=
        decidable_of_iff _ Option.isSome_iff_exists
      by dsimp only [KeepsRunning]; infer_instance
  | .release _ _ _ => by dsimp only [KeepsRunning]; infer_instance
  | .call _ _ (.setRefcount _) | .call _ _ (.enableVe _) | .call _ _ .disableVe | .call _ _ (.resetVe _) =>
      instDecidableFalse
  | .call _ _ (.engineReq _) | .call _ _ (.engineRel _)
  | .call _ _ (.getLock _) | .call _ _ (.releaseLock _) | .call _ _ (.setProcInfo _) | .call _ _ (.copyProcInfo _)
  | .call _ _ (.stopProcInfo _) | .call _ _ (.mapDmaBuf _) | .call _ _ (.unmapDmaBuf _)
  | .call _ _ (.allocCoherent _) | .call _ _ (.mmap _ _) | .call _ _ (.other _ _)
  | .opened _ _ _ | .munmap _ _ _ => instDecidableTrue

/-- A file with a lock and a reference, its buffer freed before, closes while another one uses the engine. -/
theorem engine_powered_two :
    let events : List Event := [.opened 0 true false, .call 0 7 (.engineReq {}), .opened 1 true false,
      .call 1 8 (.allocCoherent { size := some 4096, dmaAddr := some 0x40000000 }), .call 1 8 (.getLock 1),
      .call 1 8 (.engineReq {}), .call 1 8 (.freeCoherent (some 1) 0), .release 1 8 0]
    (run step (.initial true) events).isSome ∧
      ∀ final, run step (.initial true) events = some final → Powered final :=
  ⟨by decide, fun _ reached => engine_powered (by decide) reached⟩

/-- Opening and closing files, requesting and releasing the engine, and coherent buffers and locks. -/
def UsesEngine : Event → Prop
  | .opened _ _ _ | .release _ _ _ => True
  | .call _ _ (.engineReq _) | .call _ _ (.engineRel _) | .call _ _ (.allocCoherent _)
  | .call _ _ (.freeCoherent _ _) | .call _ _ (.getLock _) | .call _ _ (.releaseLock _) => True
  | _ => False

/-- The second file closes with a buffer left and asserts the reset line which the first one needs. -/
theorem engine_not_powered :
    ¬ ∀ (events : List Event) (final : State), (∀ event ∈ events, UsesEngine event) →
      run step (.initial true) events = some final → Powered final := by
  intro always
  let events : List Event := [.opened 0 true false, .call 0 7 (.engineReq {}), .opened 1 true false,
    .call 1 8 (.allocCoherent { size := some 4096, dmaAddr := some 0x40000000 }), .release 1 8 0]
  have asserted : (run step (.initial true) events).map (fun s => (s.dev.refCount, s.dev.resetAsserted)) =
      some (1, true) := by decide
  obtain ⟨final, reached, values⟩ := Option.map_eq_some_iff.mp asserted
  simp only [Prod.mk.injEq] at values
  have used : ∀ event ∈ events, UsesEngine event := by simp [events, UsesEngine]
  have line := ((always events final used reached).held (by omega)).1
  simp [values.2] at line

end H618Vpu.Legacy
