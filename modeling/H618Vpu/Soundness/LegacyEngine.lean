import H618Vpu.Machine.Run
import H618Vpu.Soundness.LegacyDriver

/-! # Engine references

The count of the device is the sum of the references of the open files, and the clock status flag follows it,
as long as nothing but requests, releases and closes sets it and it stays in the range of an `int`.
-/

namespace H618Vpu.Legacy

open Machine

theorem toInt_of_small {n : ℤ} (low : -2 ^ 31 ≤ n) (high : n < 2 ^ 31) : toInt n = n := by
  unfold toInt
  omega

namespace Dev

variable {d : Dev} {refs total : ℕ} {tgid : ℤ}

@[simp] theorem unmapDmaBufAddr_refCount (d : Dev) (tgid : ℤ) (unmapAll : Bool) (fd : ℤ) (addr : ℕ) :
    (d.unmapDmaBufAddr tgid unmapAll fd addr).refCount = d.refCount := rfl

/-- Either the clocks were on, or they are now and the list is new, or all is off as before. -/
theorem enableHwClk_cases (d : Dev) (answers : Answers) :
    (d.clkStatus = true ∧ d.enableHwClk answers = (d, 0)) ∨
    (d.clkStatus = false ∧ answers = { interrupted := answers.interrupted } ∧ d.enableHwClk answers =
      ({ d with resetAsserted := false, busClk := d.busClk + 1, mbusClk := d.mbusClk + 1, veClk := d.veClk + 1,
                clkStatus := true, list := [] }, 0)) ∨
    (d.clkStatus = false ∧ ∃ (res : ℤ) (line : Bool), res < 0 ∧
      d.enableHwClk answers = ({ d with resetAsserted := line }, res)) := by
  obtain ⟨refCount, clkStatus, resetAsserted, busClk, mbusClk, veClk, list, released, nextSerial⟩ := d
  cases clkStatus with
  | true => exact .inl ⟨rfl, rfl⟩
  | false =>
    by_cases deassert : answers.deassert = 0
    · by_cases bus : answers.busClk = 0
      · by_cases mbus : answers.mbusClk = 0
        · by_cases ve : answers.veClk = 0
          · obtain ⟨_, _, _, _, _⟩ := answers
            subst deassert bus mbus ve
            exact .inr (.inl ⟨rfl, rfl, rfl⟩)
          · refine .inr (.inr ⟨rfl, -answers.veClk, true, by omega, ?_⟩)
            simp [enableHwClk, deassert, bus, mbus, ve, errorMbus, errorBus, errorReset, errorState]
        · refine .inr (.inr ⟨rfl, -answers.mbusClk, true, by omega, ?_⟩)
          simp [enableHwClk, deassert, bus, mbus, errorBus, errorReset, errorState]
      · refine .inr (.inr ⟨rfl, -answers.busClk, true, by omega, ?_⟩)
        simp [enableHwClk, deassert, bus, errorReset, errorState]
    · refine .inr (.inr ⟨rfl, -answers.deassert, resetAsserted, by omega, ?_⟩)
      simp [enableHwClk, deassert, errorState]

/-- A refused request leaves the references alone, and the line too unless it failed to power the engine up. An
accepted one counts, and powers the engine up if it is the first. -/
theorem engineReq_cases (refs : ℕ) (d : Dev) (answers : Answers) :
    (∃ count line ret, (d.refCount < 2 ^ 31 → count = d.refCount) ∧ (line = d.resetAsserted ∨ d.clkStatus = false) ∧
      engineReq refs d answers = ((refs, { d with refCount := count, resetAsserted := line }), ret)) ∨
    (0 ≤ d.refCount ∧ (toInt (d.refCount + 1) = 1 → d.clkStatus = true) ∧ answers.interrupted = false ∧
      engineReq refs d answers = (((refs + 1) % 2 ^ 32, { d with refCount := toInt (d.refCount + 1) }), 0)) ∨
    (0 ≤ d.refCount ∧ toInt (d.refCount + 1) = 1 ∧ d.clkStatus = false ∧ answers = {} ∧
      engineReq refs d answers = (((refs + 1) % 2 ^ 32,
        { d with refCount := toInt (d.refCount + 1), resetAsserted := false, busClk := d.busClk + 1,
                 mbusClk := d.mbusClk + 1, veClk := d.veClk + 1, clkStatus := true, list := [] }), 0)) := by
  cases interrupted : answers.interrupted with
  | true =>
    refine .inl ⟨d.refCount, d.resetAsserted, erestartsys, fun _ => rfl, .inl rfl, ?_⟩
    simp [engineReq, interrupted]
  | false =>
    by_cases negative : d.refCount < 0
    · refine .inl ⟨d.refCount, d.resetAsserted, efault, fun _ => rfl, .inl rfl, ?_⟩
      simp [engineReq, interrupted, negative]
    · by_cases first : toInt (d.refCount + 1) = 1
      · obtain ⟨powered, same⟩ | ⟨off, succeed, up⟩ | ⟨off, res, line, failed, same⟩ :=
          enableHwClk_cases { d with refCount := toInt (d.refCount + 1) } answers
        · refine .inr (.inl ⟨by omega, fun _ => powered, rfl, ?_⟩)
          simp [engineReq, interrupted, negative, first, first ▸ same]
        · refine .inr (.inr ⟨by omega, first, off, by rw [succeed, interrupted], ?_⟩)
          simp [engineReq, interrupted, negative, first, first ▸ up]
        · refine .inl ⟨toInt (1 - 1), line, res, fun bound => ?_, .inr off, ?_⟩
          · unfold toInt at first ⊢
            omega
          · simp [engineReq, interrupted, negative, first, first ▸ same, failed]
      · refine .inr (.inl ⟨by omega, fun one => absurd one first, rfl, ?_⟩)
        simp [engineReq, interrupted, negative, first]

/-- Either the clocks were off, or they are now, with the line asserted and the mappings of the process gone. -/
theorem disableHwClk_cases (d : Dev) (tgid : ℤ) :
    (d.clkStatus = false ∧ d.disableHwClk tgid = d) ∨
    (d.clkStatus = true ∧ d.disableHwClk tgid =
      { d with clkStatus := false, resetAsserted := true, busClk := d.busClk - 1, mbusClk := d.mbusClk - 1,
               veClk := d.veClk - 1 }.unmapDmaBufAddr tgid true 0 0) := by
  cases powered : d.clkStatus with
  | false => exact .inl ⟨rfl, by simp [disableHwClk, powered]⟩
  | true => exact .inr ⟨rfl, by simp [disableHwClk, powered, quiesceDma]⟩

/-- A release that is refused, one that leaves references, and the last one. -/
theorem engineRel_cases (refs : ℕ) (d : Dev) (tgid : ℤ) (interrupted : Bool) :
    (∃ ret, engineRel refs d tgid interrupted = ((refs, d), ret)) ∨
    (0 < refs ∧ 0 < d.refCount ∧ toInt (d.refCount - 1) ≠ 0 ∧ ∃ ret,
      engineRel refs d tgid interrupted = ((refs - 1, { d with refCount := toInt (d.refCount - 1) }), ret)) ∨
    (0 < refs ∧ 0 < d.refCount ∧ toInt (d.refCount - 1) = 0 ∧
      engineRel refs d tgid interrupted = ((refs - 1, { d with refCount := 0 }.disableHwClk tgid), 0)) := by
  cases interrupted with
  | true => exact .inl ⟨erestartsys, rfl⟩
  | false =>
    by_cases refused : refs = 0 ∨ d.refCount ≤ 0
    · exact .inl ⟨einval, by simp [engineRel, refused]⟩
    · by_cases negative : toInt (d.refCount - 1) < 0
      · exact .inr (.inl ⟨by omega, by omega, by omega, efault, by simp [engineRel, refused, negative]⟩)
      · by_cases last : toInt (d.refCount - 1) = 0
        · exact .inr (.inr ⟨by omega, by omega, last, by simp [engineRel, refused, last]⟩)
        · exact .inr (.inl ⟨by omega, by omega, last, 0, by simp [engineRel, refused, negative, last]⟩)

/-- A mapping is appended to the list, or nothing happens. -/
theorem mapDmaBuf_cases (d : Dev) (file : ℕ) (tgid : ℤ) (answers : MapAnswers) :
    (d.mapDmaBuf file tgid answers).1 = d ∨
    ∃ fd, answers.fd = some fd ∧ (d.mapDmaBuf file tgid answers).1 =
      { d with list := d.list ++ [⟨d.nextSerial, file, fd, answers.addr, tgid⟩], nextSerial := d.nextSerial + 1 } := by
  cases given : answers.fd with
  | none => exact .inl (by simp [mapDmaBuf, given])
  | some fd =>
    by_cases failed : (d.mapDmaBufAddr file tgid fd answers).2 = 0
    · refine .inr ⟨fd, rfl, ?_⟩
      have mapped : (d.mapDmaBuf file tgid answers).1 = (d.mapDmaBufAddr file tgid fd answers).1 := by
        simp only [mapDmaBuf, given, failed, ne_eq, not_true_eq_false, if_false]
        split_ifs <;> rfl
      rw [mapped]
      revert failed
      unfold mapDmaBufAddr
      split_ifs <;> simp
    · refine .inl ?_
      have unmapped : (d.mapDmaBufAddr file tgid fd answers).1 = d := by
        revert failed
        unfold mapDmaBufAddr
        split_ifs <;> simp
      simp [mapDmaBuf, given, failed, unmapped]

/-- The count is the number of references as an `int`, which is at most `limit`, and the clock status flag says
whether there are any. No request is accepted from `2 ^ 31` references on. -/
structure Counted (limit : ℕ) (d : Dev) (total : ℕ) : Prop where
  refCount : d.refCount = toInt total
  bound : total ≤ limit
  small : limit ≤ 2 ^ 31
  clkStatus : d.clkStatus = true ↔ 0 < total

namespace Counted

variable {limit : ℕ}

theorem frame {next : Dev} (counted : Counted limit d total) (refCount : next.refCount = d.refCount := by rfl)
    (clkStatus : next.clkStatus = d.clkStatus := by rfl) : Counted limit next total :=
  ⟨refCount.trans counted.refCount, counted.bound, counted.small, clkStatus ▸ counted.clkStatus⟩

theorem disableHwClk (none : d.refCount = 0) (small : limit ≤ 2 ^ 31) (tgid : ℤ) :
    Counted limit (d.disableHwClk tgid) 0 := by
  obtain ⟨off, same⟩ | ⟨on, down⟩ := disableHwClk_cases d tgid
  · rw [same]
    exact ⟨none, by omega, small, by simp [off]⟩
  · rw [down]
    exact ⟨none, by omega, small, by simp [unmapDmaBufAddr]⟩

theorem engineReq (counted : Counted limit d total) (included : refs ≤ total) (answers : Answers)
    (room : answers.interrupted = false → 0 ≤ d.refCount → total < limit) :
    Counted limit (engineReq refs d answers).1.2 (total - refs + (engineReq refs d answers).1.1) := by
  obtain ⟨same, bound, small, flag⟩ := counted
  obtain ⟨count, line, ret, kept, -, refused⟩ | ⟨low, on, taken, counts⟩ | ⟨low, first, off, taken, powers⟩ :=
    engineReq_cases refs d answers
  · rw [refused, Nat.sub_add_cancel included]
    exact ⟨(kept (by unfold toInt at same; omega)).trans same, bound, small, flag⟩
  · have room := room taken low
    rw [counts]
    refine ⟨?_, ?_, small, ?_⟩ <;> dsimp only
    · unfold toInt at same ⊢
      omega
    · omega
    · rw [flag]
      refine ⟨fun _ => by omega, fun _ => ?_⟩
      by_contra none
      have one : toInt (d.refCount + 1) = 1 := by unfold toInt at same ⊢; omega
      exact none (flag.mp (on one))
  · have room := room (by rw [taken]) low
    have none : total = 0 := by
      by_contra some
      exact absurd (flag.mpr (Nat.pos_of_ne_zero some)) (by simp [off])
    subst none
    rw [powers]
    refine ⟨?_, ?_, small, ?_⟩ <;> dsimp only
    · rw [first]
      unfold toInt
      omega
    · omega
    · simp only [true_iff]
      omega

theorem engineRel (counted : Counted limit d total) (included : refs ≤ total) (tgid : ℤ) (interrupted : Bool) :
    Counted limit (engineRel refs d tgid interrupted).1.2
      (total - refs + (engineRel refs d tgid interrupted).1.1) := by
  obtain ⟨same, bound, small, flag⟩ := counted
  obtain ⟨ret, refused⟩ | ⟨some, low, more, ret, counts⟩ | ⟨some, low, last, stops⟩ :=
    engineRel_cases refs d tgid interrupted
  · rw [refused, Nat.sub_add_cancel included]
    exact ⟨same, bound, small, flag⟩
  · rw [counts]
    refine ⟨?_, ?_, small, ?_⟩ <;> dsimp only
    · unfold toInt at same ⊢
      omega
    · omega
    · rw [flag]
      unfold toInt at same more
      omega
  · rw [stops]
    have rest : total - refs + (refs - 1) = 0 := by
      unfold toInt at same last
      omega
    rw [rest]
    exact disableHwClk rfl small tgid

theorem refCountAfter (counted : Counted limit d total) (included : refs ≤ total) :
    d.refCountAfter refs = toInt (total - refs : ℕ) := by
  have same := counted.refCount
  have bound := counted.bound.trans counted.small
  unfold Dev.refCountAfter toUnsigned
  unfold toInt at same ⊢
  split_ifs <;> omega

theorem dropRefs (counted : Counted limit d total) (included : refs ≤ total) (tgid : ℤ) (answer : ℕ) :
    Counted limit (d.dropRefs refs tgid answer) (total - refs) := by
  have rest := counted.refCountAfter included
  obtain ⟨same, bound, small, flag⟩ := counted
  by_cases none : refs = 0
  · simpa [Dev.dropRefs, none] using Counted.mk same bound small flag
  · by_cases last : d.refCountAfter refs = 0
    · have zero : total - refs = 0 := by
        unfold toInt at rest
        omega
      rw [Dev.dropRefs, if_neg none, if_pos last, zero]
      exact disableHwClk last small tgid
    · have counts : Counted limit { d with refCount := d.refCountAfter refs } (total - refs) := by
        refine ⟨rest, by omega, small, ?_⟩
        rw [flag]
        unfold toInt at rest
        omega
      rw [Dev.dropRefs, if_neg none, if_neg last, resetDeassert]
      split_ifs
      · exact counts.frame
      · exact counts

end Counted

end Dev

/-- The engine references of all open files. -/
def State.engineRefs (s : State) : ℕ := ∑ file ∈ s.files, (s.info file).engineRefs

variable {s next : State} {file : ℕ} {event : Event}

theorem refs_le_engineRefs (opened : file ∈ s.files) : (s.info file).engineRefs ≤ s.engineRefs :=
  Finset.single_le_sum (f := fun file => (s.info file).engineRefs) (fun _ _ => Nat.zero_le _) opened

theorem engineRefs_congr (files : next.files = s.files)
    (same : ∀ other, (next.info other).engineRefs = (s.info other).engineRefs) : next.engineRefs = s.engineRefs :=
  Finset.sum_congr files fun other _ => same other

theorem engineRefs_setInfo (opened : file ∈ s.files) (info : VeInfo) :
    (s.setInfo file info).engineRefs = s.engineRefs - (s.info file).engineRefs + info.engineRefs := by
  have before := Finset.sum_erase_add s.files (fun file => (s.info file).engineRefs) opened
  have after := Finset.sum_erase_add s.files (fun other => ((s.setInfo file info).info other).engineRefs) opened
  have others : ∑ other ∈ s.files.erase file, ((s.setInfo file info).info other).engineRefs =
      ∑ other ∈ s.files.erase file, (s.info other).engineRefs :=
    Finset.sum_congr rfl fun other member => by rw [setInfo_of_ne s info (Finset.ne_of_mem_erase member)]
  simp only [setInfo_self] at after
  simp only [State.engineRefs, setInfo_files]
  omega

theorem engineRefs_opened (fresh : file ∉ s.files) :
    ({ s with files := insert file s.files }.setInfo file {}).engineRefs = s.engineRefs := by
  rw [engineRefs_setInfo (Finset.mem_insert_self file s.files)]
  simp [State.engineRefs, Finset.sum_insert fresh]

theorem engineRefs_release (opened : file ∈ s.files) (tgid : ℤ) (answer : ℕ) :
    (s.release file tgid answer).engineRefs = s.engineRefs - (s.info file).engineRefs := by
  have before := Finset.sum_erase_add s.files (fun file => (s.info file).engineRefs) opened
  have others : (s.release file tgid answer).engineRefs = ∑ other ∈ s.files.erase file, (s.info other).engineRefs :=
    Finset.sum_congr rfl fun other member => by
      rw [State.release, setInfo_of_ne _ _ (Finset.ne_of_mem_erase member)]
  unfold State.engineRefs at others ⊢
  omega

theorem engineReq_effect {tgid : ℤ} {answers : Answers} (opened : file ∈ s.files)
    (taken : s.call file tgid (.engineReq answers) = some next) :
    next.dev = (Dev.engineReq (s.info file).engineRefs s.dev answers).1.2 ∧
    next.engineRefs = s.engineRefs - (s.info file).engineRefs +
      (Dev.engineReq (s.info file).engineRefs s.dev answers).1.1 := by
  rw [← Option.some.inj taken]
  exact ⟨rfl, engineRefs_setInfo opened _⟩

theorem engineRel_effect {tgid : ℤ} {interrupted : Bool} (opened : file ∈ s.files)
    (taken : s.call file tgid (.engineRel interrupted) = some next) :
    next.dev = (Dev.engineRel (s.info file).engineRefs s.dev tgid interrupted).1.2 ∧
    next.engineRefs = s.engineRefs - (s.info file).engineRefs +
      (Dev.engineRel (s.info file).engineRefs s.dev tgid interrupted).1.1 := by
  rw [← Option.some.inj taken]
  exact ⟨rfl, engineRefs_setInfo opened _⟩

/-- A command that counts nothing leaves the count alone, and the clock status flag; `SET_REFCOUNT` sets it. -/
theorem uncounted_dev {tgid : ℤ} {command : Command} (uncounted : command.counts = false)
    (honest : ∀ arg, command = .setRefcount arg → toInt arg.toNat = s.dev.refCount)
    (taken : s.call file tgid command = some next) :
    next.dev.refCount = s.dev.refCount ∧ next.dev.clkStatus = s.dev.clkStatus := by
  cases command with
  | engineReq _ | engineRel _ => cases uncounted
  | setRefcount arg =>
    obtain rfl := Option.some.inj taken
    simp only [Dev.setRefcount, honest arg, true_and]
  | disableVe =>
    obtain rfl := Option.some.inj taken
    exact ⟨rfl, rfl⟩
  | enableVe answer | resetVe answer =>
    obtain rfl := Option.some.inj taken
    dsimp only [Dev.enableVe, Dev.resetVe]
    split_ifs <;> exact ⟨rfl, rfl⟩
  | mapDmaBuf answers =>
    obtain rfl := Option.some.inj taken
    obtain same | ⟨fd, -, mapped⟩ := s.dev.mapDmaBuf_cases file tgid answers
    · rw [same]
      exact ⟨rfl, rfl⟩
    · rw [mapped]
      exact ⟨rfl, rfl⟩
  | unmapDmaBuf param =>
    obtain rfl := Option.some.inj taken
    cases param <;> exact ⟨rfl, rfl⟩
  | freeCoherent request answer =>
    obtain ⟨effect, -, -⟩ := freeCoherent_effect taken
    obtain same | ⟨_, _, -, -, freed⟩ :=
      free_cases (s.info file).coherent s.dev (s.info file).engineRefs request answer
    · rw [effect, same]
      exact ⟨rfl, rfl⟩
    · rw [effect, freed]
      dsimp only [Dev.quiesceDma, Dev.resetDeassert]
      split_ifs <;> exact ⟨rfl, rfl⟩
  | getLock _ | releaseLock _ | setProcInfo _ | copyProcInfo _ | stopProcInfo _ | allocCoherent _ | mmap _ _
  | other _ _ =>
    rw [call_dev rfl taken]
    exact ⟨rfl, rfl⟩

/-- No `SET_REFCOUNT` to another count, and no request once there are `limit` references. -/
def KeepsCount (limit : ℕ) (s : State) : Event → Prop
  | .call _ _ (.setRefcount arg) => toInt arg.toNat = s.dev.refCount
  | .call _ _ (.engineReq answers) => answers.interrupted = false → 0 ≤ s.dev.refCount → s.engineRefs < limit
  | _ => True

/-- The device counts the references of the open files. -/
theorem Dev.Counted.step {limit : ℕ} (counted : s.dev.Counted limit s.engineRefs) (honest : KeepsCount limit s event)
    (taken : Legacy.step s event = some next) : next.dev.Counted limit next.engineRefs := by
  cases event with
  | opened file allocated interrupted =>
    obtain ⟨fresh, rfl⟩ := step_opened_iff.mp taken
    obtain same | added := opened_cases s file allocated interrupted
    · rw [same]
      exact counted
    · rw [added, engineRefs_opened fresh]
      exact counted
  | munmap mm start length =>
    obtain rfl := Option.some.inj taken
    exact counted
  | release file tgid answer =>
    obtain ⟨⟨opened, -⟩, rfl⟩ := step_release_iff.mp taken
    rw [engineRefs_release opened]
    refine Counted.dropRefs ?_ (refs_le_engineRefs opened) tgid answer
    split_ifs
    · exact counted.frame
    · exact counted.frame
  | call file tgid command =>
    obtain ⟨opened, taken⟩ := step_call_iff.mp taken
    have included := refs_le_engineRefs opened
    cases counting : command.counts with
    | false =>
      have kept := uncounted_dev counting (fun arg same => by subst same; exact honest) taken
      rw [engineRefs_congr (call_files taken).1 (call_refs counting taken)]
      exact counted.frame kept.1 kept.2
    | true =>
      cases command with
      | engineReq answers =>
        obtain ⟨dev, total⟩ := engineReq_effect opened taken
        rw [dev, total]
        exact counted.engineReq included answers honest
      | engineRel interrupted =>
        obtain ⟨dev, total⟩ := engineRel_effect opened taken
        rw [dev, total]
        exact counted.engineRel included tgid interrupted
      | _ => cases counting

theorem counted_initial (debugRoot : Bool) {limit : ℕ} (small : limit ≤ 2 ^ 31) :
    (State.initial debugRoot).dev.Counted limit (State.initial debugRoot).engineRefs :=
  ⟨by simp [State.initial, State.engineRefs, toInt], by simp [State.initial, State.engineRefs], small,
    by simp [State.initial, State.engineRefs]⟩

/-- The count is the sum of the references of the open files, and the clock status flag says whether it is
positive; so the engine is on for every file with a reference and off when no file has one. -/
structure Accounted (s : State) : Prop where
  refCount : s.dev.refCount = s.engineRefs
  clkStatus : s.dev.clkStatus = true ↔ 0 < s.engineRefs
  held : ∀ file ∈ s.files, 0 < (s.info file).engineRefs →
    (s.info file).engineRefs ≤ s.dev.refCount ∧ s.dev.clkStatus = true
  idle : (∀ file ∈ s.files, (s.info file).engineRefs = 0) → s.dev.refCount = 0 ∧ s.dev.clkStatus = false

/-- No `SET_REFCOUNT` to another value than the count has, and no request which takes it past the largest
`int`. -/
def StaysCounted (s : State) : Event → Prop
  | .call _ _ (.setRefcount arg) => toInt arg.toNat = s.dev.refCount
  | .call _ _ (.engineReq answers) => answers.interrupted = false → s.dev.refCount ≠ 2 ^ 31 - 1
  | _ => True

theorem Dev.Counted.accounted (counted : s.dev.Counted (2 ^ 31 - 1) s.engineRefs) : Accounted s := by
  obtain ⟨refCount, bound, -, clkStatus⟩ := counted
  have exact : s.dev.refCount = s.engineRefs := by rw [refCount, toInt_of_small] <;> omega
  refine ⟨exact, clkStatus, fun file opened some => ?_, fun none => ?_⟩
  · have included := refs_le_engineRefs opened
    exact ⟨by omega, clkStatus.mpr (by omega)⟩
  · have zero : s.engineRefs = 0 := Finset.sum_eq_zero none
    exact ⟨by omega, by simpa [zero] using clkStatus⟩

/-- The engine references are accounted for in every run without a foreign `SET_REFCOUNT` and an overflow. -/
theorem refs_accounted {debugRoot : Bool} {events : List Event} {final : State}
    (guarded : Guarded step StaysCounted (.initial debugRoot) events)
    (reached : run step (.initial debugRoot) events = some final) : Accounted final := by
  have counted := guarded.run_preserves (fun s => s.dev.Counted (2 ^ 31 - 1) s.engineRefs)
    (fun {s event next} counted allowed taken => by
      refine counted.step ?_ taken
      unfold StaysCounted at allowed
      unfold KeepsCount
      split at allowed
      · exact allowed
      · intro uninterrupted low
        have same := counted.refCount
        have bound := counted.bound
        have room := allowed uninterrupted
        unfold toInt at same
        omega
      · trivial)
    (counted_initial debugRoot (by omega)) reached
  exact counted.accounted

instance (s : State) (event : Event) : Decidable (StaysCounted s event) :=
  match event with
  | .call _ _ (.setRefcount _) | .call _ _ (.engineReq _) => by dsimp only [StaysCounted]; infer_instance
  | .call _ _ (.engineRel _) | .call _ _ (.enableVe _) | .call _ _ .disableVe | .call _ _ (.resetVe _)
  | .call _ _ (.getLock _) | .call _ _ (.releaseLock _) | .call _ _ (.setProcInfo _) | .call _ _ (.copyProcInfo _)
  | .call _ _ (.stopProcInfo _) | .call _ _ (.mapDmaBuf _) | .call _ _ (.unmapDmaBuf _)
  | .call _ _ (.allocCoherent _) | .call _ _ (.freeCoherent _ _) | .call _ _ (.mmap _ _) | .call _ _ (.other _ _)
  | .opened _ _ _ | .munmap _ _ _ | .release _ _ _ => instDecidableTrue

/-- Two files use the engine and the first one is closed. -/
theorem refs_accounted_two :
    let events : List Event := [.opened 0 true false, .call 0 7 (.engineReq {}), .opened 1 true false,
      .call 1 8 (.engineReq {}), .release 0 7 0]
    (run step (.initial true) events).isSome ∧
      ∀ final, run step (.initial true) events = some final → Accounted final :=
  ⟨by decide, fun _ reached => refs_accounted (by decide) reached⟩

/-- `SET_REFCOUNT` makes the count forget the reference of a file. -/
theorem refs_not_accounted :
    ¬ ∀ (events : List Event) (final : State), run step (.initial true) events = some final → Accounted final := by
  intro always
  have forgotten : (run step (.initial true) [.opened 0 true false, .call 0 7 (.engineReq {}),
      .call 0 7 (.setRefcount 0)]).map (fun s => (s.dev.refCount, s.engineRefs)) = some (0, 1) := by decide
  obtain ⟨final, reached, values⟩ := Option.map_eq_some_iff.mp forgotten
  have counted := (always _ final reached).refCount
  simp only [Prod.mk.injEq] at values
  omega

end H618Vpu.Legacy
