import H618Vpu.Soundness.LegacyCoherent

/-! # Handles of coherent buffers

The handles of a file, zero and the register selector share the page offsets of `mmap`. They stay apart as long
as no buffer is allocated under the number of the selector or of a live buffer; an offset with more than 32
bits is looked up by its low ones.
-/

namespace H618Vpu.Legacy

open Machine

/-- The handles of the live buffers. -/
def Coherent.handles (c : Coherent) : List ℕ := c.buffers.map (·.handle)

/-- The handles are distinct and not zero; each maps its own buffer, in any length up to its size; and an
offset that `Refused` speaks of, if it is no handle, zero or the selector, maps nothing. -/
structure Addressed (Refused : Vma → Prop) (c : Coherent) (file : ℕ) : Prop where
  distinct : c.handles.Nodup
  nonzero : 0 ∉ c.handles
  maps : ∀ buffer ∈ c.buffers, ∀ vma : Vma, vma.pgoff = buffer.handle → vma.length ≤ buffer.size →
    mmap c file vma 0 = (vma.pages file fun offset => .dma (buffer.dmaAddr + offset), 0)
  refuses : ∀ vma : Vma, Refused vma → vma.pgoff ≠ 0 → vma.pgoff ≠ registerSelector → vma.pgoff ∉ c.handles →
    ∀ answer, mmap c file vma answer = ([], if vma.length = 0 then 0 else einval)

/-- The low 32 bits of the offset name a live buffer only if the offset has no others. -/
def Coherent.Unambiguous (c : Coherent) (vma : Vma) : Prop :=
  vma.pgoff % 2 ^ 32 ∈ c.handles → vma.pgoff < 2 ^ 32

/-- No buffer is allocated under the number of the register selector or of a live buffer. -/
def NumbersApart (s : State) : Event → Prop
  | .call file _ (.allocCoherent answers) =>
      let c := (s.info file).coherent
      Coherent.Succeeds answers → c.nextHandle ≠ registerSelector ∧ c.nextHandle ∉ c.handles
  | _ => True

/-- The buffers of a file are sound, and their handles are distinct and not the selector. -/
structure HandlesApart (c : Coherent) : Prop where
  sound : c.Sound
  distinct : c.handles.Nodup
  apart : registerSelector ∉ c.handles

namespace HandlesApart

variable {c : Coherent} {buffer : CoherentBuf}

theorem initial : HandlesApart {} := ⟨.initial, List.nodup_nil, List.not_mem_nil⟩

theorem alloc (valid : HandlesApart c) {answers : AllocAnswers}
    (fresh : Coherent.Succeeds answers → c.nextHandle ≠ registerSelector ∧ c.nextHandle ∉ c.handles) :
    HandlesApart (c.alloc answers).1 := by
  refine ⟨valid.sound.alloc answers, ?_, ?_⟩
  all_goals
    obtain ⟨same, -⟩ | ⟨size, dmaAddr, succeeds, -, added⟩ := c.alloc_cases answers
  · rw [Coherent.handles, same]
    exact valid.distinct
  · rw [added, Coherent.handles, List.map_append]
    have longer := valid.distinct.concat (fresh succeeds).2
    rwa [List.concat_eq_append] at longer
  · rw [Coherent.handles, same]
    exact valid.apart
  · rw [added, Coherent.handles, List.map_append]
    intro member
    rcases List.mem_append.mp member with old | new
    · exact valid.apart old
    · exact (fresh succeeds).1 (List.mem_singleton.mp new).symm

theorem remove (valid : HandlesApart c) (handle : ℕ) : HandlesApart (c.remove handle) := by
  have sub : (c.remove handle).handles.Sublist c.handles := (List.eraseP_sublist ..).map _
  exact ⟨valid.sound.remove handle, valid.distinct.sublist sub, fun member => valid.apart (sub.subset member)⟩

theorem find_self (valid : HandlesApart c) (live : buffer ∈ c.buffers) : c.find buffer.handle = some buffer := by
  cases found : c.find buffer.handle with
  | none => exact absurd (List.mem_map_of_mem live) (Coherent.find_eq_none_iff.mp found)
  | some other =>
    obtain ⟨member, same⟩ := Coherent.find_mem found
    exact congrArg some (List.inj_on_of_nodup_map valid.distinct member live same)

theorem addressed (valid : HandlesApart c) (file : ℕ) : Addressed c.Unambiguous c file := by
  refine ⟨valid.distinct, fun member => ?_, fun buffer live vma offset fits => ?_, ?_⟩
  · obtain ⟨buffer, live, zero⟩ := List.mem_map.mp member
    exact (valid.sound.handles buffer live).1 zero
  · obtain ⟨nonzero, small⟩ := valid.sound.handles buffer live
    have selector : buffer.handle ≠ registerSelector := fun same =>
      valid.apart (same ▸ List.mem_map_of_mem live)
    by_cases empty : vma.length = 0
    · simp [mmap, Vma.pages, empty, pageSize]
    · rw [mmap_lookup empty (by unfold pageSize; omega) ⟨by omega, by omega⟩, offset, Nat.mod_eq_of_lt small,
        valid.find_self live]
      dsimp only
      rw [if_neg (Nat.not_lt.mpr fits), if_neg (not_not.mpr rfl)]
  · intro vma unambiguous nonzero selector fresh answer
    by_cases empty : vma.length = 0
    · simp [mmap, empty]
    · rw [if_neg empty]
      by_cases large : vma.pgoff > (2 ^ 64 - 1) / pageSize
      · rw [mmap, if_neg empty, if_pos large]
      · have unknown : c.find (vma.pgoff % 2 ^ 32) = none := by
          rw [Coherent.find_eq_none_iff]
          intro member
          rw [Nat.mod_eq_of_lt (unambiguous member)] at member
          exact fresh member
        rw [mmap_lookup empty (Nat.not_lt.mp large) ⟨nonzero, selector⟩, unknown]

end HandlesApart

/-- An ambiguous offset is not refused: it maps the buffer which its low 32 bits name. -/
theorem mmap_low_bits {c : Coherent} {file : ℕ} {vma : Vma} (valid : HandlesApart c) {buffer : CoherentBuf}
    (live : buffer ∈ c.buffers) (low : vma.pgoff % 2 ^ 32 = buffer.handle) (nonempty : vma.length ≠ 0)
    (small : vma.pgoff ≤ (2 ^ 64 - 1) / pageSize) (fits : vma.length ≤ buffer.size) :
    mmap c file vma 0 = (vma.pages file fun offset => .dma (buffer.dmaAddr + offset), 0) := by
  have selector : buffer.handle ≠ registerSelector := fun same => valid.apart (same ▸ List.mem_map_of_mem live)
  have nonzero := (valid.sound.handles buffer live).1
  have offset : vma.pgoff ≠ 0 ∧ vma.pgoff ≠ registerSelector := by
    unfold registerSelector maccRegsBase pageSize at *
    omega
  rw [mmap_lookup nonempty small offset, low, valid.find_self live]
  dsimp only
  rw [if_neg (Nat.not_lt.mpr fits), if_neg (not_not.mpr rfl)]

variable {s next : State} {event : Event} {file : ℕ}

theorem handlesApart_step (valid : ∀ file, HandlesApart (s.info file).coherent) (allowed : NumbersApart s event)
    (taken : step s event = some next) (file : ℕ) : HandlesApart (next.info file).coherent := by
  cases event with
  | opened opening allocated interrupted =>
    obtain ⟨-, rfl⟩ := step_opened_iff.mp taken
    obtain same | added := opened_cases s opening allocated interrupted
    · rw [same]
      exact valid file
    · rw [added]
      by_cases same : file = opening
      · rw [same, setInfo_self]
        exact .initial
      · rw [setInfo_of_ne _ _ same]
        exact valid file
  | munmap mm start length =>
    obtain rfl := Option.some.inj taken
    exact valid file
  | release closing tgid answer =>
    obtain ⟨-, rfl⟩ := step_release_iff.mp taken
    by_cases same : file = closing
    · rw [same, State.release, setInfo_self]
      exact .initial
    · rw [State.release, setInfo_of_ne _ _ same]
      exact valid file
  | call calling tgid command =>
    obtain ⟨opened, taken⟩ := step_call_iff.mp taken
    by_cases own : file = calling
    · subst own
      cases touching : command.touchesCoherent with
      | false =>
        rw [(call_coherent touching taken).2]
        exact valid file
      | true =>
        cases command with
        | allocCoherent answers =>
          rw [(allocCoherent_effect taken).2]
          exact (valid file).alloc allowed
        | freeCoherent request answer =>
          rw [(freeCoherent_effect taken).2.2]
          obtain unchanged | ⟨handle, freed, -, -, removed⟩ :=
            free_cases (s.info file).coherent s.dev (s.info file).engineRefs request answer
          · rw [unchanged]
            exact valid file
          · rw [removed]
            exact (valid file).remove handle
        | mmap vma answer =>
          obtain rfl := Option.some.inj taken
          exact valid file
        | _ => cases touching
    · rw [(call_files taken).2 file own]
      exact valid file

/-- In a run whose numbers stay apart, handles address exactly their buffers. -/
theorem handles_addressed {debugRoot : Bool} {events : List Event} {final : State}
    (guarded : Guarded step NumbersApart (.initial debugRoot) events)
    (reached : run step (.initial debugRoot) events = some final) (file : ℕ) :
    Addressed (final.info file).coherent.Unambiguous (final.info file).coherent file := by
  have valid := guarded.run_preserves (fun s => ∀ file, HandlesApart (s.info file).coherent)
    (fun valid allowed taken => handlesApart_step valid allowed taken) (fun _ => .initial) reached
  exact (valid file).addressed file

instance (s : State) (event : Event) : Decidable (NumbersApart s event) :=
  match event with
  | .call _ _ (.allocCoherent _) => by dsimp only [NumbersApart]; infer_instance
  | .call _ _ (.freeCoherent _ _) | .call _ _ (.engineReq _) | .call _ _ (.engineRel _) | .call _ _ (.enableVe _)
  | .call _ _ .disableVe | .call _ _ (.resetVe _) | .call _ _ (.setRefcount _) | .call _ _ (.getLock _)
  | .call _ _ (.releaseLock _) | .call _ _ (.setProcInfo _) | .call _ _ (.copyProcInfo _)
  | .call _ _ (.stopProcInfo _) | .call _ _ (.mapDmaBuf _) | .call _ _ (.unmapDmaBuf _) | .call _ _ (.mmap _ _)
  | .call _ _ (.other _ _) | .opened _ _ _ | .munmap _ _ _ | .release _ _ _ => instDecidableTrue

/-- Two buffers are allocated and the first one is freed. -/
theorem handles_addressed_two :
    let events : List Event := [.opened 0 true false,
      .call 0 7 (.allocCoherent { size := some 4096, dmaAddr := some 0x40000000 }),
      .call 0 7 (.allocCoherent { size := some 5000, dmaAddr := some 0x40001000 }),
      .call 0 7 (.freeCoherent (some 1) 0)]
    (run step (.initial true) events).isSome ∧
      ∀ final, run step (.initial true) events = some final →
        Addressed (final.info 0).coherent.Unambiguous (final.info 0).coherent 0 :=
  ⟨by decide, fun _ reached => handles_addressed (by decide) reached 0⟩

/-- An allocation whose result cannot be written back uses up a handle. -/
theorem alloc_unwritten {c : Coherent} :
    (c.alloc { size := some 4096, dmaAddr := some 0x40000000, copied := false }).1 =
      { c with nextHandle := (c.nextHandle + 1) % 2 ^ 32 } := by
  by_cases zero : c.nextHandle = 0 <;> simp [Coherent.alloc, zero]

theorem run_unwritten (count : ℕ) {s : State} (opened : file ∈ s.files)
    (room : (s.info file).coherent.nextHandle + count < 2 ^ 32) :
    ∃ next, run step s (List.replicate count
        (.call file 7 (.allocCoherent { size := some 4096, dmaAddr := some 0x40000000, copied := false }))) =
        some next ∧ next.files = s.files ∧
      (next.info file).coherent =
        { buffers := (s.info file).coherent.buffers, nextHandle := (s.info file).coherent.nextHandle + count } := by
  induction count generalizing s with
  | zero => exact ⟨s, rfl, rfl, rfl⟩
  | succ count ih =>
    obtain ⟨middle, taken⟩ : ∃ middle, s.call file 7
        (.allocCoherent { size := some 4096, dmaAddr := some 0x40000000, copied := false }) = some middle := ⟨_, rfl⟩
    have files := (call_files taken).1
    have coherent := (allocCoherent_effect taken).2
    rw [alloc_unwritten, Nat.mod_eq_of_lt (by omega)] at coherent
    obtain ⟨next, reached, same, values⟩ := ih (files ▸ opened) (by rw [coherent]; dsimp only; omega)
    refine ⟨next, run_cons_iff.mpr ⟨middle, step_call_iff.mpr ⟨opened, taken⟩, reached⟩, same.trans files, ?_⟩
    rw [values, coherent]
    simp only [Coherent.mk.injEq, true_and]
    omega

/-- The buffer of the `7182`nd allocation cannot be mapped: its handle selects the registers. -/
theorem handles_not_addressed :
    ¬ ∀ (events : List Event) (final : State), (∀ event ∈ events, UsesCoherent event) →
      run step (.initial true) events = some final →
      ∀ file ∈ final.files, Addressed (fun _ => True) (final.info file).coherent file := by
  intro always
  let unwritten : Event :=
    .call 0 7 (.allocCoherent { size := some 4096, dmaAddr := some 0x40000000, copied := false })
  let written : AllocAnswers := { size := some 4096, dmaAddr := some 0x40000000 }
  let first : State := ((State.initial true).opened 0 true false).1
  have known : 0 ∈ first.files := by decide
  obtain ⟨middle, reached, files, coherent⟩ := run_unwritten 7181 known (by decide)
  obtain ⟨final, taken⟩ : ∃ final, middle.call 0 7 (.allocCoherent written) = some final := ⟨_, rfl⟩
  have opened : 0 ∈ middle.files := by rw [files]; decide
  have whole : run step (.initial true) (.opened 0 true false :: (List.replicate 7181 unwritten ++
      [.call 0 7 (.allocCoherent written)])) = some final :=
    run_cons_iff.mpr ⟨first, rfl, run_append.mpr ⟨middle, reached,
      run_cons_iff.mpr ⟨final, step_call_iff.mpr ⟨opened, taken⟩, rfl⟩⟩⟩
  have used : ∀ event ∈ .opened 0 true false :: (List.replicate 7181 unwritten ++
      [.call 0 7 (.allocCoherent written)]), UsesCoherent event := by
    intro event member
    rcases List.mem_cons.mp member with rfl | member
    · trivial
    · rcases List.mem_append.mp member with old | new
      · obtain rfl := List.eq_of_mem_replicate old
        trivial
      · obtain rfl := List.mem_singleton.mp new
        trivial
  have live : (final.info 0).coherent.buffers = [⟨7182, 4096, 0x40000000⟩] := by
    rw [(allocCoherent_effect taken).2, coherent]
    rfl
  have maps := (always _ final used whole 0 ((call_files taken).1 ▸ opened)).maps ⟨7182, 4096, 0x40000000⟩
    (by rw [live]; exact List.mem_singleton_self _) ⟨7, 0x10000, 4096, 7182, false⟩ rfl le_rfl
  have refused : (mmap (final.info 0).coherent 0 ⟨7, 0x10000, 4096, 7182, false⟩ 0).2 = eperm := rfl
  rw [maps] at refused
  exact absurd refused (by decide)

end H618Vpu.Legacy
