import H618Vpu.Soundness.LegacyEngine

/-! # DMA-BUF mappings

Every mapping is either on the list or was released once, as long as the engine is powered up with an empty
list only: powering up makes the list anew. A close takes all mappings of the closing process off, whichever
file they were made on, except those whose address has more than 32 bits.
-/

namespace H618Vpu.Legacy

open Machine

namespace Dev

variable {d next last : Dev} {tgid fd : ℤ} {unmapAll : Bool} {addr : ℕ}

/-- The mappings which `unmap_dma_buf_addr` takes off when it is to take all. -/
def Own (tgid : ℤ) (info : DmaBufInfo) : Prop := info.pId = tgid ∧ info.addr < 2 ^ 32

instance (tgid : ℤ) (info : DmaBufInfo) : Decidable (Own tgid info) := inferInstanceAs (Decidable (_ ∧ _))

theorem unmapLoop_perm (tgid : ℤ) (unmapAll : Bool) (fd : ℤ) (addr : ℕ) (list : List DmaBufInfo) :
    ((unmapLoop tgid unmapAll fd addr list).1 ++ (unmapLoop tgid unmapAll fd addr list).2).Perm list := by
  induction list with
  | nil => exact .refl _
  | cons info rest ih =>
    cases unmapAll with
    | true =>
      simp only [unmapLoop, ↓reduceIte]
      split_ifs
      · exact List.perm_middle.trans (ih.cons info)
      · exact ih.cons info
    | false =>
      simp only [unmapLoop, Bool.false_eq_true, if_false]
      split_ifs
      · exact List.perm_append_singleton info rest
      · exact ih.cons info

theorem unmapLoop_sublist (tgid : ℤ) (unmapAll : Bool) (fd : ℤ) (addr : ℕ) (list : List DmaBufInfo) :
    (unmapLoop tgid unmapAll fd addr list).1.Sublist list := by
  induction list with
  | nil => exact .refl _
  | cons info rest ih =>
    cases unmapAll with
    | true =>
      simp only [unmapLoop, ↓reduceIte]
      split_ifs
      · exact ih.cons info
      · exact ih.cons_cons info
    | false =>
      simp only [unmapLoop, Bool.false_eq_true, if_false]
      split_ifs
      · exact List.sublist_cons_self info rest
      · exact ih.cons_cons info

/-- What is released is what was asked for. -/
theorem unmapLoop_one {list : List DmaBufInfo} {info : DmaBufInfo}
    (released : info ∈ (unmapLoop tgid false fd addr list).2) :
    info.fd = fd ∧ info.pId = tgid ∧ info.addr = addr := by
  induction list with
  | nil => cases released
  | cons head rest ih =>
    simp only [unmapLoop, Bool.false_eq_true, if_false] at released
    split_ifs at released with asked
    · obtain rfl := List.mem_singleton.mp released
      exact asked
    · exact ih released

theorem unmapLoop_all (tgid fd : ℤ) (addr : ℕ) (list : List DmaBufInfo) :
    (∀ info ∈ (unmapLoop tgid true fd addr list).2, Own tgid info) ∧
      ∀ info ∈ (unmapLoop tgid true fd addr list).1, ¬ Own tgid info := by
  induction list with
  | nil => exact ⟨nofun, nofun⟩
  | cons head rest ih =>
    have own : (head.pId = tgid ∧ head.addr = head.addr % 2 ^ 32) ↔ Own tgid head := by
      unfold Own
      omega
    simp only [unmapLoop, ↓reduceIte, true_and, own]
    split_ifs with mine
    · exact ⟨List.forall_mem_cons.mpr ⟨mine, ih.1⟩, ih.2⟩
    · exact ⟨ih.1, List.forall_mem_cons.mpr ⟨mine, ih.2⟩⟩

/-- From `d` to `next` some mappings of the process went from the list to the released ones. -/
structure Prunes (tgid : ℤ) (d next : Dev) : Prop where
  serials : next.nextSerial = d.nextSerial
  moved : (next.list ++ next.released).Perm (d.list ++ d.released)
  kept : next.list.Sublist d.list
  own : ∀ info ∈ d.list, info ∉ next.list → Own tgid info

namespace Prunes

theorem frame (list : next.list = d.list := by rfl) (released : next.released = d.released := by rfl)
    (serials : next.nextSerial = d.nextSerial := by rfl) : Prunes tgid d next :=
  ⟨serials, by rw [list, released], by rw [list], fun info member gone => absurd (list ▸ member) gone⟩

theorem trans (first : Prunes tgid d next) (second : Prunes tgid next last) : Prunes tgid d last where
  serials := second.serials.trans first.serials
  moved := second.moved.trans first.moved
  kept := second.kept.trans first.kept
  own info member gone := by
    by_cases still : info ∈ next.list
    · exact second.own info still gone
    · exact first.own info member still

end Prunes

/-- Whatever it is asked for, `unmap_dma_buf_addr` moves mappings from the list to the released ones. -/
theorem unmapDmaBufAddr_moved (d : Dev) (tgid : ℤ) (unmapAll : Bool) (fd : ℤ) (addr : ℕ) :
    let next := d.unmapDmaBufAddr tgid unmapAll fd addr
    (next.list ++ next.released).Perm (d.list ++ d.released) ∧ next.list.Sublist d.list ∧
      ∀ info ∈ d.list, info ∉ next.list → info ∈ (unmapLoop tgid unmapAll fd addr d.list).2 := by
  have moved := unmapLoop_perm tgid unmapAll fd addr d.list
  refine ⟨?_, unmapLoop_sublist tgid unmapAll fd addr d.list, fun info member gone => ?_⟩
  · have swapped : ((unmapLoop tgid unmapAll fd addr d.list).1 ++
        (d.released ++ (unmapLoop tgid unmapAll fd addr d.list).2)).Perm
        ((unmapLoop tgid unmapAll fd addr d.list).1 ++
          ((unmapLoop tgid unmapAll fd addr d.list).2 ++ d.released)) := List.perm_append_comm.append_left _
    refine swapped.trans ?_
    rw [← List.append_assoc]
    exact moved.append_right _
  · exact (List.mem_append.mp (moved.mem_iff.mpr member)).resolve_left gone

theorem unmapDmaBufAddr_prunes (d : Dev) (tgid fd : ℤ) (addr : ℕ) :
    Prunes tgid d (d.unmapDmaBufAddr tgid true fd addr) := by
  obtain ⟨moved, kept, gone⟩ := d.unmapDmaBufAddr_moved tgid true fd addr
  exact ⟨rfl, moved, kept, fun info member away => (unmapLoop_all tgid fd addr d.list).1 info (gone info member away)⟩

theorem disableHwClk_prunes (d : Dev) (tgid : ℤ) : Prunes tgid d (d.disableHwClk tgid) := by
  obtain ⟨-, same⟩ | ⟨-, down⟩ := d.disableHwClk_cases tgid
  · rw [same]
    exact .frame
  · rw [down]
    exact Prunes.trans .frame (unmapDmaBufAddr_prunes _ tgid 0 0)

theorem dropRefs_prunes (d : Dev) (refs : ℕ) (tgid : ℤ) (answer : ℕ) :
    Prunes tgid d (d.dropRefs refs tgid answer) := by
  unfold dropRefs resetDeassert
  dsimp only
  split_ifs
  · exact .frame
  · exact Prunes.trans .frame (disableHwClk_prunes _ tgid)
  · exact .frame
  · exact .frame

/-- A release that takes mappings off the list shuts the engine down. -/
theorem engineRel_prunes (refs : ℕ) (d : Dev) (tgid : ℤ) (interrupted : Bool) :
    let next := (engineRel refs d tgid interrupted).1.2
    Prunes tgid d next ∧ (next.list = d.list ∨ (d.clkStatus = true ∧ next.clkStatus = false)) := by
  obtain ⟨ret, refused⟩ | ⟨-, -, -, ret, counts⟩ | ⟨-, -, -, stops⟩ := engineRel_cases refs d tgid interrupted
  · rw [refused]
    exact ⟨.frame, .inl rfl⟩
  · rw [counts]
    exact ⟨.frame, .inl rfl⟩
  · rw [stops]
    refine ⟨Prunes.trans .frame (disableHwClk_prunes _ tgid), ?_⟩
    obtain ⟨-, same⟩ | ⟨on, down⟩ := disableHwClk_cases { d with refCount := 0 } tgid
    · exact .inl (by rw [same])
    · exact .inr ⟨on, by rw [down]; rfl⟩

end Dev

/-- Every mapping was made once and is either on the list or was released once; none is left when no file is
open. -/
structure MappingsKept (s : State) : Prop where
  once : ((s.dev.list ++ s.dev.released).map (·.serial)).Perm (List.range s.dev.nextSerial)
  closed : s.files = ∅ → s.dev.list = []

/-- The engine is powered down between the two states. -/
def ShutDown (s next : State) : Prop := s.dev.clkStatus = true ∧ next.dev.clkStatus = false

/-- A mapping leaves the list by an unmap request of its process for its descriptor and address, by the close
of its file, or when the last reference shuts the engine down. -/
def RemovedRightfully (s : State) (event : Event) (next : State) : Prop :=
  ∀ info ∈ s.dev.list, info ∉ next.dev.list →
    match event with
    | .call _ tgid (.unmapDmaBuf (some (fd, addr))) => info.fd = fd ∧ info.addr = addr ∧ info.pId = tgid
    | .call _ _ (.engineRel _) => ShutDown s next
    | .release file _ _ => info.file = file ∨ ShutDown s next
    | _ => False

/-- The request powers the engine up. -/
def PowersUp (s : State) (answers : Answers) : Prop :=
  answers = {} ∧ toInt (s.dev.refCount + 1) = 1 ∧ s.dev.clkStatus = false

/-- The close of the file gives back the last references. -/
def GivesBackLast (s : State) (file : ℕ) : Prop :=
  (s.info file).engineRefs ≠ 0 ∧ s.dev.refCountAfter (s.info file).engineRefs = 0 ∧ s.dev.clkStatus = true

/-- The engine is powered up with an empty list only; a close that does not give back the last references takes
off mappings of its own file only; and at the last close all mappings are of the closing process, with
addresses of at most 32 bits. -/
def KeepsMappings (s : State) : Event → Prop
  | .call _ _ (.engineReq answers) => PowersUp s answers → s.dev.list = []
  | .release file tgid _ =>
      (GivesBackLast s file ∨ ∀ info ∈ s.dev.list, Dev.Own tgid info → info.file = file) ∧
      (s.files = {file} → ∀ info ∈ s.dev.list, Dev.Own tgid info)
  | _ => True

variable {s next : State} {event : Event} {file : ℕ} {tgid : ℤ}

theorem MappingsKept.mono (kept : MappingsKept s) (serials : next.dev.nextSerial = s.dev.nextSerial)
    (moved : (next.dev.list ++ next.dev.released).Perm (s.dev.list ++ s.dev.released))
    (closed : next.files = ∅ → next.dev.list = []) : MappingsKept next :=
  ⟨by rw [serials]; exact (moved.map _).trans kept.once, closed⟩

theorem RemovedRightfully.of_list (same : next.dev.list = s.dev.list) : RemovedRightfully s event next :=
  fun _ member gone => absurd (same ▸ member) gone

/-- A close takes off mappings of the closing process only, and all but those with larger addresses. -/
theorem release_prunes (s : State) (file : ℕ) (tgid : ℤ) (answer : ℕ) :
    Dev.Prunes tgid s.dev (s.release file tgid answer).dev ∧
      ∀ info ∈ (s.release file tgid answer).dev.list, ¬ Dev.Own tgid info := by
  dsimp only [State.release, setInfo_dev]
  generalize dev : (if (s.info file).engineRefs ≠ 0 ∨ (s.info file).lockFlags ≠ 0 ∨
    (s.info file).coherent.buffers ≠ [] then s.dev.quiesceDma else s.dev) = d
  have quiesced : Dev.Prunes tgid s.dev d := by
    rw [← dev]
    split_ifs <;> exact .frame
  have unmapped := Dev.unmapDmaBufAddr_prunes d tgid 0 0
  have dropped := Dev.dropRefs_prunes (d.unmapDmaBufAddr tgid true 0 0) (s.info file).engineRefs tgid answer
  refine ⟨quiesced.trans (unmapped.trans dropped), fun info left => ?_⟩
  exact (Dev.unmapLoop_all tgid 0 0 d.list).2 info (dropped.kept.subset left)

theorem release_shutsDown (s : State) (file : ℕ) (tgid : ℤ) (answer : ℕ) (last : GivesBackLast s file) :
    (s.release file tgid answer).dev.clkStatus = false := by
  obtain ⟨some, none, on⟩ := last
  dsimp only [State.release, setInfo_dev]
  rw [if_pos (.inl some), Dev.dropRefs, if_neg some]
  have zero : (s.dev.quiesceDma.unmapDmaBufAddr tgid true 0 0).refCountAfter (s.info file).engineRefs = 0 := none
  obtain ⟨off, -⟩ | ⟨-, down⟩ := Dev.disableHwClk_cases
    { s.dev.quiesceDma.unmapDmaBufAddr tgid true 0 0 with refCount := 0 } tgid
  · exact absurd (on.symm.trans off) (by decide)
  · simp only [zero, if_true, down]
    rfl

/-- A request that does not power the engine up leaves the list alone, and one that does makes it anew. -/
theorem engineReq_list {answers : Answers} (taken : s.call file tgid (.engineReq answers) = some next) :
    next.dev.released = s.dev.released ∧ next.dev.nextSerial = s.dev.nextSerial ∧
      (next.dev.list = s.dev.list ∨ (PowersUp s answers ∧ next.dev.list = [])) := by
  have effect : next.dev = (Dev.engineReq (s.info file).engineRefs s.dev answers).1.2 := by
    rw [← Option.some.inj taken]
    rfl
  obtain ⟨_, _, _, -, -, refused⟩ | ⟨-, -, -, counts⟩ | ⟨-, first, off, succeed, powers⟩ :=
    Dev.engineReq_cases (s.info file).engineRefs s.dev answers
  · rw [effect, refused]
    exact ⟨rfl, rfl, .inl rfl⟩
  · rw [effect, counts]
    exact ⟨rfl, rfl, .inl rfl⟩
  · rw [effect, powers]
    exact ⟨rfl, rfl, .inr ⟨⟨succeed, first, off⟩, rfl⟩⟩

/-- The commands that touch the device but not its mappings. -/
theorem call_mappings {command : Command} (taken : s.call file tgid command = some next)
    (clocks : (∃ answer, command = .enableVe answer) ∨ command = .disableVe ∨ (∃ answer, command = .resetVe answer) ∨
      (∃ arg, command = .setRefcount arg) ∨ ∃ request answer, command = .freeCoherent request answer) :
    Dev.Prunes tgid s.dev next.dev ∧ next.dev.list = s.dev.list := by
  obtain ⟨answer, rfl⟩ | rfl | ⟨answer, rfl⟩ | ⟨arg, rfl⟩ | ⟨request, answer, rfl⟩ := clocks
  · obtain rfl := Option.some.inj taken
    dsimp only [Dev.enableVe]
    split_ifs <;> exact ⟨.frame, rfl⟩
  · obtain rfl := Option.some.inj taken
    exact ⟨.frame, rfl⟩
  · obtain rfl := Option.some.inj taken
    dsimp only [Dev.resetVe]
    split_ifs <;> exact ⟨.frame, rfl⟩
  · obtain ⟨count, effect⟩ : ∃ count, next.dev = { s.dev with refCount := count } :=
      ⟨_, by rw [← Option.some.inj taken]; rfl⟩
    rw [effect]
    exact ⟨.frame, rfl⟩
  · obtain ⟨effect, -, -⟩ := freeCoherent_effect taken
    obtain same | ⟨_, _, -, -, freed⟩ :=
      free_cases (s.info file).coherent s.dev (s.info file).engineRefs request answer
    · rw [effect, same]
      exact ⟨.frame, rfl⟩
    · rw [effect, freed]
      dsimp only [Dev.quiesceDma, Dev.resetDeassert]
      split_ifs <;> exact ⟨.frame, rfl⟩

/-- What one call does to the mappings. -/
theorem MappingsKept.step (kept : MappingsKept s) (allowed : KeepsMappings s event)
    (taken : Legacy.step s event = some next) : MappingsKept next ∧ RemovedRightfully s event next := by
  cases event with
  | opened file allocated interrupted =>
    obtain ⟨fresh, rfl⟩ := step_opened_iff.mp taken
    obtain same | added := opened_cases s file allocated interrupted
    · rw [same]
      exact ⟨kept, .of_list rfl⟩
    · rw [added]
      exact ⟨kept.mono rfl (.refl _) fun empty => absurd empty (Finset.insert_ne_empty _ _), .of_list rfl⟩
  | munmap mm start length =>
    obtain rfl := Option.some.inj taken
    exact ⟨kept.mono rfl (.refl _) kept.closed, .of_list rfl⟩
  | release file tgid answer =>
    obtain ⟨⟨opened, -⟩, rfl⟩ := step_release_iff.mp taken
    obtain ⟨pruned, rest⟩ := release_prunes s file tgid answer
    refine ⟨kept.mono pruned.serials pruned.moved fun empty => ?_, fun info member gone => ?_⟩
    · have only : s.files = {file} := by
        rw [← Finset.insert_erase opened]
        exact congrArg (insert file) empty
      exact List.eq_nil_iff_forall_not_mem.mpr fun info left =>
        rest info left (allowed.2 only info (pruned.kept.subset left))
    · obtain last | own := allowed.1
      · exact .inr ⟨last.2.2, release_shutsDown s file tgid answer last⟩
      · exact .inl (own info member (pruned.own info member gone))
  | call file tgid command =>
    obtain ⟨opened, taken⟩ := step_call_iff.mp taken
    have open_ : next.files ≠ ∅ := by
      rw [(call_files taken).1]
      exact Finset.ne_empty_of_mem opened
    cases command with
    | engineReq answers =>
      obtain ⟨released, serials, same | ⟨powers, new⟩⟩ := engineReq_list taken
      · exact ⟨kept.mono serials (by rw [same, released]) (absurd · open_), .of_list same⟩
      · have same : next.dev.list = s.dev.list := by rw [new, allowed powers]
        exact ⟨kept.mono serials (by rw [same, released]) (absurd · open_), .of_list same⟩
    | engineRel interrupted =>
      obtain ⟨pruned, shut⟩ := Dev.engineRel_prunes (s.info file).engineRefs s.dev tgid interrupted
      rw [← (engineRel_effect opened taken).1] at pruned shut
      refine ⟨kept.mono pruned.serials pruned.moved (absurd · open_), ?_⟩
      obtain same | off := shut
      · exact .of_list same
      · exact fun _ _ _ => off
    | enableVe _ | disableVe | resetVe _ | setRefcount _ | freeCoherent _ _ =>
      obtain ⟨pruned, same⟩ := call_mappings taken (by simp)
      exact ⟨kept.mono pruned.serials pruned.moved (absurd · open_), .of_list same⟩
    | mapDmaBuf answers =>
      obtain rfl := Option.some.inj taken
      obtain same | ⟨fd, -, mapped⟩ := s.dev.mapDmaBuf_cases file tgid answers
      · exact ⟨kept.mono (by rw [same]) (by rw [same]) (absurd · open_), .of_list (by rw [same])⟩
      · refine ⟨⟨?_, (absurd · open_)⟩, fun info member gone => ?_⟩
        · rw [mapped]
          dsimp only
          rw [List.range_succ, List.append_assoc, List.singleton_append]
          have added : (s.dev.list ++ ⟨s.dev.nextSerial, file, fd, answers.addr, tgid⟩ :: s.dev.released).Perm
              (⟨s.dev.nextSerial, file, fd, answers.addr, tgid⟩ :: (s.dev.list ++ s.dev.released)) :=
            List.perm_middle
          exact (added.map DmaBufInfo.serial).trans
            ((kept.once.cons s.dev.nextSerial).trans (List.perm_append_singleton _ _).symm)
        · rw [mapped] at gone
          exact absurd (List.mem_append_left _ member) gone
    | unmapDmaBuf param =>
      obtain rfl := Option.some.inj taken
      cases param with
      | none => exact ⟨kept.mono rfl (.refl _) (absurd · open_), .of_list rfl⟩
      | some param =>
        obtain ⟨fd, addr⟩ := param
        obtain ⟨moved, -, released⟩ := s.dev.unmapDmaBufAddr_moved tgid false fd addr
        refine ⟨kept.mono rfl moved (absurd · open_), fun info member gone => ?_⟩
        obtain ⟨sameFd, samePid, sameAddr⟩ := Dev.unmapLoop_one (released info member gone)
        exact ⟨sameFd, sameAddr, samePid⟩
    | getLock _ | releaseLock _ | setProcInfo _ | copyProcInfo _ | stopProcInfo _ | allocCoherent _ | mmap _ _
    | other _ _ =>
      have same := call_dev rfl taken
      exact ⟨kept.mono (by rw [same]) (by rw [same]) (absurd · open_), .of_list (by rw [same])⟩

/-- In a run of such calls no mapping is lost or released twice, every one is removed by whom it should be, and
none outlives the last close. -/
theorem mappings_kept {debugRoot : Bool} {events : List Event} {final : State}
    (guarded : Guarded step KeepsMappings (.initial debugRoot) events)
    (reached : run step (.initial debugRoot) events = some final) :
    MappingsKept final ∧ ∀ event next, KeepsMappings final event → step final event = some next →
      RemovedRightfully final event next := by
  have kept : MappingsKept final := guarded.run_preserves MappingsKept
    (fun before allowed taken => (before.step allowed taken).1) ⟨.refl _, fun _ => rfl⟩ reached
  exact ⟨kept, fun event next allowed taken => (kept.step allowed taken).2⟩

instance (s : State) (answers : Answers) : Decidable (PowersUp s answers) := inferInstanceAs (Decidable (_ ∧ _ ∧ _))

instance (s : State) (file : ℕ) : Decidable (GivesBackLast s file) := inferInstanceAs (Decidable (_ ∧ _ ∧ _))

instance (s : State) (event : Event) : Decidable (KeepsMappings s event) :=
  match event with
  | .call _ _ (.engineReq _) | .release _ _ _ => by dsimp only [KeepsMappings]; infer_instance
  | .call _ _ (.engineRel _) | .call _ _ (.enableVe _) | .call _ _ .disableVe | .call _ _ (.resetVe _)
  | .call _ _ (.setRefcount _) | .call _ _ (.getLock _) | .call _ _ (.releaseLock _) | .call _ _ (.setProcInfo _)
  | .call _ _ (.copyProcInfo _) | .call _ _ (.stopProcInfo _) | .call _ _ (.mapDmaBuf _)
  | .call _ _ (.unmapDmaBuf _) | .call _ _ (.allocCoherent _) | .call _ _ (.freeCoherent _ _)
  | .call _ _ (.mmap _ _) | .call _ _ (.other _ _) | .opened _ _ _ | .munmap _ _ _ => instDecidableTrue

/-- Two processes map a buffer each while the engine is on, and one of them unmaps it again and closes. -/
theorem mappings_kept_two :
    let events : List Event := [.opened 0 true false, .call 0 7 (.engineReq {}), .opened 1 true false,
      .call 0 7 (.mapDmaBuf { fd := some 5, addr := 0x40000000 }),
      .call 1 8 (.mapDmaBuf { fd := some 5, addr := 0x50000000 }),
      .call 1 8 (.unmapDmaBuf (some (5, 0x50000000))), .release 1 8 0]
    (run step (.initial true) events).isSome ∧
      ∀ final, run step (.initial true) events = some final →
        MappingsKept final ∧ ∀ event next, KeepsMappings final event → step final event = some next →
          RemovedRightfully final event next :=
  ⟨by decide, fun _ reached => mappings_kept (by decide) reached⟩

/-- Opening and closing files, mapping and unmapping, requesting and releasing the engine. -/
def UsesMappings : Event → Prop
  | .opened _ _ _ | .release _ _ _ => True
  | .call _ _ (.mapDmaBuf _) | .call _ _ (.unmapDmaBuf _) | .call _ _ (.engineReq _) | .call _ _ (.engineRel _) => True
  | _ => False

/-- Powering the engine up forgets the mapping made before. -/
theorem mappings_not_kept :
    ¬ ∀ (events : List Event) (final : State), (∀ event ∈ events, UsesMappings event) →
      run step (.initial true) events = some final → MappingsKept final := by
  intro always
  let events : List Event := [.opened 0 true false, .call 0 7 (.mapDmaBuf { fd := some 5, addr := 0x40000000 }),
    .call 0 7 (.engineReq {})]
  have forgotten : (run step (.initial true) events).map (fun s => (s.dev.list, s.dev.released, s.dev.nextSerial)) =
      some ([], [], 1) := by decide
  obtain ⟨final, reached, values⟩ := Option.map_eq_some_iff.mp forgotten
  simp only [Prod.mk.injEq] at values
  have used : ∀ event ∈ events, UsesMappings event := by simp [events, UsesMappings]
  have once := (always events final used reached).once
  simp [values.1, values.2.1, values.2.2] at once

end H618Vpu.Legacy
