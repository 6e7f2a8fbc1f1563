import H618Vpu.Machine.Run
import H618Vpu.Math.Search
import H618Vpu.Soundness.LegacyDriver

/-! # Coherent buffers and user mappings

A user mapping does not keep the buffer it shows: `FREE_COHERENT` gives the memory back while it is mapped. The
handles come from a counter that starts at one, so after enough allocations a handle is the page offset that
selects the registers, and after `2 ^ 32` of them handles come again.
-/

namespace H618Vpu.Legacy

open Machine

/-- The page at `addr` is a page of the buffer. -/
def CoherentBuf.Contains (buffer : CoherentBuf) (addr : ℕ) : Prop :=
  buffer.dmaAddr ≤ addr ∧ addr + pageSize ≤ buffer.dmaAddr + buffer.size

instance (buffer : CoherentBuf) (addr : ℕ) : Decidable (buffer.Contains addr) := inferInstanceAs (Decidable (_ ∧ _))

/-- The user page shows a page of the buffer. -/
def UserPage.Shows (page : UserPage) (buffer : CoherentBuf) : Prop :=
  match page.frame with
  | .io _ => False
  | .dma addr => buffer.Contains addr

instance (page : UserPage) (buffer : CoherentBuf) : Decidable (page.Shows buffer) := by
  unfold UserPage.Shows
  split <;> infer_instance

namespace Coherent

variable {c : Coherent} {buffer : CoherentBuf} {answers : AllocAnswers} {handle : ℕ}

/-- The size of the allocation is in order, there is memory below 4 GiB and the result can be written back. -/
def Succeeds (answers : AllocAnswers) : Prop :=
  match answers.size, answers.dmaAddr with
  | some size, some dmaAddr =>
      0 < size ∧ size ≤ 2 ^ 26 ∧ answers.allocated = true ∧ dmaAddr < 2 ^ 32 ∧ answers.copied = true
  | _, _ => False

instance (answers : AllocAnswers) : Decidable (Succeeds answers) := by
  unfold Succeeds
  split <;> infer_instance

/-- An allocation appends a buffer with the next handle, or leaves the buffers alone. -/
theorem alloc_cases (c : Coherent) (answers : AllocAnswers) :
    ((c.alloc answers).1.buffers = c.buffers ∧
      ((c.alloc answers).1.nextHandle = c.nextHandle ∨
        (c.alloc answers).1.nextHandle = (c.nextHandle + 1) % 2 ^ 32)) ∨
    ∃ size dmaAddr, Succeeds answers ∧ c.nextHandle ≠ 0 ∧ (c.alloc answers).1 =
      { buffers := c.buffers ++ [⟨c.nextHandle, pageAlign size, dmaAddr⟩]
        nextHandle := (c.nextHandle + 1) % 2 ^ 32 } := by
  cases asked : answers.size with
  | none => exact .inl ⟨by simp [alloc, asked], .inl (by simp [alloc, asked])⟩
  | some size =>
    cases given : answers.dmaAddr with
    | none =>
      refine .inl ?_
      unfold alloc
      simp only [asked, given]
      split_ifs <;> exact ⟨rfl, .inl rfl⟩
    | some dmaAddr =>
      unfold alloc
      simp only [asked, given]
      split_ifs with bad allocated large zero copied
      · exact .inl ⟨rfl, .inl rfl⟩
      · exact .inl ⟨rfl, .inl rfl⟩
      · exact .inl ⟨rfl, .inl rfl⟩
      · exact .inl ⟨rfl, .inr rfl⟩
      · exact .inl ⟨rfl, .inr rfl⟩
      · refine .inr ⟨size, dmaAddr, ?_, zero, rfl⟩
        simp only [Bool.not_eq_true', Bool.not_eq_false] at allocated copied
        simp only [Succeeds, asked, given]
        exact ⟨by omega, by omega, allocated, by omega, copied⟩

theorem find_mem (found : c.find handle = some buffer) : buffer ∈ c.buffers ∧ buffer.handle = handle :=
  ⟨List.mem_of_find?_eq_some found, by simpa using List.find?_some found⟩

theorem find_eq_none_iff : c.find handle = none ↔ handle ∉ c.buffers.map (·.handle) := by
  simp only [find, List.find?_eq_none, List.mem_map, decide_eq_true_eq]
  exact ⟨fun none ⟨buffer, member, same⟩ => none buffer member same,
    fun fresh buffer member same => fresh ⟨buffer, member, same⟩⟩

/-- Removing takes the buffer that is found off the list and no other. -/
theorem remove_eq (found : c.find handle = some buffer) :
    ∃ before after, c.buffers = before ++ buffer :: after ∧ (c.remove handle).buffers = before ++ after := by
  obtain ⟨before, after, split, erased⟩ := Math.split_of_find_eq_some found
  exact ⟨before, after, split, erased⟩

/-- Handles are nonzero 32-bit numbers and sizes are whole pages. -/
structure Sound (c : Coherent) : Prop where
  handles : ∀ buffer ∈ c.buffers, buffer.handle ≠ 0 ∧ buffer.handle < 2 ^ 32
  sizes : ∀ buffer ∈ c.buffers, pageSize ∣ buffer.size
  next : c.nextHandle < 2 ^ 32

namespace Sound

theorem initial : Sound {} := ⟨nofun, nofun, by decide⟩

theorem alloc (sound : Sound c) (answers : AllocAnswers) : Sound (c.alloc answers).1 := by
  obtain ⟨same, next⟩ | ⟨size, dmaAddr, -, nonzero, added⟩ := alloc_cases c answers
  · refine ⟨same ▸ sound.handles, same ▸ sound.sizes, ?_⟩
    have bound := sound.next
    omega
  · rw [added]
    refine ⟨?_, ?_, Nat.mod_lt _ (by decide)⟩
    · intro buffer member
      rcases List.mem_append.mp member with old | new
      · exact sound.handles buffer old
      · obtain rfl := List.mem_singleton.mp new
        exact ⟨nonzero, sound.next⟩
    · intro buffer member
      rcases List.mem_append.mp member with old | new
      · exact sound.sizes buffer old
      · obtain rfl := List.mem_singleton.mp new
        exact Dvd.intro_left _ rfl

theorem remove (sound : Sound c) (handle : ℕ) : Sound (c.remove handle) :=
  ⟨fun buffer member => sound.handles buffer (List.mem_of_mem_eraseP member),
    fun buffer member => sound.sizes buffer (List.mem_of_mem_eraseP member), sound.next⟩

end Sound

end Coherent

variable {c : Coherent} {buffer : CoherentBuf} {file : ℕ} {vma : Vma} {answer : ℕ}

/-- A page offset which is neither zero nor the register selector is looked up as a handle. -/
theorem mmap_lookup (nonempty : vma.length ≠ 0) (small : vma.pgoff ≤ (2 ^ 64 - 1) / pageSize)
    (offset : vma.pgoff ≠ 0 ∧ vma.pgoff ≠ registerSelector) :
    mmap c file vma answer =
      match c.find (vma.pgoff % 2 ^ 32) with
      | none => ([], einval)
      | some buffer =>
          if vma.length > buffer.size then ([], einval)
          else if answer ≠ 0 then ([], -answer)
          else (vma.pages file fun offset => .dma (buffer.dmaAddr + offset), 0) := by
  rw [mmap, if_neg nonempty, if_neg (Nat.not_lt.mpr small)]
  exact if_pos offset

/-- `mmap` adds nothing, or it maps a buffer of the file, or the registers. -/
theorem mmap_cases (c : Coherent) (file : ℕ) (vma : Vma) (answer : ℕ) :
    (mmap c file vma answer).1 = [] ∨
    (∃ buffer ∈ c.buffers, vma.length ≤ buffer.size ∧
      (mmap c file vma answer).1 = vma.pages file fun offset => .dma (buffer.dmaAddr + offset)) ∨
    (mmap c file vma answer).1 = vma.pages file fun offset => .io (maccRegsBase + offset) := by
  by_cases empty : vma.length = 0
  · exact .inl (by simp [mmap, empty])
  by_cases large : vma.pgoff > (2 ^ 64 - 1) / pageSize
  · exact .inl (by rw [mmap, if_neg empty, if_pos large])
  by_cases offset : vma.pgoff ≠ 0 ∧ vma.pgoff ≠ registerSelector
  · rw [mmap_lookup empty (Nat.not_lt.mp large) offset]
    cases found : c.find (vma.pgoff % 2 ^ 32) with
    | none => exact .inl rfl
    | some buffer =>
      dsimp only
      split_ifs with long failed
      · exact .inl rfl
      · exact .inl rfl
      · exact .inr (.inl ⟨buffer, (Coherent.find_mem found).1, Nat.not_lt.mp long, rfl⟩)
  · rw [mmap, if_neg empty, if_neg large, if_neg offset]
    split_ifs
    · exact .inl rfl
    · exact .inl rfl
    · exact .inr (.inr rfl)

/-- The pages that `mmap` adds are pages of a buffer of the file, or of the registers. -/
theorem mmap_contained (sound : c.Sound) {page : UserPage} (added : page ∈ (mmap c file vma answer).1) {addr : ℕ}
    (shows : page.frame = .dma addr) : page.file = file ∧ ∃ buffer ∈ c.buffers, buffer.Contains addr := by
  obtain none | ⟨buffer, live, fits, pages⟩ | registers := mmap_cases c file vma answer
  · rw [none] at added
    cases added
  · rw [pages] at added
    obtain ⟨i, member, rfl⟩ := List.mem_map.mp added
    obtain rfl := Frame.dma.inj shows
    obtain ⟨count, size⟩ := sound.sizes buffer live
    have bound := List.mem_range.mp member
    refine ⟨rfl, buffer, live, ?_⟩
    unfold CoherentBuf.Contains
    unfold pageSize at bound size ⊢
    omega
  · rw [registers] at added
    obtain ⟨i, -, rfl⟩ := List.mem_map.mp added
    cases shows

/-- Every page of DMA memory in a user mapping is part of an allocated buffer of its file. -/
def MappingsBacked (s : State) : Prop :=
  ∀ page ∈ s.pages, ∀ addr, page.frame = .dma addr →
    page.file ∈ s.files ∧ ∃ buffer ∈ (s.info page.file).coherent.buffers, buffer.Contains addr

/-- `FREE_COHERENT` of a buffer none of whose pages is mapped. -/
def FreesUnmapped (s : State) : Event → Prop
  | .call file _ (.freeCoherent request _) =>
      ∀ buffer ∈ request.bind (s.info file).coherent.find, ∀ page ∈ s.pages, page.file = file → ¬ page.Shows buffer
  | _ => True

/-- Also, the buffers of all files are sound. -/
structure CoherentValid (s : State) : Prop where
  sound : ∀ file, (s.info file).coherent.Sound
  backed : MappingsBacked s

variable {s next : State} {event : Event} {tgid : ℤ}

theorem CoherentValid.frame (valid : CoherentValid s) (files : s.files ⊆ next.files)
    (pages : ∀ page ∈ next.pages, page ∈ s.pages)
    (coherent : ∀ other, (next.info other).coherent = (s.info other).coherent) : CoherentValid next := by
  refine ⟨fun other => coherent other ▸ valid.sound other, fun page member addr shows => ?_⟩
  obtain ⟨opened, backed⟩ := valid.backed page (pages page member) addr shows
  exact ⟨files opened, by rw [coherent]; exact backed⟩

/-- A command that changes the buffers of its file and keeps those that are mapped. -/
theorem CoherentValid.update (valid : CoherentValid s) (files : next.files = s.files) (pages : next.pages = s.pages)
    (others : ∀ other, other ≠ file → next.info other = s.info other) (sound : (next.info file).coherent.Sound)
    (kept : ∀ page ∈ s.pages, page.file = file → ∀ addr, page.frame = .dma addr →
      ∀ buffer ∈ (s.info file).coherent.buffers, buffer.Contains addr → buffer ∈ (next.info file).coherent.buffers) :
    CoherentValid next := by
  refine ⟨fun other => ?_, fun page member addr shows => ?_⟩
  · by_cases same : other = file
    · exact same ▸ sound
    · rw [others other same]
      exact valid.sound other
  · rw [pages] at member
    obtain ⟨opened, buffer, live, contained⟩ := valid.backed page member addr shows
    refine ⟨files ▸ opened, buffer, ?_, contained⟩
    by_cases same : page.file = file
    · rw [same] at live ⊢
      exact kept page member same addr shows buffer live contained
    · rw [others _ same]
      exact live

theorem allocCoherent_effect {answers : AllocAnswers}
    (taken : s.call file tgid (.allocCoherent answers) = some next) :
    next.pages = s.pages ∧ (next.info file).coherent = ((s.info file).coherent.alloc answers).1 := by
  rw [← Option.some.inj taken]
  exact ⟨rfl, by rw [setInfo_self]⟩

theorem CoherentValid.step (valid : CoherentValid s) (allowed : FreesUnmapped s event)
    (taken : Legacy.step s event = some next) : CoherentValid next := by
  cases event with
  | opened file allocated interrupted =>
    obtain ⟨fresh, rfl⟩ := step_opened_iff.mp taken
    obtain same | added := opened_cases s file allocated interrupted
    · rw [same]
      exact valid
    · rw [added]
      refine ⟨fun other => ?_, fun page member addr shows => ?_⟩
      · by_cases same : other = file
        · rw [same, setInfo_self]
          exact .initial
        · rw [setInfo_of_ne _ _ same]
          exact valid.sound other
      · obtain ⟨opened, backed⟩ := valid.backed page member addr shows
        have different : page.file ≠ file := fun same => fresh (same ▸ opened)
        exact ⟨Finset.mem_insert_of_mem opened, by rw [setInfo_of_ne _ _ different]; exact backed⟩
  | munmap mm start length =>
    obtain rfl := Option.some.inj taken
    exact valid.frame (Finset.Subset.refl _) (fun page member => List.mem_of_mem_filter member) fun _ => rfl
  | release file tgid answer =>
    obtain ⟨⟨-, unmapped⟩, rfl⟩ := step_release_iff.mp taken
    refine ⟨fun other => ?_, fun page member addr shows => ?_⟩
    · by_cases same : other = file
      · rw [same, State.release, setInfo_self]
        exact .initial
      · rw [State.release, setInfo_of_ne _ _ same]
        exact valid.sound other
    · obtain ⟨opened, backed⟩ := valid.backed page member addr shows
      have different : page.file ≠ file := unmapped page member
      refine ⟨Finset.mem_erase.mpr ⟨different, opened⟩, ?_⟩
      rw [State.release, setInfo_of_ne _ _ different]
      exact backed
  | call file tgid command =>
    obtain ⟨opened, taken⟩ := step_call_iff.mp taken
    obtain ⟨files, others⟩ := call_files taken
    cases touching : command.touchesCoherent with
    | false =>
      obtain ⟨pages, coherent⟩ := call_coherent touching taken
      exact valid.frame files.ge (fun page member => pages ▸ member) coherent
    | true =>
      cases command with
      | allocCoherent answers =>
        obtain ⟨pages, coherent⟩ := allocCoherent_effect taken
        refine valid.update files pages others (coherent ▸ (valid.sound file).alloc answers) ?_
        intro page member same addr shows buffer live contained
        rw [coherent]
        obtain ⟨unchanged, -⟩ | ⟨size, dmaAddr, -, -, added⟩ := (s.info file).coherent.alloc_cases answers
        · rw [unchanged]
          exact live
        · rw [added]
          exact List.mem_append_left _ live
      | freeCoherent request answer =>
        obtain ⟨-, pages, coherent⟩ := freeCoherent_effect taken
        obtain unchanged | ⟨handle, freed, rfl, found, removed⟩ :=
          free_cases (s.info file).coherent s.dev (s.info file).engineRefs request answer
        · rw [unchanged] at coherent
          exact valid.frame files.ge (fun page member => pages ▸ member) fun other => by
            by_cases same : other = file
            · rw [same, coherent]
            · rw [others other same]
        · rw [removed] at coherent
          refine valid.update files pages others (coherent ▸ (valid.sound file).remove handle) ?_
          intro page member same addr shows buffer live contained
          have different : buffer ≠ freed := fun equal =>
            allowed freed found page member same (by rw [UserPage.Shows, shows]; exact equal ▸ contained)
          obtain ⟨before, after, split, rest⟩ := Coherent.remove_eq found
          rw [coherent]
          dsimp only
          rw [rest]
          rw [split] at live
          simp only [List.mem_append, List.mem_cons] at live ⊢
          exact live.imp_right fun later => later.resolve_left different
      | mmap vma answer =>
        obtain rfl := Option.some.inj taken
        refine ⟨valid.sound, fun page member addr shows => ?_⟩
        rcases List.mem_append.mp member with old | new
        · exact valid.backed page old addr shows
        · obtain ⟨same, backed⟩ := mmap_contained (valid.sound file) new shows
          rw [same]
          exact ⟨opened, backed⟩
      | _ => cases touching

/-- In a run that frees no mapped buffer, mapped memory stays allocated. -/
theorem mappings_backed {debugRoot : Bool} {events : List Event} {final : State}
    (guarded : Guarded step FreesUnmapped (.initial debugRoot) events)
    (reached : run step (.initial debugRoot) events = some final) : MappingsBacked final :=
  (guarded.run_preserves CoherentValid (fun valid allowed taken => valid.step allowed taken)
    ⟨fun _ => .initial, fun _ member => absurd member List.not_mem_nil⟩ reached).backed

instance (s : State) (event : Event) : Decidable (FreesUnmapped s event) :=
  match event with
  | .call _ _ (.freeCoherent _ _) => by dsimp only [FreesUnmapped]; infer_instance
  | .call _ _ (.engineReq _) | .call _ _ (.engineRel _) | .call _ _ (.enableVe _) | .call _ _ .disableVe
  | .call _ _ (.resetVe _) | .call _ _ (.setRefcount _) | .call _ _ (.getLock _) | .call _ _ (.releaseLock _)
  | .call _ _ (.setProcInfo _) | .call _ _ (.copyProcInfo _) | .call _ _ (.stopProcInfo _)
  | .call _ _ (.mapDmaBuf _) | .call _ _ (.unmapDmaBuf _) | .call _ _ (.allocCoherent _) | .call _ _ (.mmap _ _)
  | .call _ _ (.other _ _) | .opened _ _ _ | .munmap _ _ _ | .release _ _ _ => instDecidableTrue

/-- Two buffers are mapped, and one of them is unmapped and freed. -/
theorem mappings_backed_two :
    let events : List Event := [.opened 0 true false,
      .call 0 7 (.allocCoherent { size := some 4096, dmaAddr := some 0x40000000 }),
      .call 0 7 (.allocCoherent { size := some 5000, dmaAddr := some 0x40001000 }),
      .call 0 7 (.mmap ⟨7, 0x10000, 4096, 1, false⟩ 0), .call 0 7 (.mmap ⟨7, 0x20000, 8192, 2, false⟩ 0),
      .munmap 7 0x10000 4096, .call 0 7 (.freeCoherent (some 1) 0)]
    (run step (.initial true) events).isSome ∧
      ∀ final, run step (.initial true) events = some final → MappingsBacked final :=
  ⟨by decide, fun _ reached => mappings_backed (by decide) reached⟩

/-- Opening and closing files, allocating, freeing, mapping and unmapping. -/
def UsesCoherent : Event → Prop
  | .opened _ _ _ | .release _ _ _ | .munmap _ _ _ => True
  | .call _ _ (.allocCoherent _) | .call _ _ (.freeCoherent _ _) | .call _ _ (.mmap _ _) => True
  | _ => False

/-- A buffer that is freed while it is mapped. -/
theorem mappings_not_backed :
    ¬ ∀ (events : List Event) (final : State), (∀ event ∈ events, UsesCoherent event) →
      run step (.initial true) events = some final → MappingsBacked final := by
  intro always
  let events : List Event := [.opened 0 true false,
    .call 0 7 (.allocCoherent { size := some 4096, dmaAddr := some 0x40000000 }),
    .call 0 7 (.mmap ⟨7, 0x10000, 4096, 1, false⟩ 0), .call 0 7 (.freeCoherent (some 1) 0)]
  have dangling : (run step (.initial true) events).map (fun s => (s.pages, (s.info 0).coherent.buffers)) =
      some ([⟨0, 7, 0x10000, .dma 0x40000000⟩], []) := by decide
  obtain ⟨final, reached, values⟩ := Option.map_eq_some_iff.mp dangling
  simp only [Prod.mk.injEq] at values
  have used : ∀ event ∈ events, UsesCoherent event := by simp [events, UsesCoherent]
  have backed := always events final used reached
  obtain ⟨-, buffer, live, -⟩ := backed ⟨0, 7, 0x10000, .dma 0x40000000⟩ (by simp [values.1]) _ rfl
  rw [values.2] at live
  cases live

end H618Vpu.Legacy
