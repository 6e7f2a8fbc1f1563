import H618Vpu.Model.LegacyDriver

/-! # What the calls of the legacy driver leave alone

The device, the lock flags with the mutexes, and the coherent buffers with the user mappings are changed by
different commands. Whatever a call does, it does to its own file and to what all files share.
-/

namespace H618Vpu.Legacy

variable {s next : State} {file another : ℕ} {tgid : ℤ} {command : Command}

theorem step_opened_iff {allocated interrupted : Bool} :
    step s (.opened file allocated interrupted) = some next ↔
      file ∉ s.files ∧ (s.opened file allocated interrupted).1 = next := by
  simp [step]

theorem step_call_iff :
    step s (.call file tgid command) = some next ↔ file ∈ s.files ∧ s.call file tgid command = some next := by
  simp [step]

theorem step_release_iff {answer : ℕ} :
    step s (.release file tgid answer) = some next ↔
      (file ∈ s.files ∧ ∀ page ∈ s.pages, page.file ≠ file) ∧ s.release file tgid answer = next := by
  simp [step]

/-- A file that was opened is new and has nothing; otherwise the call did nothing. -/
theorem opened_cases (s : State) (file : ℕ) (allocated interrupted : Bool) :
    (s.opened file allocated interrupted).1 = s ∨
      (s.opened file allocated interrupted).1 = { s with files := insert file s.files }.setInfo file {} := by
  unfold State.opened
  split_ifs
  · exact .inl rfl
  · exact .inl rfl
  · exact .inr rfl

@[simp] theorem setInfo_files (s : State) (file : ℕ) (info : VeInfo) : (s.setInfo file info).files = s.files := rfl

@[simp] theorem setInfo_dev (s : State) (file : ℕ) (info : VeInfo) : (s.setInfo file info).dev = s.dev := rfl

@[simp] theorem setInfo_locks (s : State) (file : ℕ) (info : VeInfo) : (s.setInfo file info).locks = s.locks := rfl

@[simp] theorem setInfo_pages (s : State) (file : ℕ) (info : VeInfo) : (s.setInfo file info).pages = s.pages := rfl

@[simp] theorem setInfo_self (s : State) (file : ℕ) (info : VeInfo) : (s.setInfo file info).info file = info :=
  Function.update_self _ _ _

theorem setInfo_of_ne (s : State) (info : VeInfo) (different : another ≠ file) :
    (s.setInfo file info).info another = s.info another :=
  Function.update_of_ne different _ _

/-- What a call keeps of its own file, all files keep. -/
theorem setInfo_keeps {α : Type*} (field : VeInfo → α) {info : VeInfo} (same : field info = field (s.info file))
    (other : ℕ) : field ((s.setInfo file info).info other) = field (s.info other) := by
  by_cases own : other = file
  · subst own
    rw [setInfo_self, same]
  · rw [setInfo_of_ne s info own]

namespace Command

/-- The commands that count engine references. -/
def counts : Command → Bool
  | engineReq _ | engineRel _ => true
  | enableVe _ | disableVe | resetVe _ | setRefcount _ | getLock _ | releaseLock _ | setProcInfo _ | copyProcInfo _
  | stopProcInfo _ | mapDmaBuf _ | unmapDmaBuf _ | allocCoherent _ | freeCoherent _ _ | mmap _ _ | other _ _ => false

/-- The commands that touch the device. -/
def touchesDev : Command → Bool
  | engineReq _ | engineRel _ | enableVe _ | disableVe | resetVe _ | setRefcount _ | mapDmaBuf _ | unmapDmaBuf _
  | freeCoherent _ _ => true
  | getLock _ | releaseLock _ | setProcInfo _ | copyProcInfo _ | stopProcInfo _ | allocCoherent _ | mmap _ _
  | other _ _ => false

/-- The commands that touch the mutexes. -/
def touchesLocks : Command → Bool
  | getLock _ | releaseLock _ | setProcInfo _ | copyProcInfo _ | stopProcInfo _ => true
  | engineReq _ | engineRel _ | enableVe _ | disableVe | resetVe _ | setRefcount _ | mapDmaBuf _ | unmapDmaBuf _
  | allocCoherent _ | freeCoherent _ _ | mmap _ _ | other _ _ => false

/-- The commands that touch coherent buffers or user mappings. -/
def touchesCoherent : Command → Bool
  | allocCoherent _ | freeCoherent _ _ | mmap _ _ => true
  | engineReq _ | engineRel _ | enableVe _ | disableVe | resetVe _ | setRefcount _ | getLock _ | releaseLock _
  | setProcInfo _ | copyProcInfo _ | stopProcInfo _ | mapDmaBuf _ | unmapDmaBuf _ | other _ _ => false

end Command

/-- No call opens or closes a file, or changes another one. -/
theorem call_files (taken : s.call file tgid command = some next) :
    next.files = s.files ∧ ∀ other, other ≠ file → next.info other = s.info other := by
  cases command with
  | getLock _ | setProcInfo _ | stopProcInfo _ =>
    obtain ⟨_, -, rfl⟩ := Option.map_eq_some_iff.mp taken
    exact ⟨rfl, fun other different => by simp [State.setInfo, different]⟩
  | engineReq _ | engineRel _ | enableVe _ | disableVe | resetVe _ | setRefcount _ | releaseLock _ | copyProcInfo _
  | mapDmaBuf _ | unmapDmaBuf _ | allocCoherent _ | freeCoherent _ _ | mmap _ _ | other _ _ =>
    obtain rfl := Option.some.inj taken
    exact ⟨rfl, fun other different => by simp [State.setInfo, different]⟩

theorem call_refs (untouched : command.counts = false) (taken : s.call file tgid command = some next) :
    ∀ other, (next.info other).engineRefs = (s.info other).engineRefs := by
  cases command with
  | engineReq _ | engineRel _ => cases untouched
  | getLock _ | setProcInfo _ =>
    obtain ⟨_, -, rfl⟩ := Option.map_eq_some_iff.mp taken
    exact setInfo_keeps VeInfo.engineRefs rfl
  | stopProcInfo _ =>
    obtain ⟨_, -, rfl⟩ := Option.map_eq_some_iff.mp taken
    exact fun _ => rfl
  | releaseLock _ | copyProcInfo _ | allocCoherent _ | freeCoherent _ _ =>
    obtain rfl := Option.some.inj taken
    exact setInfo_keeps VeInfo.engineRefs rfl
  | enableVe _ | disableVe | resetVe _ | setRefcount _ | mapDmaBuf _ | unmapDmaBuf _ | mmap _ _ | other _ _ =>
    obtain rfl := Option.some.inj taken
    exact fun _ => rfl

theorem call_dev (untouched : command.touchesDev = false) (taken : s.call file tgid command = some next) :
    next.dev = s.dev := by
  cases command with
  | engineReq _ | engineRel _ | enableVe _ | disableVe | resetVe _ | setRefcount _ | mapDmaBuf _ | unmapDmaBuf _
  | freeCoherent _ _ => cases untouched
  | getLock _ | setProcInfo _ | stopProcInfo _ =>
    obtain ⟨_, -, rfl⟩ := Option.map_eq_some_iff.mp taken
    rfl
  | releaseLock _ | copyProcInfo _ | allocCoherent _ | mmap _ _ | other _ _ =>
    obtain rfl := Option.some.inj taken
    rfl

theorem call_locks (untouched : command.touchesLocks = false) (taken : s.call file tgid command = some next) :
    next.locks = s.locks ∧ ∀ other, (next.info other).lockFlags = (s.info other).lockFlags := by
  cases command with
  | getLock _ | releaseLock _ | setProcInfo _ | copyProcInfo _ | stopProcInfo _ => cases untouched
  | engineReq _ | engineRel _ | allocCoherent _ | freeCoherent _ _ =>
    obtain rfl := Option.some.inj taken
    exact ⟨rfl, setInfo_keeps VeInfo.lockFlags rfl⟩
  | enableVe _ | disableVe | resetVe _ | setRefcount _ | mapDmaBuf _ | unmapDmaBuf _ | mmap _ _ | other _ _ =>
    obtain rfl := Option.some.inj taken
    exact ⟨rfl, fun _ => rfl⟩

theorem call_coherent (untouched : command.touchesCoherent = false) (taken : s.call file tgid command = some next) :
    next.pages = s.pages ∧ ∀ other, (next.info other).coherent = (s.info other).coherent := by
  cases command with
  | allocCoherent _ | freeCoherent _ _ | mmap _ _ => cases untouched
  | getLock _ | setProcInfo _ =>
    obtain ⟨_, -, rfl⟩ := Option.map_eq_some_iff.mp taken
    exact ⟨rfl, setInfo_keeps VeInfo.coherent rfl⟩
  | stopProcInfo _ =>
    obtain ⟨_, -, rfl⟩ := Option.map_eq_some_iff.mp taken
    exact ⟨rfl, fun _ => rfl⟩
  | engineReq _ | engineRel _ | releaseLock _ | copyProcInfo _ =>
    obtain rfl := Option.some.inj taken
    exact ⟨rfl, setInfo_keeps VeInfo.coherent rfl⟩
  | enableVe _ | disableVe | resetVe _ | setRefcount _ | mapDmaBuf _ | unmapDmaBuf _ | other _ _ =>
    obtain rfl := Option.some.inj taken
    exact ⟨rfl, fun _ => rfl⟩

/-- What `FREE_COHERENT` does is what it does to the buffers of the file and to the device. -/
theorem freeCoherent_effect {request : Option ℕ} {answer : ℕ}
    (taken : s.call file tgid (.freeCoherent request answer) = some next) :
    let freed := ((s.info file).coherent.free s.dev (s.info file).engineRefs request answer).1
    next.dev = freed.2 ∧ next.pages = s.pages ∧ (next.info file).coherent = freed.1 := by
  rw [← Option.some.inj taken]
  exact ⟨rfl, rfl, by rw [setInfo_self]; rfl⟩

/-- It takes the buffer off the list and resets the engine if the file has a reference. -/
theorem free_cases (c : Coherent) (d : Dev) (refs : ℕ) (request : Option ℕ) (answer : ℕ) :
    (c.free d refs request answer).1 = (c, d) ∨
    ∃ handle buffer, request = some handle ∧ c.find handle = some buffer ∧ (c.free d refs request answer).1 =
      (c.remove handle, if refs ≠ 0 then d.quiesceDma.resetDeassert answer else d) := by
  cases request with
  | none => exact .inl rfl
  | some handle =>
    cases found : c.find handle with
    | none => exact .inl (by simp [Coherent.free, found])
    | some buffer =>
      refine .inr ⟨handle, buffer, rfl, found, ?_⟩
      by_cases held : refs = 0 <;> simp [Coherent.free, found, held]

end H618Vpu.Legacy
