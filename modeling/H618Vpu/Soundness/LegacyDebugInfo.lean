import H618Vpu.Machine.Run
import H618Vpu.Model.LegacyDebugInfo

/-! # What a failing copy request leaves in the table

A request writes the header of its entry before it has data for it, and frees the old data before it has new memory. So
a failed allocation, a fault while the data is copied, and another request that resets the shared index in between leave
an entry that was not there before. Without these three, a request that fails changes nothing and every entry has the
data that user space supplied.
-/

namespace H618Vpu.Legacy.DebugInfo

open Machine

/-- An entry with a length has as many bytes, and they came from user space. -/
def Info.Supplied (info : Info) : Prop :=
  info.headInfo.length ≠ 0 →
    ∃ bytes : List UInt8, info.data = some (bytes.map .user) ∧ bytes.length = info.headInfo.length.toNat

/-- No request that failed changed the table. Between the requests that have the mutex, a table whose entries were
supplied has such entries, and the file shows nothing else. -/
structure AllOrNothing (table : Table) (final : State) : Prop where
  unchanged : ∀ call ∈ final.calls, call.ret ≠ 0 → call.after = call.before
  supplied : (∀ i, (table i).Supplied) → final.holder = none → ∀ i, (final.table i).Supplied
  shown : (∀ i, (table i).Supplied) → final.holder = none → ∀ cell ∈ veInfoShow final.table, ∃ byte, cell = .user byte

/-- At the check, the index was not reset by another request, or the entry had the requested header already. When the
data is copied, the index still was not reset, there is memory, and all bytes can be read. -/
def Undisturbed (s : State) : Event → Prop
  | .check =>
      match s.holder with
      | some pending =>
          ∀ i, pending.slot = some i → s.curIndex = none → (s.table i).headInfo = (pending.before i).headInfo
      | none => True
  | .fill allocated _ readable =>
      match s.curIndex with
      | some i => allocated = true ∧ (s.table i).headInfo.length.toNat ≤ readable
      | none => False
  | _ => True

instance (s : State) (event : Event) : Decidable (Undisturbed s event) :=
  match event with
  | .check => by
    dsimp only [Undisturbed]
    exact match s.holder with
      | some _ => inferInstance
      | none => instDecidableTrue
  | .fill _ _ _ => by
    dsimp only [Undisturbed]
    exact match s.curIndex with
      | some _ => instDecidableAnd
      | none => instDecidableFalse
  | .enter _ | .lock _ | .stop _ => instDecidableTrue

/-- What each event does to a state in which it is enabled. -/
inductive Taken (s : State) : Event → State → Prop where
  | enter (headInfo : Option HeadInfo) : Taken s (.enter headInfo) (s.enter headInfo)
  | lock (n : ℕ) (headInfo : HeadInfo) (free : s.holder = none) :
      Taken s (.lock n) (({ s with waiting := s.waiting.eraseIdx n } : State).select headInfo)
  | check {pending : Pending} (held : s.holder = some pending) : Taken s .check (s.check pending)
  | fill {pending : Pending} (held : s.holder = some pending) (allocated : Bool) (memory : ℕ → UInt8) (readable : ℕ) :
      Taken s (.fill allocated memory readable) (s.fill pending allocated memory readable)
  | stop (headInfo : Option HeadInfo) (free : s.holder = none) : Taken s (.stop headInfo) (s.stop headInfo)

theorem taken_of_step {s next : State} {event : Event} (taken : step s event = some next) : Taken s event next := by
  unfold step at taken
  split at taken
  · cases taken
  cases event with
  | enter headInfo =>
    obtain rfl := Option.some.inj taken
    exact .enter headInfo
  | lock n =>
    dsimp only at taken
    split at taken
    case h_1 headInfo free waits =>
      obtain rfl := Option.some.inj taken
      exact .lock n headInfo free
    case h_2 => cases taken
  | check =>
    dsimp only at taken
    split at taken
    case h_1 pending held =>
      split at taken
      · cases taken
      · obtain rfl := Option.some.inj taken
        exact .check held
    case h_2 => cases taken
  | fill allocated memory readable =>
    dsimp only at taken
    split at taken
    case h_1 pending held =>
      split at taken
      · obtain rfl := Option.some.inj taken
        exact .fill held allocated memory readable
      · cases taken
    case h_2 => cases taken
  | stop headInfo =>
    dsimp only at taken
    split at taken
    case h_1 free =>
      obtain rfl := Option.some.inj taken
      exact .stop headInfo free
    case h_2 => cases taken

/-- The table differs from the one before in the header of the chosen entry only, and the index is that of the entry
unless it was reset. -/
def Pending.Selected (pending : Pending) (s : State) : Prop :=
  match pending.slot with
  | none => s.table = pending.before
  | some i =>
      (∃ headInfo, s.table = Function.update pending.before i { pending.before i with headInfo }) ∧
        (s.curIndex = none ∨ s.curIndex = some i)

theorem State.select_spec (s : State) (headInfo : HeadInfo) : (s.select headInfo).calls = s.calls ∧
    ∃ pending, (s.select headInfo).holder = some pending ∧ pending.before = s.table ∧
      pending.Selected (s.select headInfo) := by
  rw [select]
  split
  case h_1 i found => exact ⟨rfl, _, rfl, rfl, ⟨_, rfl⟩, .inr rfl⟩
  case h_2 =>
    split
    case h_1 i found => exact ⟨rfl, _, rfl, rfl, ⟨_, rfl⟩, .inr rfl⟩
    case h_2 => exact ⟨rfl, _, rfl, rfl, rfl⟩

theorem State.stop_frame (s : State) (headInfo : Option HeadInfo) :
    (s.stop headInfo).calls = s.calls ∧ (s.stop headInfo).holder = s.holder := by
  cases headInfo with
  | none => exact ⟨rfl, rfl⟩
  | some headInfo =>
    rw [stop]
    split <;> exact ⟨rfl, rfl⟩

theorem State.enter_frame (s : State) (headInfo : Option HeadInfo) :
    (s.enter headInfo).table = s.table ∧ (s.enter headInfo).holder = s.holder := by
  cases headInfo with
  | none => exact ⟨rfl, rfl⟩
  | some headInfo =>
    rw [enter]
    dsimp only
    split <;> exact ⟨rfl, rfl⟩

namespace Pending.Selected

variable {pending : Pending} {s next : State}

/-- Only the table and the index matter, and the index may be reset. -/
theorem congr (selected : pending.Selected s) (table : next.table = s.table)
    (index : next.curIndex = none ∨ next.curIndex = s.curIndex) : pending.Selected next := by
  rw [Selected] at selected ⊢
  rw [table]
  split
  case h_1 none =>
    rw [none] at selected
    exact selected
  case h_2 i some =>
    rw [some] at selected
    refine ⟨selected.1, index.elim .inl fun same => ?_⟩
    rw [same]
    exact selected.2

/-- A request whose index was reset, without a guard for what it changed, changed nothing. -/
theorem unchanged (selected : pending.Selected s)
    (kept : ∀ i, pending.slot = some i → (s.table i).headInfo = (pending.before i).headInfo) :
    s.table = pending.before := by
  rw [Selected] at selected
  split at selected
  case h_1 => exact selected
  case h_2 i chosen =>
    obtain ⟨headInfo, table⟩ := selected.1
    have same := kept i chosen
    rw [table, Function.update_self] at same
    have entry : ({ pending.before i with headInfo } : Info) = pending.before i := by
      rw [show headInfo = (pending.before i).headInfo from same]
    rw [table, entry, Function.update_eq_self]

/-- The entries other than the one of the index are as before. -/
theorem others (selected : pending.Selected s) {i j : Fin 16} (index : s.curIndex = some i) (other : j ≠ i) :
    s.table j = pending.before j := by
  rw [Selected] at selected
  split at selected
  case h_1 => rw [selected]
  case h_2 k chosen =>
    obtain ⟨⟨headInfo, table⟩, reset | same⟩ := selected
    · rw [index] at reset
      cases reset
    · obtain rfl := Option.some.inj (index.symm.trans same)
      rw [table, Function.update_of_ne other]

end Pending.Selected

/-- Failed requests changed nothing, and a request that has the mutex changed one header. -/
structure State.Kept (s : State) : Prop where
  calls : ∀ call ∈ s.calls, call.ret ≠ 0 → call.after = call.before
  pending : ∀ pending, s.holder = some pending → pending.Selected s

namespace State.Kept

variable {s next : State} {event : Event}

theorem done {t : State} {ret : ℤ} {before : Table}
    (calls : ∀ call ∈ t.calls, call.ret ≠ 0 → call.after = call.before) (fine : ret ≠ 0 → t.table = before) :
    ∀ call ∈ (t.done ret before).calls, call.ret ≠ 0 → call.after = call.before := by
  intro call member
  rcases List.mem_cons.mp member with rfl | member
  · exact fine
  · exact calls call member

theorem enter (kept : s.Kept) (headInfo : Option HeadInfo) : (s.enter headInfo).Kept := by
  have reset : ∀ pending, s.holder = some pending → pending.Selected { s with curIndex := none } := fun pending held =>
    (kept.pending pending held).congr rfl (.inl rfl)
  cases headInfo with
  | none => exact ⟨done kept.calls fun _ => rfl, reset⟩
  | some headInfo =>
    rw [State.enter]
    dsimp only
    split
    · exact ⟨done kept.calls fun _ => rfl, reset⟩
    · exact ⟨kept.calls, reset⟩

theorem check (kept : s.Kept) {pending : Pending} (held : s.holder = some pending) (guard : Undisturbed s .check) :
    (s.check pending).Kept := by
  have selected := kept.pending pending held
  rw [Undisturbed, held] at guard
  rw [State.check]
  split
  case h_1 reset =>
    have unchanged := selected.unchanged fun i chosen => guard i chosen reset
    exact ⟨done kept.calls fun _ => unchanged, nofun⟩
  case h_2 =>
    refine ⟨kept.calls, ?_⟩
    rintro _ ⟨⟩
    exact selected

theorem step (kept : s.Kept) (guard : Undisturbed s event) (taken : Taken s event next) : next.Kept := by
  cases taken with
  | enter headInfo => exact kept.enter headInfo
  | lock n headInfo free =>
    obtain ⟨calls, pending, held, -, selected⟩ :=
      ({ s with waiting := s.waiting.eraseIdx n } : State).select_spec headInfo
    constructor
    · rw [calls]
      exact kept.calls
    · intro other same
      obtain rfl := Option.some.inj (held.symm.trans same)
      exact selected
  | check held => exact kept.check held guard
  | fill held allocated memory readable =>
    rw [Undisturbed] at guard
    rw [State.fill]
    split at guard
    case h_1 i index =>
      obtain ⟨rfl, all⟩ := guard
      rw [index]
      refine ⟨done kept.calls fun error => absurd ?_ error, nofun⟩
      exact if_neg (Nat.not_lt.mpr all)
    case h_2 => exact guard.elim
  | stop headInfo free =>
    refine ⟨?_, fun pending held => ?_⟩
    · rw [s.stop_frame headInfo |>.1]
      exact kept.calls
    · rw [s.stop_frame headInfo |>.2, free] at held
      cases held

end State.Kept

def Table.Supplied (table : Table) : Prop := ∀ i, (table i).Supplied

/-- A copy without a fault leaves what user space has. -/
theorem copyFromUser_all {size readable : ℕ} (memory : ℕ → UInt8) (all : size ≤ readable) :
    copyFromUser (vmalloc size) memory readable = ((List.range size).map memory).map .user := by
  refine List.ext_getElem ?_ fun k inside _ => ?_
  · simp [copyFromUser, vmalloc]
  · have small : k < size := by simpa [copyFromUser, vmalloc] using inside
    simp [copyFromUser, small.trans_le all]

/-- Outside the sections with the mutex every entry is supplied; in one, every entry was before. -/
structure State.Filled (s : State) : Prop where
  free : s.holder = none → s.table.Supplied
  held : ∀ pending, s.holder = some pending → pending.before.Supplied

namespace State.Filled

variable {s next : State} {event : Event}

theorem check (filled : s.Filled) (kept : s.Kept) {pending : Pending} (held : s.holder = some pending)
    (guard : Undisturbed s .check) : (s.check pending).Filled := by
  rw [Undisturbed, held] at guard
  rw [State.check]
  split
  case h_1 reset =>
    refine ⟨fun _ => ?_, nofun⟩
    have unchanged := (kept.pending pending held).unchanged fun i chosen => guard i chosen reset
    change s.table.Supplied
    rw [unchanged]
    exact filled.held pending held
  case h_2 =>
    refine ⟨nofun, ?_⟩
    rintro _ ⟨⟩
    exact filled.held pending held

/-- The request supplies its entry, and the others were supplied. -/
theorem fill (filled : s.Filled) (kept : s.Kept) {pending : Pending} (held : s.holder = some pending)
    {allocated : Bool} {memory : ℕ → UInt8} {readable : ℕ} (guard : Undisturbed s (.fill allocated memory readable)) :
    (s.fill pending allocated memory readable).Filled := by
  rw [Undisturbed] at guard
  rw [State.fill]
  split at guard
  case h_1 i index =>
    obtain ⟨rfl, all⟩ := guard
    rw [index]
    refine ⟨fun _ j => ?_, nofun⟩
    change Info.Supplied (Function.update s.table i _ j)
    by_cases own : j = i
    · subst own
      rw [Function.update_self]
      intro _
      refine ⟨(List.range (s.table j).headInfo.length.toNat).map memory, ?_, ?_⟩
      · exact congrArg some (copyFromUser_all memory all)
      · rw [List.length_map, List.length_range]
    · rw [Function.update_of_ne own, (kept.pending pending held).others index own]
      exact filled.held pending held j
  case h_2 => exact guard.elim

theorem stop (filled : s.Filled) (headInfo : Option HeadInfo) (free : s.holder = none) : (s.stop headInfo).Filled := by
  refine ⟨fun _ => ?_, fun pending held => ?_⟩
  · cases headInfo with
    | none => exact filled.free free
    | some headInfo =>
      rw [State.stop]
      split
      · exact filled.free free
      case h_2 i _ =>
        intro j
        change Info.Supplied (Function.update s.table i {} j)
        by_cases own : j = i
        · rw [own, Function.update_self]
          exact fun length => absurd rfl length
        · rw [Function.update_of_ne own]
          exact filled.free free j
  · rw [(s.stop_frame headInfo).2, free] at held
    cases held

theorem step (filled : s.Filled) (kept : s.Kept) (guard : Undisturbed s event) (taken : Taken s event next) :
    next.Filled := by
  cases taken with
  | enter headInfo =>
    obtain ⟨table, holder⟩ := s.enter_frame headInfo
    refine ⟨fun free => ?_, fun pending held => ?_⟩
    · rw [table]
      exact filled.free (holder ▸ free)
    · exact filled.held pending (holder ▸ held)
  | lock n headInfo free =>
    obtain ⟨-, pending, held, before, -⟩ := ({ s with waiting := s.waiting.eraseIdx n } : State).select_spec headInfo
    refine ⟨fun none => ?_, fun other same => ?_⟩
    · rw [held] at none
      cases none
    · obtain rfl := Option.some.inj (held.symm.trans same)
      rw [before]
      exact filled.free free
  | check held => exact filled.check kept held guard
  | fill held => exact filled.fill kept held guard
  | stop headInfo free => exact filled.stop headInfo free

end State.Filled

theorem memcpy_supplied {info : Info} (supplied : info.Supplied) {data : List Cell} (stored : info.data = some data) :
    ∀ cell ∈ memcpy data info.headInfo.length.toNat, ∃ byte, cell = .user byte := by
  intro cell member
  obtain ⟨k, inside, rfl⟩ := List.mem_map.mp member
  have inside := List.mem_range.mp inside
  obtain ⟨bytes, same, length⟩ := supplied fun zero => by simp [zero] at inside
  obtain rfl := Option.some.inj (stored.symm.trans same)
  rw [← length] at inside
  exact ⟨bytes[k], by simp [inside]⟩

/-- The loop over the table copies from the entries, each as long as it says. -/
theorem showEntries_supplied {table : Table} (supplied : table.Supplied) (rest : List (Fin 16)) (count : ℕ) :
    ∀ cell ∈ showEntries table rest count, ∃ byte, cell = .user byte := by
  induction rest generalizing count with
  | nil => exact fun _ member => absurd member List.not_mem_nil
  | cons i rest ih =>
    rw [showEntries]
    split
    · split
      · exact fun _ member => absurd member List.not_mem_nil
      case h_2 data stored =>
        split
        · exact fun _ member => absurd member List.not_mem_nil
        · exact List.forall_mem_append.mpr ⟨memcpy_supplied (supplied i) stored, ih _⟩
    · exact ih count

/-- In a run whose requests are undisturbed, a request that fails changes nothing, and all data was supplied. -/
theorem requests_undone_of_undisturbed (table : Table) (events : List Event) (final : State)
    (guarded : Guarded step Undisturbed { table } events) (reached : run step { table } events = some final) :
    AllOrNothing table final := by
  have start : State.Kept { table } := ⟨fun _ member => absurd member List.not_mem_nil, nofun⟩
  have kept : final.Kept := guarded.run_preserves State.Kept
    (fun kept guard taken => kept.step guard (taken_of_step taken)) start reached
  have filled (supplied : table.Supplied) : final.Filled :=
    (guarded.run_preserves (fun s => s.Kept ∧ s.Filled)
      (fun both guard taken =>
        ⟨both.1.step guard (taken_of_step taken), both.2.step both.1 guard (taken_of_step taken)⟩)
      ⟨start, fun _ => supplied, nofun⟩ reached).2
  exact ⟨kept.calls, fun supplied free => (filled supplied).free free, fun supplied free =>
    showEntries_supplied ((filled supplied).free free) _ _⟩

/-- Two requests of which the second comes in before the first has the mutex, one that is too long, and a stop. -/
def twoRequests : List Event :=
  [.enter (some ⟨7, 8, 3⟩), .enter (some ⟨9, 9, 2⟩), .lock 0, .check, .fill true (fun k => .ofNat k) 3,
    .enter (some ⟨7, 8, 0x100001⟩), .lock 0, .check, .fill true (fun _ => 5) 4, .stop (some ⟨7, 8, 0⟩)]

/-- There is no memory for the data of the first request. -/
def outOfMemory : List Event :=
  [.enter (some ⟨7, 8, 3⟩), .lock 0, .check, .fill false (fun _ => 0) 0]

theorem requests_undone_two :
    ∃ final, run step {} twoRequests = some final ∧ final.calls.map Call.ret = [0, einval, 0] ∧
      veInfoShow final.table = [.user 5, .user 5] ∧ AllOrNothing (fun _ => {}) final :=
  ⟨_, rfl, rfl, by decide, requests_undone_of_undisturbed _ twoRequests _ (by decide) rfl⟩

theorem requests_not_always_undone :
    ¬ ∀ (events : List Event) (final : State), run step {} events = some final →
      AllOrNothing (fun _ => {}) final := by
  intro always
  have unchanged := (always outOfMemory _ rfl).unchanged _ List.mem_cons_self (by decide)
  have header := congrArg Info.headInfo (congrFun unchanged 0)
  revert header
  decide

end H618Vpu.Legacy.DebugInfo
