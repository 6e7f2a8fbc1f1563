import H618Vpu.Machine.Run
import H618Vpu.Soundness.LegacyDriver

/-! # Lock flags and mutexes

The flag of a mutex is set in a file exactly when that file holds the mutex, as long as locks are named by the
five single constants: other values change the flag word and no mutex. Nothing asks for the flag before
`COPY_PROC_INFO` unlocks.
-/

namespace H618Vpu.Legacy

open Machine

namespace Lock

theorem bit_injective {one other : Lock} (same : one.bit = other.bit) : one = other := by
  revert same
  cases one <;> cases other <;> decide

theorem getLsbD_flag (lock : Lock) (i : ℕ) : lock.flag.getLsbD i = decide (lock.bit = i) := by
  have small : lock.bit < 32 := by cases lock <;> decide
  simp [flag, BitVec.getLsbD_twoPow, small]

theorem and_flag_ne_zero_iff (flags : BitVec 32) (lock : Lock) :
    flags &&& lock.flag ≠ 0 ↔ flags.getLsbD lock.bit = true := by
  have small : lock.bit < 32 := by cases lock <;> decide
  rw [flag, BitVec.and_twoPow]
  cases set : flags.getLsbD lock.bit with
  | true =>
    simp only [if_true, iff_true]
    intro zero
    have bit := congrArg (·.getLsbD lock.bit) zero
    simp [small] at bit
  | false => simp

theorem eq_flag_of_ofType {lockType : BitVec 32} {lock : Lock} (named : ofType lockType = some lock) :
    lockType = lock.flag := by
  unfold ofType at named
  split_ifs at named with vdec venc jdec reg00 reg04 <;> cases named <;> assumption

end Lock

namespace Locks

variable {flags next : BitVec 32} {l after : Locks} {file another : ℕ} {mutex : Lock}

/-- The flag word of the file says which mutexes it holds. -/
def Mirrors (flags : BitVec 32) (l : Locks) (file : ℕ) : Prop :=
  ∀ i, flags.getLsbD i = true ↔ ∃ mutex : Lock, mutex.bit = i ∧ l.holder mutex = some file

/-- Every mutex was unlocked by the file which held it. -/
def OwnUnlocks (l : Locks) : Prop := ∀ unlock ∈ l.unlocks, unlock.holder = some unlock.file

/-- What a call of a file does to its flag word and the mutexes if all goes well: the flags mirror the mutexes
again, no other file gets or loses one, and only mutexes of this file are unlocked. -/
structure Turn (file : ℕ) (flags : BitVec 32) (l : Locks) (next : BitVec 32) (after : Locks) : Prop where
  mirrors : Mirrors flags l file → Mirrors next after file
  others : ∀ mutex another, another ≠ file → (after.holder mutex = some another ↔ l.holder mutex = some another)
  unlocks : OwnUnlocks l → OwnUnlocks after

theorem Mirrors.holds_iff (mirrors : Mirrors flags l file) (mutex : Lock) :
    flags &&& mutex.flag ≠ 0 ↔ l.holder mutex = some file := by
  rw [Lock.and_flag_ne_zero_iff, mirrors mutex.bit]
  constructor
  · rintro ⟨same, bit, holds⟩
    exact Lock.bit_injective bit ▸ holds
  · exact fun holds => ⟨mutex, rfl, holds⟩

namespace Turn

theorem refl : Turn file flags l flags l := ⟨id, fun _ _ _ => .rfl, id⟩

theorem lock (taken : l.lock file mutex = some after) : Turn file flags l (flags ||| mutex.flag) after := by
  unfold Locks.lock at taken
  split_ifs at taken with free
  obtain rfl := Option.some.inj taken
  refine ⟨fun mirrors i => ?_, fun other another different => ?_, id⟩
  · rw [BitVec.getLsbD_or, Lock.getLsbD_flag, Bool.or_eq_true, mirrors i, decide_eq_true_eq]
    constructor
    · rintro (⟨held, bit, holds⟩ | bit)
      · refine ⟨held, bit, ?_⟩
        have distinct : held ≠ mutex := fun same => by simp [same, free] at holds
        simpa [Function.update_of_ne distinct] using holds
      · exact ⟨mutex, bit, by simp⟩
    · rintro ⟨held, bit, holds⟩
      by_cases same : held = mutex
      · exact .inr (same ▸ bit)
      · exact .inl ⟨held, bit, by simpa [Function.update_of_ne same] using holds⟩
  · by_cases same : other = mutex
    · subst same
      simp [free, different.symm]
    · simp [Function.update_of_ne same]

theorem unlock (holds : l.holder mutex = some file) :
    Turn file flags l (flags &&& ~~~mutex.flag) (l.unlock file mutex) := by
  refine ⟨fun mirrors i => ?_, fun other another different => ?_, fun own => ?_⟩
  · rw [BitVec.getLsbD_and, BitVec.getLsbD_not, Lock.getLsbD_flag, Bool.and_eq_true, mirrors i]
    constructor
    · rintro ⟨⟨held, bit, holds⟩, clear⟩
      have distinct : held ≠ mutex := fun same => by simp [same ▸ bit] at clear
      exact ⟨held, bit, by simpa [Locks.unlock, Function.update_of_ne distinct] using holds⟩
    · rintro ⟨held, bit, holds⟩
      have distinct : held ≠ mutex := fun same => by simp [Locks.unlock, same] at holds
      have small : i < 32 := by subst bit; cases held <;> decide
      refine ⟨⟨held, bit, by simpa [Locks.unlock, Function.update_of_ne distinct] using holds⟩, ?_⟩
      have away : mutex.bit ≠ i := fun same => distinct (Lock.bit_injective (bit.trans same.symm))
      simp [small, away]
  · by_cases same : other = mutex
    · subst same
      simp [Locks.unlock, holds, different.symm]
    · simp [Locks.unlock, Function.update_of_ne same]
  · exact List.forall_mem_cons.mpr ⟨holds, own⟩

/-- A mutex that is taken and given back leaves no trace but the unlock. -/
theorem lock_unlock (taken : l.lock file mutex = some after) : Turn file flags l flags (after.unlock file mutex) := by
  unfold Locks.lock at taken
  split_ifs at taken with free
  obtain rfl := Option.some.inj taken
  have same : Function.update (Function.update l.holder mutex (some file)) mutex none = l.holder := by
    rw [Function.update_idem, ← free, Function.update_eq_self]
  refine ⟨fun mirrors i => ?_, fun other another _ => ?_, fun own => ?_⟩
  · simpa only [Locks.unlock, same] using mirrors i
  · simp only [Locks.unlock, same]
  · exact List.forall_mem_cons.mpr ⟨by simp, own⟩

end Turn

theorem getLock_turn {arg : BitVec 64} {ret : ℤ}
    (named : Lock.ofType (arg.setWidth 32) ≠ none ∨ flags ||| arg.setWidth 32 = flags)
    (taken : l.getLock flags file arg = some ((next, after), ret)) : Turn file flags l next after := by
  unfold getLock at taken
  obtain ⟨locked, locking, same⟩ := Option.map_eq_some_iff.mp taken
  simp only [Prod.mk.injEq] at same
  obtain ⟨⟨rfl, rfl⟩, -⟩ := same
  cases type : Lock.ofType (arg.setWidth 32) with
  | some mutex =>
    rw [type] at locking
    rw [Lock.eq_flag_of_ofType type]
    exact .lock locking
  | none =>
    rw [type] at locking
    obtain rfl := Option.some.inj locking
    rw [named.resolve_left (by simp [type])]
    exact .refl

theorem releaseLock_turn (mirrors : Mirrors flags l file) {arg : BitVec 64}
    (named : Lock.ofType (arg.setWidth 32) ≠ none ∨ flags &&& arg.setWidth 32 = 0) :
    Turn file flags l (l.releaseLock flags file arg).1.1 (l.releaseLock flags file arg).1.2 := by
  by_cases unset : flags &&& arg.setWidth 32 = 0
  · simpa [releaseLock, unset] using Turn.refl
  · cases type : Lock.ofType (arg.setWidth 32) with
    | none => exact absurd type (named.resolve_right unset)
    | some mutex =>
      have flag := Lock.eq_flag_of_ofType type
      have holds : l.holder mutex = some file := (mirrors.holds_iff mutex).mp (flag ▸ unset)
      simp only [releaseLock, unset, if_false, type]
      rw [flag]
      exact .unlock holds

theorem setProcInfo_turn {proc later : ProcInfo} {debugRoot : Bool} {param : Option VeProcInfo} {ret : ℤ}
    (taken : l.setProcInfo flags proc file debugRoot param = some ((next, after, later), ret)) :
    Turn file flags l next after := by
  unfold setProcInfo at taken
  split_ifs at taken
  · simp only [Option.some.injEq, Prod.mk.injEq] at taken
    obtain ⟨⟨rfl, rfl, -⟩, -⟩ := taken
    exact .refl
  · obtain ⟨locked, locking, same⟩ := Option.map_eq_some_iff.mp taken
    cases param with
    | none =>
      simp only [Prod.mk.injEq] at same
      obtain ⟨⟨rfl, rfl, -⟩, -⟩ := same
      exact .lock_unlock locking
    | some info =>
      dsimp only at same
      split_ifs at same <;> simp only [Prod.mk.injEq] at same <;> obtain ⟨⟨rfl, rfl, -⟩, -⟩ := same
      · exact .lock_unlock locking
      · exact .lock_unlock locking
      · exact .lock locking

theorem copyProcInfo_turn (mirrors : Mirrors flags l file) {proc : ProcInfo} {debugRoot copied : Bool}
    (flagged : debugRoot = true → flags &&& Lock.procInfo.flag ≠ 0) :
    Turn file flags l (l.copyProcInfo flags proc file debugRoot copied).1.1
      (l.copyProcInfo flags proc file debugRoot copied).1.2 := by
  cases debugRoot with
  | false => exact .refl
  | true =>
    have holds := (mirrors.holds_iff .procInfo).mp (flagged rfl)
    have unlocked : (l.copyProcInfo flags proc file true copied).1 =
        (flags &&& ~~~Lock.procInfo.flag, l.unlock file .procInfo) := by
      simp only [copyProcInfo, Bool.not_true, Bool.false_eq_true, if_false]
      split_ifs <;> rfl
    rw [unlocked]
    exact .unlock holds

theorem stopProcInfo_turn {proc later : ProcInfo} {debugRoot : Bool} {arg : BitVec 64} {ret : ℤ}
    (taken : l.stopProcInfo proc file debugRoot arg = some ((after, later), ret)) : Turn file flags l flags after := by
  unfold stopProcInfo at taken
  split_ifs at taken
  · simp only [Option.some.injEq, Prod.mk.injEq] at taken
    obtain ⟨⟨rfl, -⟩, -⟩ := taken
    exact .refl
  · simp only [Option.some.injEq, Prod.mk.injEq] at taken
    obtain ⟨⟨rfl, -⟩, -⟩ := taken
    exact .refl
  · obtain ⟨locked, locking, same⟩ := Option.map_eq_some_iff.mp taken
    simp only [Prod.mk.injEq] at same
    obtain ⟨⟨rfl, -⟩, -⟩ := same
    exact .lock_unlock locking

/-- A close gives back the mutexes that the flags name, and those only. -/
theorem releaseLost_spec (flags : BitVec 32) (file : ℕ) :
    ∀ (locks : List Lock) (l : Locks), locks.Nodup →
      (∀ mutex ∈ locks, flags &&& mutex.flag ≠ 0 ↔ l.holder mutex = some file) → OwnUnlocks l →
      OwnUnlocks (l.releaseLost flags file locks) ∧
        ∀ mutex, (l.releaseLost flags file locks).holder mutex =
          if mutex ∈ locks ∧ l.holder mutex = some file then none else l.holder mutex
  | [], l, _, _, own => ⟨own, fun mutex => by simp [releaseLost]⟩
  | head :: rest, l, nodup, named, own => by
      obtain ⟨fresh, nodup⟩ := List.nodup_cons.mp nodup
      have first := named head (List.mem_cons_self ..)
      by_cases held : l.holder head = some file
      · have others : ∀ mutex ∈ rest, (l.unlock file head).holder mutex = l.holder mutex := by
          intro mutex member
          exact Function.update_of_ne (by rintro rfl; exact fresh member) _ _
        obtain ⟨own, released⟩ := releaseLost_spec flags file rest (l.unlock file head) nodup
          (fun mutex member => by rw [others mutex member]; exact named mutex (List.mem_cons_of_mem _ member))
          (List.forall_mem_cons.mpr ⟨held, own⟩)
        rw [releaseLost, if_pos (first.mpr held)]
        refine ⟨own, fun mutex => ?_⟩
        rw [released mutex]
        by_cases same : mutex = head
        · subst same
          simp [unlock, held]
        · simp [unlock, same]
      · obtain ⟨own, released⟩ := releaseLost_spec flags file rest l nodup
          (fun mutex member => named mutex (List.mem_cons_of_mem _ member)) own
        rw [releaseLost, if_neg (fun set => held (first.mp set))]
        refine ⟨own, fun mutex => ?_⟩
        rw [released mutex]
        by_cases same : mutex = head
        · subst same
          simp [held]
        · simp [same]

end Locks

open Locks

/-- A flag is set exactly for the mutexes the file holds, and no mutex was unlocked by another file. -/
structure LocksMirrored (s : State) : Prop where
  mirrors : ∀ file ∈ s.files, Mirrors (s.info file).lockFlags s.locks file
  unlocks : OwnUnlocks s.locks

/-- Also, only open files hold mutexes. -/
structure LocksValid (s : State) : Prop extends LocksMirrored s where
  held : ∀ mutex file, s.locks.holder mutex = some file → file ∈ s.files

/-- `GET_LOCK` asks for one of the five mutexes or for flags that are set, `RELEASE_LOCK` gives back one of the
five or flags that are not set, and `COPY_PROC_INFO` comes with the flag set or without debugfs. -/
def NamesLocks (s : State) : Event → Prop
  | .call file _ (.getLock arg) =>
      Lock.ofType (arg.setWidth 32) ≠ none ∨ (s.info file).lockFlags ||| arg.setWidth 32 = (s.info file).lockFlags
  | .call file _ (.releaseLock arg) =>
      Lock.ofType (arg.setWidth 32) ≠ none ∨ (s.info file).lockFlags &&& arg.setWidth 32 = 0
  | .call file _ (.copyProcInfo _) => s.debugRoot = true → (s.info file).lockFlags &&& Lock.procInfo.flag ≠ 0
  | _ => True

variable {s next : State} {event : Event} {file : ℕ} {tgid : ℤ}

theorem LocksValid.turn (valid : LocksValid s) (opened : file ∈ s.files) (files : next.files = s.files)
    (others : ∀ other, other ≠ file → next.info other = s.info other)
    (turn : Turn file (s.info file).lockFlags s.locks (next.info file).lockFlags next.locks) : LocksValid next := by
  refine ⟨⟨fun other member i => ?_, turn.unlocks valid.unlocks⟩, fun mutex holder holds => ?_⟩
  · by_cases same : other = file
    · subst same
      exact turn.mirrors (valid.mirrors other opened) i
    · rw [others other same, valid.mirrors other (files ▸ member) i]
      exact exists_congr fun mutex => and_congr_right fun _ => (turn.others mutex other same).symm
  · rw [files]
    by_cases same : holder = file
    · exact same ▸ opened
    · exact valid.held mutex holder ((turn.others mutex holder same).mp holds)

theorem LocksValid.frame (valid : LocksValid s) (files : next.files = s.files) (locks : next.locks = s.locks)
    (flags : ∀ other, (next.info other).lockFlags = (s.info other).lockFlags) : LocksValid next := by
  refine ⟨⟨fun other member => ?_, locks ▸ valid.unlocks⟩, fun mutex holder holds => ?_⟩
  · rw [locks, flags]
    exact valid.mirrors other (files ▸ member)
  · rw [files]
    exact valid.held mutex holder (locks ▸ holds)

theorem LocksValid.release (valid : LocksValid s) (opened : file ∈ s.files) (answer : ℕ) :
    LocksValid (s.release file tgid answer) := by
  have mirrors := valid.mirrors file opened
  obtain ⟨own, released⟩ := releaseLost_spec (s.info file).lockFlags file Lock.all s.locks (by decide)
    (fun mutex _ => mirrors.holds_iff mutex) valid.unlocks
  have every : ∀ mutex : Lock, mutex ∈ Lock.all := fun mutex => by cases mutex <;> decide
  have holder : ∀ mutex other, (s.release file tgid answer).locks.holder mutex = some other ↔
      other ≠ file ∧ s.locks.holder mutex = some other := by
    intro mutex other
    dsimp only [State.release, setInfo_locks]
    rw [released mutex]
    simp only [every, true_and]
    split_ifs with held
    · rw [held]
      simp only [false_iff, Option.some.injEq, not_and]
      exact fun different same => different same.symm
    · exact ⟨fun holds => ⟨fun same => held (same ▸ holds), holds⟩, And.right⟩
  refine ⟨⟨fun other member i => ?_, own⟩, fun mutex other holds => ?_⟩
  · have different : other ≠ file := Finset.ne_of_mem_erase member
    have still : (s.release file tgid answer).info other = s.info other := setInfo_of_ne _ _ different
    rw [still, valid.mirrors other (Finset.mem_of_mem_erase member) i]
    exact exists_congr fun mutex => and_congr_right fun _ => by simp [holder, different]
  · obtain ⟨different, holds⟩ := (holder mutex other).mp holds
    exact Finset.mem_erase.mpr ⟨different, valid.held mutex other holds⟩

theorem LocksValid.opened (valid : LocksValid s) (fresh : file ∉ s.files) :
    LocksValid ({ s with files := insert file s.files }.setInfo file {}) := by
  refine ⟨⟨fun other member i => ?_, valid.unlocks⟩, fun mutex other holds => ?_⟩
  · by_cases same : other = file
    · subst same
      rw [setInfo_self]
      constructor
      · simp
      · rintro ⟨mutex, -, holds⟩
        exact absurd (valid.held mutex other holds) fresh
    · rw [setInfo_of_ne _ _ same]
      exact valid.mirrors other ((Finset.mem_insert.mp member).resolve_left same) i
  · exact Finset.mem_insert_of_mem (valid.held mutex other holds)

theorem LocksValid.step (valid : LocksValid s) (allowed : NamesLocks s event)
    (taken : Legacy.step s event = some next) : LocksValid next := by
  cases event with
  | opened file allocated interrupted =>
    obtain ⟨fresh, rfl⟩ := step_opened_iff.mp taken
    obtain same | added := opened_cases s file allocated interrupted
    · rw [same]
      exact valid
    · rw [added]
      exact valid.opened fresh
  | munmap mm start length =>
    obtain rfl := Option.some.inj taken
    exact valid.frame rfl rfl fun _ => rfl
  | release file tgid answer =>
    obtain ⟨⟨opened, -⟩, rfl⟩ := step_release_iff.mp taken
    exact valid.release opened answer
  | call file tgid command =>
    obtain ⟨opened, taken⟩ := step_call_iff.mp taken
    obtain ⟨files, others⟩ := call_files taken
    have mirrors := valid.mirrors file opened
    refine valid.turn opened files others ?_
    cases command with
    | getLock arg =>
      obtain ⟨⟨⟨flags, locks⟩, ret⟩, gotten, rfl⟩ := Option.map_eq_some_iff.mp taken
      rw [setInfo_self]
      exact getLock_turn allowed gotten
    | setProcInfo param =>
      obtain ⟨⟨⟨flags, locks, proc⟩, ret⟩, gotten, rfl⟩ := Option.map_eq_some_iff.mp taken
      rw [setInfo_self]
      exact setProcInfo_turn gotten
    | stopProcInfo arg =>
      obtain ⟨⟨⟨locks, proc⟩, ret⟩, gotten, rfl⟩ := Option.map_eq_some_iff.mp taken
      exact stopProcInfo_turn gotten
    | releaseLock arg =>
      rw [← Option.some.inj taken, setInfo_self]
      exact releaseLock_turn mirrors allowed
    | copyProcInfo copied =>
      rw [← Option.some.inj taken, setInfo_self]
      exact copyProcInfo_turn mirrors allowed
    | engineReq _ | engineRel _ | enableVe _ | disableVe | resetVe _ | setRefcount _ | mapDmaBuf _ | unmapDmaBuf _
    | allocCoherent _ | freeCoherent _ _ | mmap _ _ | other _ _ =>
      obtain ⟨same, flags⟩ := call_locks rfl taken
      rw [same, flags]
      exact .refl

/-- In a run of such calls the flags mirror the mutexes and every mutex is unlocked by its holder. -/
theorem locks_mirrored {debugRoot : Bool} {events : List Event} {final : State}
    (guarded : Guarded step NamesLocks (.initial debugRoot) events)
    (reached : run step (.initial debugRoot) events = some final) : LocksMirrored final :=
  (guarded.run_preserves LocksValid (fun valid allowed taken => valid.step allowed taken)
    ⟨⟨fun _ member => absurd member (Finset.notMem_empty _), by simp [State.initial, OwnUnlocks]⟩,
      by simp [State.initial]⟩ reached).toLocksMirrored

instance (s : State) (event : Event) : Decidable (NamesLocks s event) :=
  match event with
  | .call _ _ (.getLock _) | .call _ _ (.releaseLock _) | .call _ _ (.copyProcInfo _) => by
      dsimp only [NamesLocks]; infer_instance
  | .call _ _ (.engineReq _) | .call _ _ (.engineRel _) | .call _ _ (.enableVe _) | .call _ _ .disableVe
  | .call _ _ (.resetVe _) | .call _ _ (.setRefcount _) | .call _ _ (.setProcInfo _) | .call _ _ (.stopProcInfo _)
  | .call _ _ (.mapDmaBuf _) | .call _ _ (.unmapDmaBuf _) | .call _ _ (.allocCoherent _)
  | .call _ _ (.freeCoherent _ _) | .call _ _ (.mmap _ _) | .call _ _ (.other _ _)
  | .opened _ _ _ | .munmap _ _ _ | .release _ _ _ => instDecidableTrue

/-- Two files take different locks, one of them also that of debugfs, and the other one closes with its lock. -/
theorem locks_mirrored_two :
    let events : List Event := [.opened 0 true false, .opened 1 true false, .call 0 7 (.getLock 1),
      .call 1 8 (.getLock 0x10), .call 0 7 (.setProcInfo (some ⟨0, 64⟩)), .call 0 7 (.copyProcInfo true),
      .call 0 7 (.releaseLock 1), .call 1 8 (.getLock 1), .release 1 8 0]
    (run step (.initial true) events).isSome ∧
      ∀ final, run step (.initial true) events = some final → LocksMirrored final :=
  ⟨by decide, fun _ reached => locks_mirrored (by decide) reached⟩

/-- Opening and closing files, locks and debugfs information. -/
def UsesLocks : Event → Prop
  | .opened _ _ _ | .release _ _ _ => True
  | .call _ _ (.getLock _) | .call _ _ (.releaseLock _) | .call _ _ (.setProcInfo _) | .call _ _ (.copyProcInfo _) =>
      True
  | _ => False

/-- `GET_LOCK` of two locks at once takes none and sets both flags, and the close of that file unlocks the mutex
which the first file holds. -/
theorem locks_not_mirrored :
    ¬ ∀ (events : List Event) (final : State), (∀ event ∈ events, UsesLocks event) →
      run step (.initial true) events = some final → LocksMirrored final := by
  intro always
  let events : List Event := [.opened 0 true false, .opened 1 true false, .call 0 7 (.getLock 1),
    .call 1 8 (.getLock 3), .release 1 8 0]
  have stolen : (run step (.initial true) events).map (·.locks.unlocks) =
      some [⟨1, .venc, none⟩, ⟨1, .vdec, some 0⟩] := by decide
  obtain ⟨final, reached, unlocks⟩ := Option.map_eq_some_iff.mp stolen
  have used : ∀ event ∈ events, UsesLocks event := by simp [events, UsesLocks]
  have own := (always events final used reached).unlocks ⟨1, .vdec, some 0⟩ (by simp [unlocks])
  exact absurd own (by decide)

end H618Vpu.Legacy
