import H618Vpu.Model.OpenFile

/-! # A failing open leaves the context and its file handle behind

The labels of the two setup functions undo what each of them acquired, up to the file handle: nobody exits it and nobody
frees the context. So opening is all or nothing when it succeeds, or fails before there is a context.
-/

namespace H618Vpu.OpenFile

open Machine

/-- What an open file holds. -/
def opened (engines : List ℕ) : List Resource :=
  [.fileHandleAdded] ++ (.ctrlHandler :: (List.range engines.sum).map .ctrl) ++ [.ctrls, .m2mCtx, .fileHandle, .context]

/-- A failing open has released everything once, a successful one holds everything once, and neither holds the lock of
the node. -/
structure AllOrNothing (answers : Answers) (engines : List ℕ) : Prop where
  failure : (procOpen answers engines).1 ≠ 0 → (procOpen answers engines).2.ledger.Holds []
  success : (procOpen answers engines).1 = 0 → (procOpen answers engines).2.ledger.Holds (opened engines)
  unlocked : (procOpen answers engines).2.locked = false

/-- Nothing fails while the controls are set up. -/
structure CtrlsGranted (answers : Answers) (engines : List ℕ) : Prop where
  configs : engines.sum ≠ 0
  ctrlsAlloc : answers.ctrlsAlloc = true
  handlerInit : answers.handlerInit = 0
  newCustom : ∀ i < engines.sum, answers.newCustom i = 0
  handlerSetup : answers.handlerSetup = 0

/-- Nothing fails after the context was allocated. -/
structure Granted (answers : Answers) (engines : List ℕ) : Prop extends CtrlsGranted answers engines where
  m2mCtxInit : answers.m2mCtxInit = 0
  formatSetup : answers.formatSetup = 0

/-- A setup that is granted succeeds and leaves what it owns; another fails and leaves these resources. -/
structure Outcome (result : ℤ × State) (granted : Prop) (owned : State → Prop) (left : List Resource) : Prop where
  failed : result.1 ≠ 0 → result.2.ledger.Holds left
  owned : result.1 = 0 → owned result.2
  granted : result.1 = 0 ↔ granted

section Outcome

variable {ret : ℤ} {s : State} {granted : Prop} {owned : State → Prop} {left : List Resource}

theorem Outcome.fail (error : ret ≠ 0) (holds : s.ledger.Holds left) (refused : ¬ granted) :
    Outcome (ret, s) granted owned left :=
  ⟨fun _ => holds, fun ok => absurd ok error, iff_of_false error refused⟩

theorem Outcome.ok (owns : owned s) (all : granted) : Outcome (0, s) granted owned left :=
  ⟨fun error => absurd rfl error, fun _ => owns, iff_of_true rfl all⟩

end Outcome

namespace State

variable (answers : Answers) {s : State} {kept : List Resource}

/-- The controls below the index are owned beside these. -/
def Filled (s : State) (kept : List Resource) : Prop :=
  s.ledger.Owns ((List.range s.index).map .ctrl ++ kept)

theorem Filled.next (filled : s.Filled kept) (apart : ∀ i, Resource.ctrl i ∉ kept) :
    State.Filled { s.acquire (.ctrl s.index) with index := s.index + 1 } kept := by
  have fresh : Resource.ctrl s.index ∉ (List.range s.index).map .ctrl ++ kept := by
    simp [apart]
  refine (Ledger.Owns.acquire filled fresh).perm ?_
  rw [List.range_succ, List.map_append, List.append_assoc]
  exact List.perm_middle.symm

/-- The controls of an engine are created one after the other, up to the first that fails. -/
theorem engineCtrls_spec (apart : ∀ i, Resource.ctrl i ∉ kept) (configs : ℕ) (filled : s.Filled kept) :
    (engineCtrls answers configs s).2.Filled kept ∧
      ((engineCtrls answers configs s).1 = 0 ↔
        ∀ i, s.index ≤ i → i < s.index + configs → answers.newCustom i = 0) ∧
      ((engineCtrls answers configs s).1 = 0 → (engineCtrls answers configs s).2.index = s.index + configs) := by
  induction configs generalizing s with
  | zero => exact ⟨filled, ⟨fun _ i low high => absurd high (by omega), fun _ => rfl⟩, fun _ => rfl⟩
  | succ configs ih =>
    rw [engineCtrls]
    split
    case isTrue failed =>
      exact ⟨filled, ⟨fun ok => absurd ok failed, fun all => all _ le_rfl (by omega)⟩, fun ok => absurd ok failed⟩
    case isFalse created =>
      obtain ⟨filled, ok, index⟩ := ih (filled.next apart)
      refine ⟨filled, ok.trans ⟨fun all i low high => ?_, fun all i low high => ?_⟩, fun ok => (index ok).trans ?_⟩
      · rcases Nat.eq_or_lt_of_le low with rfl | low
        · exact of_not_not created
        · exact all i low (by dsimp only; omega)
      · dsimp only at low high
        exact all i (by omega) (by omega)
      · dsimp only
        omega

/-- So are the controls of all engines. -/
theorem procCtrls_spec (apart : ∀ i, Resource.ctrl i ∉ kept) (engines : List ℕ) (filled : s.Filled kept) :
    (procCtrls answers engines s).2.Filled kept ∧
      ((procCtrls answers engines s).1 = 0 ↔
        ∀ i, s.index ≤ i → i < s.index + engines.sum → answers.newCustom i = 0) ∧
      ((procCtrls answers engines s).1 = 0 → (procCtrls answers engines s).2.index = s.index + engines.sum) := by
  induction engines generalizing s with
  | nil => exact ⟨filled, ⟨fun _ i low high => absurd high (by rw [List.sum_nil]; omega), fun _ => rfl⟩, fun _ => rfl⟩
  | cons configs engines ih =>
    obtain ⟨first, ok, index⟩ := engineCtrls_spec answers apart configs filled
    rw [procCtrls, List.sum_cons]
    dsimp only
    split
    case isTrue failed =>
      refine ⟨first, ⟨fun none => absurd none failed, fun all => ?_⟩, fun none => absurd none failed⟩
      exact ok.mpr fun i low high => all i low (by omega)
    case isFalse created =>
      have created := of_not_not created
      obtain ⟨rest, ok', index'⟩ := ih first
      rw [index created] at ok' index'
      refine ⟨rest, ok'.trans ⟨fun all i low high => ?_, fun all i low high => ?_⟩, fun ok => (index' ok).trans ?_⟩
      · rcases Nat.lt_or_ge i (s.index + configs) with before | after
        · exact ok.mp created i low before
        · exact all i after (by omega)
      · exact all i (by omega) (by omega)
      · omega

/-- The resources of the controls beside others. -/
def CtrlsOwned (s : State) (kept : List Resource) : Prop := s.Filled (.ctrlHandler :: .ctrls :: kept)

theorem CtrlsOwned.cleanup (owned : s.CtrlsOwned kept) : s.ctrlsCleanup.ledger.Holds kept :=
  Ledger.Holds.release (Ledger.Holds.release (owned.perm List.perm_middle).1)

/-- Setting up the controls is all or nothing. -/
theorem ctrlsSetup_outcome (engines : List ℕ) (owns : s.ledger.Owns kept) (apart : ∀ i, Resource.ctrl i ∉ kept)
    (noCtrls : Resource.ctrls ∉ kept) (noHandler : Resource.ctrlHandler ∉ kept) :
    Outcome (s.ctrlsSetup answers engines) (CtrlsGranted answers engines)
      (fun after => after.CtrlsOwned kept ∧ after.index = engines.sum) kept := by
  have array := owns.acquire noCtrls
  have handler := array.acquire (List.not_mem_cons_of_ne_of_not_mem (by decide) noHandler)
  have start : ({ (s.acquire .ctrls).acquire .ctrlHandler with index := 0 } : State).CtrlsOwned kept := handler
  have apart' : ∀ i, Resource.ctrl i ∉ .ctrlHandler :: .ctrls :: kept := by simp [apart]
  obtain ⟨filled, created, index⟩ := procCtrls_spec answers apart' engines start
  simp only [Nat.zero_le, true_implies, Nat.zero_add] at created index
  rw [ctrlsSetup]
  split
  case isTrue none => exact .fail (by decide) owns.1 fun granted => granted.configs none
  case isFalse configs =>
    split
    case isTrue refused => exact .fail (by decide) owns.1 fun granted => by simp [granted.ctrlsAlloc] at refused
    case isFalse allocated =>
      dsimp only
      split
      case isTrue error => exact .fail error array.1.release fun granted => error granted.handlerInit
      case isFalse initialized =>
        split
        case isTrue error =>
          exact .fail error (CtrlsOwned.cleanup filled) fun granted => error (created.mpr granted.newCustom)
        case isFalse complete =>
          have complete := of_not_not complete
          split
          case isTrue error => exact .fail error (CtrlsOwned.cleanup filled) fun granted => error granted.handlerSetup
          case isFalse set =>
            exact .ok ⟨filled, index complete⟩
              ⟨configs, by simpa using allocated, of_not_not initialized, created.mp complete, of_not_not set⟩

/-- An open file, with the number of its controls. -/
def Opened (s : State) (engines : List ℕ) : Prop := s.ledger.Owns (opened engines) ∧ s.index = engines.sum

/-- A context that is not set up leaves its file handle behind. -/
theorem contextSetup_outcome (engines : List ℕ) (owns : s.ledger.Owns [.context]) :
    Outcome (s.contextSetup answers engines) (Granted answers engines) (·.Opened engines) [.fileHandle, .context] := by
  have handle := owns.acquire (by decide : Resource.fileHandle ∉ [.context])
  rw [contextSetup]
  dsimp only
  split
  case isTrue error => exact .fail error handle.1 fun granted => error granted.m2mCtxInit
  case isFalse initialized =>
    have m2m := handle.acquire (by decide : Resource.m2mCtx ∉ [.fileHandle, .context])
    have outcome := ctrlsSetup_outcome answers engines (s := (s.acquire .fileHandle).acquire .m2mCtx) m2m (by simp)
      (by decide) (by decide)
    split
    case isTrue error =>
      exact .fail error (Ledger.Holds.release (outcome.failed error)) fun granted =>
        error (outcome.granted.mpr granted.toCtrlsGranted)
    case isFalse ok =>
      have ok := of_not_not ok
      obtain ⟨owned, index⟩ := outcome.owned ok
      split
      case isTrue error =>
        exact .fail error (Ledger.Holds.release owned.cleanup) fun granted => error granted.formatSetup
      case isFalse set =>
        refine .ok ⟨?_, index⟩ ⟨outcome.granted.mp ok, of_not_not initialized, of_not_not set⟩
        rw [CtrlsOwned, Filled, index] at owned
        refine (owned.acquire ?_).perm ?_
        · simp
        · exact List.Perm.cons _ List.perm_middle

/-- The release of an open file does free the context and exit the file handle. -/
theorem procRelease_holds {engines : List ℕ} (opened : s.Opened engines) : s.procRelease.ledger.Holds [] := by
  obtain ⟨owns, index⟩ := opened
  rw [OpenFile.opened, ← index] at owns
  have added := owns.1
  rw [List.append_assoc] at added
  -- the context, the file handle and the m2m context, and before them what belongs to the controls
  refine Ledger.Holds.release (Ledger.Holds.release (Ledger.Holds.release ?_))
  exact Ledger.Holds.release (Ledger.Holds.release (Ledger.Holds.release added))

end State

/-- Without a context nothing is acquired; with one, opening is its setup. -/
theorem procOpen_cases (answers : Answers) (engines : List ℕ) :
    ((answers.lockInterrupted ∨ answers.contextAlloc = false) ∧ (procOpen answers engines).1 ≠ 0 ∧
        (procOpen answers engines).2.ledger.Holds [] ∧ (procOpen answers engines).2.locked = false) ∨
      ¬ (answers.lockInterrupted ∨ answers.contextAlloc = false) ∧
        (procOpen answers engines).2.locked = false ∧
        Outcome (procOpen answers engines) (Granted answers engines) (·.Opened engines) [.fileHandle, .context] := by
  rw [procOpen]
  split
  case isTrue interrupted => exact .inl ⟨.inl interrupted, by decide, Ledger.Owns.empty.1, rfl⟩
  case isFalse locked =>
    dsimp only
    split
    case isTrue refused => exact .inl ⟨.inr (by simpa using refused), by decide, Ledger.Owns.empty.1, rfl⟩
    case isFalse allocated =>
      let s : State := { ({ locked := true } : State).acquire .context with privateData := true }
      have owns : s.ledger.Owns [.context] := Ledger.Owns.empty.acquire List.not_mem_nil
      have outcome := State.contextSetup_outcome answers engines owns
      refine .inr ⟨?_, rfl, outcome.failed, outcome.owned, outcome.granted⟩
      simpa [locked] using allocated

/-- Opening a node is all or nothing exactly when it fails before there is a context, or nothing fails. -/
theorem open_allOrNothing_iff (answers : Answers) (engines : List ℕ) :
    AllOrNothing answers engines ↔
      answers.lockInterrupted ∨ answers.contextAlloc = false ∨ Granted answers engines := by
  rcases procOpen_cases answers engines with ⟨early, error, holds, unlocked⟩ | ⟨late, unlocked, outcome⟩
  · exact iff_of_true ⟨fun _ => holds, fun ok => absurd ok error, unlocked⟩ (early.imp_right .inl)
  · constructor
    · intro all
      refine .inr (.inr (outcome.granted.mp ?_))
      by_contra error
      have same := (all.failure error).unique (outcome.failed error)
      exact absurd same.length_eq (by simp)
    · intro granted
      have granted := (or_assoc.mpr granted).resolve_left late
      have ok := outcome.granted.mpr granted
      exact ⟨fun error => absurd ok error, fun _ => (outcome.owned ok).1.1, unlocked⟩

theorem open_not_always_allOrNothing : ¬ ∀ answers engines, AllOrNothing answers engines := by
  intro always
  have holds := (always { m2mCtxInit := enomem } [1]).failure (by decide)
  have same : [Resource.fileHandle, .context].Perm [] := holds.split
  exact absurd same.length_eq (by decide)

end H618Vpu.OpenFile
