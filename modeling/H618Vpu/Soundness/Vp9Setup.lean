import H618Vpu.Model.Vp9Setup

/-! # The setup of a VP9 context: what its returned code means

The five allocations and the two size computations of `cedrus_dec_vp9_setup` fail in seven ways. The
returned code tells the truth except when an allocation after `mv_col` fails: then everything is
given back, but the code is the 0 that `cedrus_dec_vp9_mv_col_size` had left.
-/

namespace H618Vpu.Vp9

/-- All five buffers are allocated. -/
def Memory.complete (memory : Memory) : Bool := memory.pointers.all (·.isSome)

/-- Every buffer that was handed out came back exactly once, and nothing else did. -/
def Dma.settled (dma : Dma) : Prop :=
  ∀ allocation, dma.freed.count allocation = dma.allocated.count allocation ∧
    dma.allocated.count allocation ≤ 1

/-- The setup returns 0 exactly with all buffers; otherwise it returns a negative code, has given
every buffer back once and leaves no pointer; and streaming starts with all buffers only. -/
structure AllOrNothing (platform : Platform) (width height : UInt32) (answers : ℕ → Bool) : Prop where
  success :
    let result := Working.setup { dma := { answers } } platform width height
    result.1 = 0 ↔ result.2.memory.complete = true
  failure :
    let result := Working.setup { dma := { answers } } platform width height
    result.2.memory.complete = false →
      result.1 < 0 ∧ result.2.dma.settled ∧ ∀ pointer ∈ result.2.memory.pointers, pointer = none
  streaming : ∀ pm ctxAlloc jobAlloc,
    let started := startStreaming platform width height pm ctxAlloc jobAlloc { answers }
    started.ret = 0 → ∃ memory, started.engineCtx = some memory ∧ memory.complete

/-- The motion-vector buffer is there, and a later allocation fails before the size of the segment
maps could overflow. -/
def LostError (platform : Platform) (width height : UInt32) (answers : ℕ → Bool) : Prop :=
  (mvColSize platform width height).isSome ∧ answers 0 = true ∧
    (answers 1 = false ∨ answers 2 = false ∨
      (segmentMapSize platform width height).isSome ∧ (answers 3 = false ∨ answers 4 = false))

/-- Buffers which come back in the opposite order are settled. -/
theorem Dma.settled_of_reverse {dma : Dma} (opposite : dma.freed = dma.allocated.reverse)
    (distinct : (dma.allocated.map (·.buffer)).Nodup) : dma.settled := by
  intro allocation
  rw [opposite, List.count_reverse]
  exact ⟨rfl, List.nodup_iff_count_le_one.mp (List.Nodup.of_map _ distinct) allocation⟩

section

variable {platform : Platform} {width height : UInt32} {answers : ℕ → Bool}

/-- Nothing is left of a setup: no pointer, and every buffer was given back once. -/
structure Undone (s : Working) : Prop where
  empty : ∀ pointer ∈ s.memory.pointers, pointer = none
  settled : s.dma.settled

theorem Undone.incomplete {s : Working} (undone : Undone s) : s.memory.complete = false := by
  have first := undone.empty s.memory.mvCol (by simp [Memory.pointers])
  simp [Memory.complete, Memory.pointers, first]

/-- The cleanup after buffers were allocated in order undoes the setup. -/
private theorem undone_of_reverse {s : Working} (empty : s.memory = {})
    (opposite : s.dma.freed = s.dma.allocated.reverse)
    (distinct : (s.dma.allocated.map (·.buffer)).Nodup) : Undone s :=
  ⟨by simp [empty, Memory.pointers], Dma.settled_of_reverse opposite distinct⟩

private theorem setup_mvCol_overflow (overflow : mvColSize platform width height = none) (s : Working) :
    s.setup platform width height = (eoverflow, s) := by
  simp [Working.setup, overflow]

/-- An allocation after `mv_col` fails: everything is undone and the code is 0. -/
theorem setup_lost (lost : LostError platform width height answers) :
    (Working.setup { dma := { answers } } platform width height).1 = 0 ∧
      Undone (Working.setup { dma := { answers } } platform width height).2 := by
  obtain ⟨mvFits, mvCol, later⟩ := lost
  obtain ⟨mvSize, mvSize_eq⟩ := Option.isSome_iff_exists.mp mvFits
  cases probCount : answers 1 with
  | false =>
    simp only [Working.setup, mvSize_eq, Working.alloc, Dma.allocCoherent, mvCol, ↓reduceIte, Nat.zero_add,
      reduceCtorEq, probCount, Bool.false_eq_true, Nat.reduceAdd, true_and]
    exact undone_of_reverse rfl rfl (by simp [Working.cleanup, Dma.freeCoherent])
  | true =>
    cases entryInfo : answers 2 with
    | false =>
      simp only [Working.setup, mvSize_eq, Working.alloc, Dma.allocCoherent, mvCol, ↓reduceIte, Nat.zero_add,
        reduceCtorEq, probCount, Nat.reduceAdd, entryInfo, Bool.false_eq_true, true_and]
      exact undone_of_reverse rfl rfl (by simp [Working.cleanup, Dma.freeCoherent])
    | true =>
      obtain ⟨mapFits, maps⟩ :
          (segmentMapSize platform width height).isSome ∧ (answers 3 = false ∨ answers 4 = false) := by
        simpa [probCount, entryInfo] using later
      obtain ⟨mapSize, mapSize_eq⟩ := Option.isSome_iff_exists.mp mapFits
      cases map0 : answers 3 with
      | false =>
        simp only [Working.setup, mvSize_eq, Working.alloc, Dma.allocCoherent, mvCol, ↓reduceIte, Nat.zero_add,
          reduceCtorEq, probCount, Nat.reduceAdd, entryInfo, mapSize_eq, map0, Bool.false_eq_true, true_and]
        exact undone_of_reverse rfl rfl (by simp [Working.cleanup, Dma.freeCoherent])
      | true =>
        have map1 : answers 4 = false := by simpa [map0] using maps
        simp only [Working.setup, mvSize_eq, Working.alloc, Dma.allocCoherent, mvCol, ↓reduceIte, Nat.zero_add,
          reduceCtorEq, probCount, Nat.reduceAdd, entryInfo, mapSize_eq, map0, map1, Bool.false_eq_true, true_and]
        exact undone_of_reverse rfl rfl (by simp [Working.cleanup, Dma.freeCoherent])

/-- Otherwise the code tells the truth: 0 with all buffers, or negative with the setup undone. -/
theorem setup_told (told : ¬ LostError platform width height answers) :
    ((Working.setup { dma := { answers } } platform width height).1 = 0 ∧
        (Working.setup { dma := { answers } } platform width height).2.memory.complete = true) ∨
      ((Working.setup { dma := { answers } } platform width height).1 < 0 ∧
        Undone (Working.setup { dma := { answers } } platform width height).2) := by
  cases mvSize_eq : mvColSize platform width height with
  | none =>
    rw [setup_mvCol_overflow mvSize_eq]
    exact .inr ⟨(by decide : eoverflow < 0), undone_of_reverse rfl rfl .nil⟩
  | some mvSize =>
    cases mvCol : answers 0 with
    | false =>
      simp only [Working.setup, mvSize_eq, Working.alloc, Dma.allocCoherent, mvCol, Bool.false_eq_true, ↓reduceIte]
      exact .inr ⟨(by decide : enomem < 0), by simp [Memory.pointers], Dma.settled_of_reverse rfl .nil⟩
    | true =>
      simp only [LostError, mvSize_eq, mvCol, Option.isSome_some, true_and, not_or, Bool.not_eq_false] at told
      obtain ⟨probCount, entryInfo, maps⟩ := told
      cases mapSize_eq : segmentMapSize platform width height with
      | none =>
        simp only [Working.setup, mvSize_eq, Working.alloc, Dma.allocCoherent, mvCol, ↓reduceIte, Nat.zero_add,
          reduceCtorEq, probCount, Nat.reduceAdd, entryInfo, mapSize_eq]
        exact .inr ⟨(by decide : eoverflow < 0),
          undone_of_reverse rfl rfl (by simp [Working.cleanup, Dma.freeCoherent])⟩
      | some mapSize =>
        obtain ⟨map0, map1⟩ : answers 3 = true ∧ answers 4 = true := by simpa [mapSize_eq] using maps
        simp only [Working.setup, mvSize_eq, Working.alloc, Dma.allocCoherent, mvCol, ↓reduceIte, Nat.zero_add,
          reduceCtorEq, probCount, Nat.reduceAdd, entryInfo, mapSize_eq, map0, map1]
        exact .inl ⟨trivial, rfl⟩

/-- Streaming that started has the buffers the setup left. -/
private theorem startStreaming_eq {pm : ℤ} {ctxAlloc jobAlloc : Bool}
    (success : (startStreaming platform width height pm ctxAlloc jobAlloc { answers }).ret = 0) :
    (Working.setup { dma := { answers } } platform width height).1 = 0 ∧
      (startStreaming platform width height pm ctxAlloc jobAlloc { answers }).engineCtx =
        some (Working.setup { dma := { answers } } platform width height).2.memory := by
  rw [startStreaming] at success ⊢
  split at success
  case isTrue failed => exact absurd success failed
  split at success
  case isTrue => cases success
  split at success
  case isTrue => cases success
  case isFalse started noCtx noJob =>
    rw [if_neg started, if_neg noCtx, if_neg noJob]
    dsimp only at success ⊢
    split at success
    case isTrue failed => exact absurd success failed
    case isFalse ready => exact ⟨not_not.mp ready, if_neg ready ▸ rfl⟩

/-- The setup is all-or-nothing exactly when the error of a later allocation is not lost. -/
theorem setup_all_or_nothing_iff (platform : Platform) (width height : UInt32) (answers : ℕ → Bool) :
    AllOrNothing platform width height answers ↔ ¬ LostError platform width height answers := by
  constructor
  · intro all lost
    obtain ⟨zero, undone⟩ := setup_lost lost
    have complete := all.success.mp zero
    simp [undone.incomplete] at complete
  · intro told
    rcases setup_told told with ⟨zero, complete⟩ | ⟨negative, undone⟩
    · exact ⟨⟨fun _ => complete, fun _ => zero⟩, fun incomplete => by simp [complete] at incomplete,
        fun _ _ _ success => ⟨_, (startStreaming_eq success).2, complete⟩⟩
    · refine ⟨⟨fun zero => ?_, fun complete => ?_⟩, fun _ => ⟨negative, undone.settled, undone.empty⟩,
        fun _ _ _ success => ?_⟩
      · omega
      · simp [undone.incomplete] at complete
      · have zero := (startStreaming_eq success).1
        omega

/-- 1920×1080 on a 64-bit build; the second allocation fails. -/
theorem setup_not_all_or_nothing :
    ¬ ∀ (platform : Platform) (width height : UInt32) (answers : ℕ → Bool),
      AllOrNothing platform width height answers := by
  intro always
  have success := (always ⟨64, 4096⟩ 1920 1080 (· ≠ 1)).success
  revert success
  decide

end

end H618Vpu.Vp9
