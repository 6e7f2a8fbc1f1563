import Mathlib

/-! # Items gathered into words

A loop puts its items into a word, one after the other, and gives the word away when it is full and after the last
item. Each item can then be read from the word its number leads to, although the last word may be partly empty.
-/

namespace H618Vpu.Machine

variable {α ω ν : Type*}

/-- How a word takes items: where the next one is put, and what is left in place of a word that was given away. -/
structure Gather (α ω ν : Type*) where
  size : ℕ
  put : α → ℕ → ν → α
  word : α → ω
  rest : α → α

namespace Gather

variable (gather : Gather α ω ν)

/-- One round of a loop over so many items. -/
def step (items : ℕ → ν) (count i : ℕ) (state : α × List ω) : α × List ω :=
  let filled := gather.put state.1 (i % gather.size) (items i)
  if i % gather.size = gather.size - 1 ∨ i = count - 1 then (gather.rest filled, state.2 ++ [gather.word filled])
  else (filled, state.2)

def run (items : ℕ → ν) (count : ℕ) (start : α) (rounds : ℕ) : α × List ω :=
  (List.range rounds).foldl (fun state i => gather.step items count i state) (start, [])

/-- What is read from a word, when it is ready from a place on. -/
structure Reads (read : ω → ℕ → ν) (ready : ℕ → α → Prop) : Prop where
  size_pos : 0 < gather.size
  rest : ∀ state, ready 0 (gather.rest state)
  put_ready : ∀ {place state} item, place < gather.size → ready place state →
    ready (place + 1) (gather.put state place item)
  put_read : ∀ {place state} item, place < gather.size → ready place state →
    read (gather.word (gather.put state place item)) place = item
  put_before : ∀ {place state} item, place < gather.size → ready place state → ∀ before < place,
    read (gather.word (gather.put state place item)) before = read (gather.word state) before

variable {gather} {read : ω → ℕ → ν} {ready : ℕ → α → Prop} {items : ℕ → ν} {count : ℕ} {start : α}

theorem run_succ (rounds : ℕ) :
    gather.run items count start (rounds + 1) =
      gather.step items count rounds (gather.run items count start rounds) := by
  rw [run, run, List.range_succ, List.foldl_append, List.foldl_cons, List.foldl_nil]

/-- Every item of the full words is where its number leads to. -/
def Stored (gather : Gather α ω ν) (read : ω → ℕ → ν) (items : ℕ → ν) (rounds : ℕ) (words : List ω) : Prop :=
  ∀ i < rounds, ∃ word, words[i / gather.size]? = some word ∧ read word (i % gather.size) = items i

/-- Between two rounds: the full words, and the one that is being filled. -/
structure Partly (gather : Gather α ω ν) (read : ω → ℕ → ν) (ready : ℕ → α → Prop) (items : ℕ → ν)
    (full place : ℕ) (state : α × List ω) : Prop where
  length : state.2.length = full
  stored : gather.Stored read items (full * gather.size) state.2
  ready : ready place state.1
  filled : ∀ before < place, read (gather.word state.1) before = items (full * gather.size + before)

/-- A word that is given away has the items of its places. -/
theorem Partly.give (reads : gather.Reads read ready) {full place : ℕ} {state : α × List ω}
    (partly : Partly gather read ready items full place state) (inside : place < gather.size) :
    gather.Stored read items (full * gather.size + place + 1)
      (state.2 ++ [gather.word (gather.put state.1 place (items (full * gather.size + place)))]) := by
  intro i below
  have positive := reads.size_pos
  rcases Nat.lt_or_ge i (full * gather.size) with old | new
  · obtain ⟨word, found, same⟩ := partly.stored i old
    exact ⟨word, List.getElem?_append_left (List.getElem?_eq_some_iff.mp found).1 ▸ found, same⟩
  · obtain ⟨before, rfl⟩ := Nat.exists_eq_add_of_le new
    have small : before < gather.size := by omega
    have quotient : (full * gather.size + before) / gather.size = full := by
      rw [Nat.add_comm, Nat.add_mul_div_right _ _ positive, Nat.div_eq_of_lt small, Nat.zero_add]
    have remainder : (full * gather.size + before) % gather.size = before := by
      rw [Nat.add_comm, Nat.add_mul_mod_self_right, Nat.mod_eq_of_lt small]
    have given (word : ω) : (state.2 ++ [word])[full]? = some word := by
      rw [List.getElem?_append_right partly.length.le, partly.length, Nat.sub_self, List.getElem?_cons_zero]
    refine ⟨_, by rw [quotient, given], ?_⟩
    rw [remainder]
    rcases Nat.lt_or_eq_of_le (show before ≤ place by omega) with earlier | rfl
    · rw [reads.put_before _ inside partly.ready before earlier, partly.filled before earlier]
    · exact reads.put_read _ inside partly.ready

/-- One round before the last one. -/
theorem Partly.step (reads : gather.Reads read ready) {full place : ℕ} {state : α × List ω}
    (partly : Partly gather read ready items full place state) (inside : place < gather.size)
    (more : full * gather.size + place ≠ count - 1) :
    ∃ full' place', full' * gather.size + place' = full * gather.size + place + 1 ∧ place' < gather.size ∧
      Partly gather read ready items full' place' (gather.step items count (full * gather.size + place) state) := by
  have positive := reads.size_pos
  have remainder : (full * gather.size + place) % gather.size = place := by
    rw [Nat.add_comm, Nat.add_mul_mod_self_right, Nat.mod_eq_of_lt inside]
  simp only [Gather.step, remainder, more, or_false]
  split_ifs with last
  · have total : (full + 1) * gather.size = full * gather.size + place + 1 := by
      rw [Nat.succ_mul]
      omega
    refine ⟨full + 1, 0, by omega, positive, ?_, ?_, reads.rest _, nofun⟩
    · rw [List.length_append, partly.length, List.length_singleton]
    · rw [total]
      exact partly.give reads inside
  · refine ⟨full, place + 1, rfl, by omega, partly.length, partly.stored, reads.put_ready _ inside partly.ready, ?_⟩
    intro before below
    rcases Nat.lt_or_eq_of_le (Nat.le_of_lt_succ below) with earlier | rfl
    · exact (reads.put_before _ inside partly.ready before earlier).trans (partly.filled before earlier)
    · exact reads.put_read _ inside partly.ready

/-- The rounds before the last one. -/
theorem run_partly (items : ℕ → ν) (reads : gather.Reads read ready) (begins : ready 0 start) {rounds : ℕ}
    (before : rounds < count) :
    ∃ full place, full * gather.size + place = rounds ∧ place < gather.size ∧
      Partly gather read ready items full place (gather.run items count start rounds) := by
  induction rounds with
  | zero => exact ⟨0, 0, by simp, reads.size_pos, rfl, by simp [Stored], begins, nofun⟩
  | succ rounds ih =>
    obtain ⟨full, place, rfl, inside, partly⟩ := ih (Nat.lt_of_succ_lt before)
    obtain ⟨full', place', sum, inside', next⟩ := partly.step reads inside (by omega : _ ≠ count - 1)
    exact ⟨full', place', sum, inside', run_succ _ ▸ next⟩

/-- After the loop every item is in its word. -/
theorem run_stored (reads : gather.Reads read ready) (begins : ready 0 start) :
    gather.Stored read items count (gather.run items count start count).2 := by
  cases count with
  | zero => exact fun i below => absurd below (Nat.not_lt_zero i)
  | succ last =>
    obtain ⟨full, place, sum, inside, partly⟩ :=
      run_partly items reads begins (Nat.lt_succ_self last)
    have remainder : (full * gather.size + place) % gather.size = place := by
      rw [Nat.add_comm, Nat.add_mul_mod_self_right, Nat.mod_eq_of_lt inside]
    subst sum
    rw [run_succ]
    simp only [Gather.step, remainder, Nat.add_sub_cancel, or_true, ↓reduceIte]
    exact partly.give reads inside

/-- The words are as many as the items need. -/
theorem run_length (reads : gather.Reads read ready) (begins : ready 0 start) :
    (gather.run items count start count).2.length = (count + (gather.size - 1)) / gather.size := by
  have positive := reads.size_pos
  cases count with
  | zero => exact (Nat.div_eq_of_lt (by omega)).symm
  | succ last =>
    obtain ⟨full, place, sum, inside, partly⟩ :=
      run_partly items reads begins (Nat.lt_succ_self last)
    have remainder : (full * gather.size + place) % gather.size = place := by
      rw [Nat.add_comm, Nat.add_mul_mod_self_right, Nat.mod_eq_of_lt inside]
    have needed : last + 1 + (gather.size - 1) = place + (full + 1) * gather.size := by
      rw [Nat.succ_mul]
      omega
    rw [needed, Nat.add_mul_div_right _ _ positive, Nat.div_eq_of_lt inside, Nat.zero_add]
    subst sum
    rw [run_succ]
    simp only [Gather.step, remainder, Nat.add_sub_cancel, or_true, ↓reduceIte, List.length_append, partly.length,
      List.length_singleton]

end Gather

end H618Vpu.Machine
