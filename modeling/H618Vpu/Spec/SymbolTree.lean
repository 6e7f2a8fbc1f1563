import Mathlib

/-! # Trees of coded symbols and the values at their branches

An entropy coder codes a symbol as the path to its leaf, with one adaptive value at each branch. The update visits
a branch after the two subtrees below it, and gives it the counts of the symbols on its two sides. When no two
branches share a value the visits are independent: each is one update from two sums of counts.
-/

namespace H618Vpu.Spec

/-- A tree with symbols at the leaves, and at each branch the index of its value. -/
inductive SymbolTree (σ ν : Type*) where
  | leaf (symbol : σ)
  | branch (index : ν) (left right : SymbolTree σ ν)

namespace SymbolTree

variable {σ ν : Type*}

/-- The values the tree uses, in the order of the visits. -/
def indices : SymbolTree σ ν → List ν
  | leaf _ => []
  | branch index left right => left.indices ++ right.indices ++ [index]

section Counts

variable {C : Type*} [Add C] (counts : σ → C)

/-- The count of all symbols below a place. -/
def total : SymbolTree σ ν → C
  | leaf symbol => counts symbol
  | branch _ left right => left.total + right.total

/-- The branches with the counts of their two sides, in the order of the visits. -/
def branches : SymbolTree σ ν → List (ν × C × C)
  | leaf _ => []
  | branch index left right =>
      left.branches ++ right.branches ++ [(index, left.total counts, right.total counts)]

variable {α : Type*} [DecidableEq ν] (merge : α → C → C → α)

/-- The recursive update: it returns the values, and the count for the branch above. -/
def mergeAll : SymbolTree σ ν → (ν → α) → (ν → α) × C
  | leaf symbol, values => (values, counts symbol)
  | branch index left right, values =>
      let (values, leftCount) := left.mergeAll values
      let (values, rightCount) := right.mergeAll values
      (Function.update values index (merge (values index) leftCount rightCount), leftCount + rightCount)

/-- One branch updated. -/
def mergeOne (values : ν → α) (entry : ν × C × C) : ν → α :=
  Function.update values entry.1 (merge (values entry.1) entry.2.1 entry.2.2)

/-- The recursion is one update after the other, each from the counts of its branch. -/
theorem mergeAll_eq_foldl (tree : SymbolTree σ ν) (values : ν → α) :
    tree.mergeAll counts merge values = ((tree.branches counts).foldl (mergeOne merge) values, tree.total counts) := by
  induction tree generalizing values with
  | leaf symbol => rfl
  | branch index left right ihLeft ihRight =>
    simp only [mergeAll, ihLeft, ihRight, branches, total, List.foldl_append, List.foldl_cons, List.foldl_nil, mergeOne]

theorem mergeAll_snd (tree : SymbolTree σ ν) (values : ν → α) :
    (tree.mergeAll counts merge values).2 = tree.total counts := by
  rw [mergeAll_eq_foldl]

omit [Add C] in
theorem foldl_mergeOne_of_notMem {entries : List (ν × C × C)} {values : ν → α} {index : ν}
    (other : index ∉ entries.map Prod.fst) : entries.foldl (mergeOne merge) values index = values index := by
  induction entries generalizing values with
  | nil => rfl
  | cons entry rest ih =>
    obtain ⟨different, other⟩ := not_or.mp (mt List.mem_cons.mpr other)
    exact (ih other).trans (Function.update_of_ne different _ _)

omit [Add C] in
theorem foldl_mergeOne_of_mem {entries : List (ν × C × C)} {values : ν → α} {entry : ν × C × C}
    (distinct : (entries.map Prod.fst).Nodup) (member : entry ∈ entries) :
    entries.foldl (mergeOne merge) values entry.1 = merge (values entry.1) entry.2.1 entry.2.2 := by
  induction entries generalizing values with
  | nil => cases member
  | cons first rest ih =>
    obtain ⟨fresh, distinct⟩ := List.nodup_cons.mp distinct
    rcases List.mem_cons.mp member with rfl | later
    · exact (foldl_mergeOne_of_notMem merge fresh).trans (Function.update_self ..)
    · have different : entry.1 ≠ first.1 := by
        intro same
        exact fresh (same ▸ List.mem_map_of_mem later)
      rw [List.foldl_cons, ih distinct later, mergeOne, Function.update_of_ne different]

omit [DecidableEq ν] in
theorem branches_map_fst (tree : SymbolTree σ ν) : (tree.branches counts).map Prod.fst = tree.indices := by
  induction tree with
  | leaf symbol => rfl
  | branch index left right ihLeft ihRight =>
    simp only [branches, indices, List.map_append, ihLeft, ihRight, List.map_cons, List.map_nil]

/-- Where no two branches share a value, each is merged once with the counts of its branch. -/
theorem mergeAll_of_mem {tree : SymbolTree σ ν} {values : ν → α} {index : ν} {leftCount rightCount : C}
    (distinct : tree.indices.Nodup) (member : (index, leftCount, rightCount) ∈ tree.branches counts) :
    (tree.mergeAll counts merge values).1 index = merge (values index) leftCount rightCount := by
  rw [mergeAll_eq_foldl]
  exact foldl_mergeOne_of_mem merge ((tree.branches_map_fst counts).symm ▸ distinct) member

/-- What every update keeps, the recursion keeps of every value. -/
theorem mergeAll_forall (holds : α → Prop) (kept : ∀ {value leftCount rightCount}, holds value →
    holds (merge value leftCount rightCount)) (tree : SymbolTree σ ν) {values : ν → α} (all : ∀ i, holds (values i)) :
    ∀ i, holds ((tree.mergeAll counts merge values).1 i) := by
  induction tree generalizing values with
  | leaf symbol => exact all
  | branch index left right ihLeft ihRight =>
    intro i
    have below := ihRight (ihLeft all)
    by_cases same : i = index
    · subst same
      simpa [mergeAll] using kept (below i)
    · simpa [mergeAll, Function.update_of_ne same] using below i

end Counts

section Numbers

variable {C D α : Type*} [Add C] [Add D] {counts : σ → C} (number : C → D) (small : D → Prop)

/-- A sum of counts is the sum of their numbers while the sum is small. -/
theorem total_map (parts : ∀ {a b}, small (a + b) → small a ∧ small b)
    (sums : ∀ {a b}, small (number a + number b) → number (a + b) = number a + number b)
    {tree : SymbolTree σ ν} (fits : small (tree.total (number ∘ counts))) :
    number (tree.total counts) = tree.total (number ∘ counts) := by
  induction tree with
  | leaf symbol => rfl
  | branch index left right ihLeft ihRight =>
    obtain ⟨fitsLeft, fitsRight⟩ := parts fits
    rw [total, total, ← ihLeft fitsLeft, ← ihRight fitsRight]
    apply sums
    rw [ihLeft fitsLeft, ihRight fitsRight]
    exact fits

variable [DecidableEq ν] {merge : α → C → C → α} {merge' : α → D → D → α}

/-- The recursion on counts is the recursion on their numbers when the total is small. -/
theorem mergeAll_map (parts : ∀ {a b}, small (a + b) → small a ∧ small b)
    (sums : ∀ {a b}, small (number a + number b) → number (a + b) = number a + number b)
    (same : ∀ value {a b}, small (number a + number b) → merge value a b = merge' value (number a) (number b))
    {tree : SymbolTree σ ν} (fits : small (tree.total (number ∘ counts))) (values : ν → α) :
    (tree.mergeAll counts merge values).1 = (tree.mergeAll (number ∘ counts) merge' values).1 := by
  induction tree generalizing values with
  | leaf symbol => rfl
  | branch index left right ihLeft ihRight =>
    obtain ⟨fitsLeft, fitsRight⟩ := parts fits
    have leftCount := total_map number small parts sums fitsLeft
    have rightCount := total_map number small parts sums fitsRight
    simp only [mergeAll, mergeAll_snd, ihLeft fitsLeft, ihRight fitsRight]
    rw [same _ (by rw [leftCount, rightCount]; exact fits), leftCount, rightCount]

end Numbers

end SymbolTree

end H618Vpu.Spec
