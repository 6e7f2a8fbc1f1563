import Mathlib

/-! # Searching a list

What `find?` finds is what `eraseP` takes away, and in a list whose members exclude each other a search for a
member finds it.
-/

namespace H618Vpu.Math

variable {α : Type*} {p : α → Bool} {list : List α} {a : α}

/-- What is found stands somewhere, and erasing closes the gap. -/
theorem split_of_find_eq_some (found : list.find? p = some a) :
    ∃ before after, list = before ++ a :: after ∧ list.eraseP p = before ++ after := by
  obtain ⟨holds, before, after, split, earlier⟩ := List.find?_eq_some_iff_append.mp found
  have away : ∀ b ∈ before, ¬ p b := fun b member => by simpa using earlier b member
  refine ⟨before, after, split, ?_⟩
  rw [split, List.eraseP_append_right _ away, List.eraseP_cons_of_pos holds]

/-- What is found is what is erased. -/
theorem perm_of_find_eq_some (found : list.find? p = some a) : list.Perm (a :: list.eraseP p) := by
  obtain ⟨before, after, split, erased⟩ := split_of_find_eq_some found
  rw [erased, split]
  exact List.perm_middle

/-- In a list of things that exclude each other, the one that is in the list is the one that is found. -/
theorem find_eq_some_of_pairwise {R : α → α → Prop} [Std.Symm R] (pairwise : list.Pairwise R)
    (excludes : ∀ one other, R one other → p one → ¬ p other) (member : a ∈ list) (holds : p a) :
    list.find? p = some a := by
  cases found : list.find? p with
  | none => exact absurd holds (List.find?_eq_none.mp found a member)
  | some other =>
    by_contra different
    have apart : R other a := pairwise.forall (List.mem_of_find?_eq_some found) member fun same =>
      different (congrArg some same)
    exact excludes other a apart (List.find?_some found) holds

end H618Vpu.Math
