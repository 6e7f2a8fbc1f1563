import Mathlib

/-! # Programs that read a store while others write it

A program that only reads is a tree: it reads a word and goes on as the value tells it. Between two reads the store may
change, so a path through the tree need not belong to any one store. What is the same on every path is a property of
the tree, and follows its structure: the words that are always read, and those that are read only after another one.
While the store stays, the path is the list of its reads, and it depends on no more of the store than the tree does.
-/

namespace H618Vpu.Machine

/-- A program over the words `ω` of a store `σ`; the answer to a read is the store as it is then. -/
inductive Reading (ω σ α : Type) where
  | done (result : α)
  | failed
  | read (word : ω) (next : σ → Reading ω σ α)

namespace Reading

variable {ω σ α β : Type}

def bind : Reading ω σ α → (α → Reading ω σ β) → Reading ω σ β
  | .done result, next => next result
  | .failed, _ => .failed
  | .read word first, next => .read word fun seen => (first seen).bind next

instance : Monad (Reading ω σ) where
  pure := .done
  bind := bind

/-- Read a word for a value. -/
def get (word : ω) (value : σ → α) : Reading ω σ α := .read word fun seen => .done (value seen)

/-- Read words whose values do not matter for what is read. -/
def skip : List ω → Reading ω σ Unit
  | [] => .done ()
  | word :: rest => .read word fun _ => skip rest

/-- `first || second`, where the second operand is read only if the first one is false. -/
def or (first second : Reading ω σ Bool) : Reading ω σ Bool := do
  if ← first then return true else second

/-- `first && second`. -/
def and (first second : Reading ω σ Bool) : Reading ω σ Bool := do
  if ← first then second else return false

/-- The words that are read while the store stays. -/
def reads : Reading ω σ α → σ → List ω
  | .done _, _ => []
  | .failed, _ => []
  | .read word next, store => word :: (next store).reads store

/-- What comes out while the store stays. -/
def outcome : Reading ω σ α → σ → Option α
  | .done result, _ => some result
  | .failed, _ => none
  | .read _ next, store => (next store).outcome store

/-- A word is read on every path to a result, as long as each read sees an allowed store. -/
def Always (allowed : ω → σ → Prop) (word : ω) : Reading ω σ α → Prop
  | .done _ => False
  | .failed => True
  | .read first next => first = word ∨ ∀ seen, allowed first seen → (next seen).Always allowed word

/-- No late word is read before the given one. -/
def Behind (word : ω) (late : ω → Prop) : Reading ω σ α → Prop
  | .done _ | .failed => True
  | .read first next => first = word ∨ ¬ late first ∧ ∀ seen, (next seen).Behind word late

/-- Each read tells the program no more of the store than `same` compares. -/
def DependsOn (same : σ → σ → ω → Prop) : Reading ω σ α → Prop
  | .done _ | .failed => True
  | .read word next => (∀ a b, same a b word → next a = next b) ∧ ∀ seen, (next seen).DependsOn same

section Reads

variable (store : σ)

@[simp] theorem reads_pure (result : α) : (pure result : Reading ω σ α).reads store = [] := rfl

@[simp] theorem reads_get (word : ω) (value : σ → α) : (get word value).reads store = [word] := rfl

@[simp] theorem reads_skip (words : List ω) : (skip words : Reading ω σ Unit).reads store = words := by
  induction words with
  | nil => rfl
  | cons word rest ih => exact congrArg (word :: ·) ih

@[simp] theorem outcome_pure (result : α) : (pure result : Reading ω σ α).outcome store = some result := rfl

@[simp] theorem outcome_get (word : ω) (value : σ → α) : (get word value).outcome store = some (value store) := rfl

@[simp] theorem outcome_skip (words : List ω) : (skip words : Reading ω σ Unit).outcome store = some () := by
  induction words with
  | nil => rfl
  | cons word rest ih => exact ih

/-- A branch of reads without an alternative. -/
@[simp] theorem reads_if_skip (condition : Prop) [Decidable condition] (words : List ω) :
    (if condition then skip words else pure () : Reading ω σ Unit).reads store = if condition then words else [] := by
  split <;> simp

@[simp] theorem outcome_if_skip (condition : Prop) [Decidable condition] (words : List ω) :
    (if condition then skip words else pure () : Reading ω σ Unit).outcome store = some () := by
  split <;> simp

/-- The reads of a sequence are those of its first part, and of the second part as the first one ends. -/
@[simp] theorem reads_bind (first : Reading ω σ α) (next : α → Reading ω σ β) :
    (first >>= next).reads store =
      first.reads store ++ (first.outcome store).elim [] fun result => (next result).reads store := by
  induction first with
  | done result => rfl
  | failed => rfl
  | read word first ih => exact congrArg (word :: ·) (ih store)

@[simp] theorem outcome_bind (first : Reading ω σ α) (next : α → Reading ω σ β) :
    (first >>= next).outcome store = (first.outcome store).bind fun result => (next result).outcome store := by
  induction first with
  | done result => rfl
  | failed => rfl
  | read word first ih => exact ih store

end Reads

section Always

variable {allowed : ω → σ → Prop} {word : ω} {first : Reading ω σ α} {next : α → Reading ω σ β}

theorem Always.get (value : σ → α) : (get word value).Always allowed word := .inl rfl

theorem Always.skip {words : List ω} (member : word ∈ words) :
    (skip words : Reading ω σ Unit).Always allowed word := by
  induction words with
  | nil => cases member
  | cons head rest ih =>
    rcases List.mem_cons.mp member with rfl | member
    · exact .inl rfl
    · exact .inr fun _ _ => ih member

/-- A word the first part reads is read. -/
theorem Always.left (reads : first.Always allowed word) : (first >>= next).Always allowed word := by
  induction first with
  | done result => exact absurd reads id
  | failed => trivial
  | read head first ih => exact reads.imp_right fun reads seen fits => ih seen (reads seen fits)

/-- A word every second part reads is read. -/
theorem Always.right (reads : ∀ result, (next result).Always allowed word) :
    (first >>= next).Always allowed word := by
  induction first with
  | done result => exact reads result
  | failed => trivial
  | read head first ih => exact .inr fun seen _ => ih seen

/-- A word that is read after every allowed answer is read. -/
theorem Always.later {head : ω} {next : σ → Reading ω σ α}
    (reads : ∀ seen, allowed head seen → (next seen).Always allowed word) : (read head next).Always allowed word :=
  .inr reads

/-- The second part is told an allowed value. -/
theorem Always.after {head : ω} {value : σ → α}
    (reads : ∀ seen, allowed head seen → (next (value seen)).Always allowed word) :
    (Reading.get head value >>= next).Always allowed word := .inr reads

end Always

section DependsOn

variable {same : σ → σ → ω → Prop}

theorem DependsOn.get {word : ω} {value : σ → α} (told : ∀ a b, same a b word → value a = value b) :
    (get word value).DependsOn same :=
  ⟨fun a b agree => congrArg Reading.done (told a b agree), fun _ => trivial⟩

theorem DependsOn.skip (words : List ω) : (skip words : Reading ω σ Unit).DependsOn same := by
  induction words with
  | nil => trivial
  | cons word rest ih => exact ⟨fun _ _ _ => rfl, fun _ => ih⟩

theorem DependsOn.bind {first : Reading ω σ α} {next : α → Reading ω σ β} (depends : first.DependsOn same)
    (later : ∀ result, (next result).DependsOn same) : (first >>= next).DependsOn same := by
  induction first with
  | done result => exact later result
  | failed => trivial
  | read word first ih =>
    exact ⟨fun a b agree => congrArg (Reading.bind · next) (depends.1 a b agree), fun seen => ih seen (depends.2 seen)⟩

/-- Stores that agree on the words read from one of them are read alike. -/
theorem DependsOn.reads_eq {program : Reading ω σ α} (depends : program.DependsOn same) {a b : σ}
    (agree : ∀ word ∈ program.reads a, same a b word) : program.reads b = program.reads a := by
  induction program with
  | done result => rfl
  | failed => rfl
  | read word next ih =>
    have told : next a = next b := depends.1 a b (agree word List.mem_cons_self)
    have later := ih a (depends.2 a) fun other member => agree other (List.mem_cons_of_mem _ member)
    change word :: (next b).reads b = word :: (next a).reads a
    rw [← told, later]

end DependsOn

end Reading

end H618Vpu.Machine
