import Mathlib

/-! # Memory behind a data port

A device hides a memory behind two registers: one sets the address, each write to the other stores a word and steps on
to the next. What several bursts leave there can be read off the bursts when they lie apart, in any order.
-/

namespace H618Vpu.Machine

/-- A write to a register of the port. -/
inductive PortWrite (α : Type*) where
  | offset (address : ℕ)
  | data (value : α)

/-- Where the port stands, and the words behind it; a word takes four addresses. -/
structure Port (α : Type*) where
  offset : ℕ
  word : ℕ → α

/-- Words for consecutive places. -/
structure Burst (α : Type*) where
  address : ℕ
  values : List α

namespace Burst

variable {α : Type*}

def writes (burst : Burst α) : List (PortWrite α) := .offset burst.address :: burst.values.map .data

def stop (burst : Burst α) : ℕ := burst.address + 4 * burst.values.length

/-- No address is written by both. -/
def Apart (first second : Burst α) : Prop := first.stop ≤ second.address ∨ second.stop ≤ first.address

/-- The burst stays below an end, from a start on. -/
def Inside (burst : Burst α) (start stop : ℕ) : Prop := start ≤ burst.address ∧ burst.stop ≤ stop

theorem Inside.apart {first second : Burst α} {start stop start' stop' : ℕ} (inside : first.Inside start stop)
    (inside' : second.Inside start' stop') (aside : stop ≤ start' ∨ stop' ≤ start) : first.Apart second :=
  aside.imp (fun before => inside.2.trans (before.trans inside'.1)) fun behind =>
    inside'.2.trans (behind.trans inside.1)

end Burst

namespace Port

variable {α : Type*} (port : Port α)

def write (port : Port α) : PortWrite α → Port α
  | .offset address => { port with offset := address }
  | .data value => { offset := port.offset + 4, word := Function.update port.word port.offset value }

def after (writes : List (PortWrite α)) : Port α := writes.foldl write port

theorem after_append (first second : List (PortWrite α)) :
    port.after (first ++ second) = (port.after first).after second := List.foldl_append ..

/-- Data goes to the places from where the port stands on, and to no other. -/
theorem after_data (values : List α) :
    (∀ address, address < port.offset ∨ port.offset + 4 * values.length ≤ address →
      (port.after (values.map .data)).word address = port.word address) ∧
      ∀ index value, values[index]? = some value →
        (port.after (values.map .data)).word (port.offset + 4 * index) = value := by
  induction values generalizing port with
  | nil => exact ⟨fun _ _ => rfl, fun _ _ none => nomatch none⟩
  | cons first rest ih =>
    obtain ⟨frame, written⟩ := ih (port.write (.data first))
    have kept : ∀ address, address ≠ port.offset →
        (port.write (.data first)).word address = port.word address := fun address other =>
      Function.update_of_ne other ..
    constructor
    · intro address outside
      rw [List.length_cons] at outside
      refine (frame address ?_).trans (kept address (by omega))
      change address < port.offset + 4 ∨ port.offset + 4 + 4 * rest.length ≤ address
      omega
    · intro index value found
      cases index with
      | zero =>
        obtain rfl := Option.some.inj found
        exact (frame port.offset (Or.inl (Nat.lt_add_of_pos_right (by decide)))).trans (Function.update_self ..)
      | succ index =>
        have later := written index value found
        rwa [show port.offset + 4 * (index + 1) = port.offset + 4 + 4 * index by omega]

theorem after_burst_frame (burst : Burst α) {address : ℕ} (outside : address < burst.address ∨ burst.stop ≤ address) :
    (port.after burst.writes).word address = port.word address :=
  ((port.write (.offset burst.address)).after_data burst.values).1 address outside

theorem after_burst_written (burst : Burst α) {index : ℕ} {value : α} (found : burst.values[index]? = some value) :
    (port.after burst.writes).word (burst.address + 4 * index) = value :=
  ((port.write (.offset burst.address)).after_data burst.values).2 index value found

/-- An address outside all bursts keeps its word. -/
theorem after_bursts_frame (bursts : List (Burst α)) {address : ℕ}
    (outside : ∀ burst ∈ bursts, address < burst.address ∨ burst.stop ≤ address) :
    (port.after (bursts.flatMap Burst.writes)).word address = port.word address := by
  induction bursts generalizing port with
  | nil => rfl
  | cons burst rest ih =>
    rw [List.flatMap_cons, after_append, ih _ fun later member => outside later (List.mem_cons_of_mem _ member),
      after_burst_frame _ burst (outside burst List.mem_cons_self)]

/-- After bursts that lie apart, each word is where its burst put it. -/
theorem after_bursts_written {bursts : List (Burst α)} (apart : bursts.Pairwise Burst.Apart) {burst : Burst α}
    (member : burst ∈ bursts) {index : ℕ} {value : α} (found : burst.values[index]? = some value) :
    (port.after (bursts.flatMap Burst.writes)).word (burst.address + 4 * index) = value := by
  induction bursts generalizing port with
  | nil => cases member
  | cons first rest ih =>
    obtain ⟨aside, apart⟩ := List.pairwise_cons.mp apart
    rw [List.flatMap_cons, after_append]
    rcases List.mem_cons.mp member with rfl | later
    · rw [after_bursts_frame, after_burst_written _ burst found]
      intro other member
      have inside : index < burst.values.length := (List.getElem?_eq_some_iff.mp found).1
      rcases aside other member with before | behind
      · simp only [Burst.stop] at before
        omega
      · omega
    · exact ih _ apart later

end Port

end H618Vpu.Machine
