import Mathlib

/-! # Ledgers of acquired and released resources

A procedure that acquires resources one after the other has to release them again when a later step fails. A ledger
records both; it holds the resources that were acquired and not released, when each was acquired once and each release
is of a resource that was held.
-/

namespace H618Vpu.Machine

/-- What was acquired and what was released, the latest first. -/
structure Ledger (ρ : Type*) where
  acquired : List ρ := []
  released : List ρ := []

namespace Ledger

variable {ρ : Type*}

def acquire (ledger : Ledger ρ) (resource : ρ) : Ledger ρ := { ledger with acquired := resource :: ledger.acquired }

def release (ledger : Ledger ρ) (resources : List ρ) : Ledger ρ :=
  { ledger with released := resources ++ ledger.released }

/-- Every resource was acquired once, and either is one of these or was released once. -/
structure Holds (ledger : Ledger ρ) (held : List ρ) : Prop where
  once : ledger.acquired.Nodup
  split : ledger.acquired.Perm (held ++ ledger.released)

/-- These resources are held, and nothing was released so far. -/
def Owns (ledger : Ledger ρ) (held : List ρ) : Prop := ledger.Holds held ∧ ledger.released = []

variable {ledger : Ledger ρ} {held other : List ρ}

namespace Holds

theorem release {resources : List ρ} (holds : ledger.Holds (resources ++ held)) :
    (ledger.release resources).Holds held := by
  refine ⟨holds.once, holds.split.trans ?_⟩
  rw [List.append_assoc]
  exact List.perm_append_comm_assoc ..

/-- A ledger determines what it holds. -/
theorem unique (holds : ledger.Holds held) (holds' : ledger.Holds other) : held.Perm other :=
  (List.perm_append_right_iff _).mp (holds.split.symm.trans holds'.split)

end Holds

namespace Owns

theorem empty : ({} : Ledger ρ).Owns [] := ⟨⟨.nil, .nil⟩, rfl⟩

theorem acquire (owns : ledger.Owns held) {resource : ρ} (fresh : resource ∉ held) :
    (ledger.acquire resource).Owns (resource :: held) := by
  obtain ⟨holds, none⟩ := owns
  have split := holds.split
  rw [none, List.append_nil] at split
  refine ⟨⟨List.nodup_cons.mpr ⟨mt split.mem_iff.mp fresh, holds.once⟩, ?_⟩, none⟩
  exact holds.split.cons resource

theorem perm (owns : ledger.Owns held) (same : held.Perm other) : ledger.Owns other :=
  ⟨⟨owns.1.once, owns.1.split.trans (same.append_right _)⟩, owns.2⟩

end Owns

end Ledger

end H618Vpu.Machine
