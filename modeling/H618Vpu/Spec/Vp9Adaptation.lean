import H618Vpu.Spec.SymbolTree
import H618Vpu.Spec.Vp9Process

/-! # Adaptation of the VP9 probabilities to the symbols of a frame

The processes merge_prob and merge_probs on natural numbers, and the trees they walk. A symbol is its number in the
syntax, an index its place in the table of probabilities.
-/

namespace H618Vpu.Spec.Vp9

/-- `Round2` -/
def round2 (x n : ℕ) : ℕ := (x + 2 ^ n / 2) / 2 ^ n

/-- `merge_prob` -/
def mergeProb (preProb ct0 ct1 countSat maxUpdateFactor : ℕ) : ℕ :=
  let den := ct0 + ct1
  let prob := if den = 0 then 128 else max 1 (min 255 ((ct0 * 256 + den / 2) / den))
  let count := min den countSat
  let factor := maxUpdateFactor * count / countSat
  round2 (preProb * (256 - factor) + prob * factor) 8

/-- `merge_probs` for the coefficients saturates after 24 symbols, for the other tables after 20. -/
def coefCountSat : ℕ := 24

def modeMvCountSat : ℕ := 20

def modeMvMaxUpdateFactor : ℕ := 128

open SymbolTree

-- Named here so that an index literal is the same term in every module.
local instance neZeroThree : NeZero 3 := ⟨by decide⟩

local instance neZeroNine : NeZero 9 := ⟨by decide⟩

local instance neZeroTen : NeZero 10 := ⟨by decide⟩

local instance neZeroEleven : NeZero 11 := ⟨by decide⟩

section Trees

variable {σ ν : Type}

/-- A tree that splits off one symbol at a time. -/
def chain (index : ν) (first : σ) (rest : SymbolTree σ ν) : SymbolTree σ ν := branch index (leaf first) rest

/-- The last two symbols of a tree. -/
def pair (index : ν) (left right : σ) : SymbolTree σ ν := branch index (leaf left) (leaf right)

end Trees

/-- `binary_tree` and `tx_size_8_tree`, at any place of the table -/
def binaryTree {ν : Type} (index : ν) : SymbolTree (Fin 2) ν := pair index 0 1

/-- `binary_tree` for `more_coefs`, in the table of a coefficient. -/
def moreCoefsTree : SymbolTree (Fin 2) (Fin 3) := binaryTree 0

/-- `small_token_tree` from its second branch on -/
def smallTokenTree : SymbolTree (Fin 3) (Fin 3) := chain 1 0 (pair 2 1 2)

/-- `inter_mode_tree`: nearest, near, zero and new in this order. -/
def interModeTree : SymbolTree (Fin 4) (Fin 3) := chain 0 2 (chain 1 0 (pair 2 1 3))

/-- `intra_mode_tree`: DC, vertical and horizontal, the angles 45, 135, 117, 153, 207 and 63, and true motion. -/
def intraModeTree : SymbolTree (Fin 10) (Fin 9) :=
  chain 0 0 (chain 1 9 (chain 2 1
    (branch 3 (chain 4 2 (pair 5 4 5)) (chain 6 3 (chain 7 8 (pair 8 6 7))))))

/-- `partition_tree`, `tx_size_32_tree`, `mv_joint_tree` and `mv_fr_tree` -/
def fourWayTree : SymbolTree (Fin 4) (Fin 3) := chain 0 0 (chain 1 1 (pair 2 2 3))

/-- `interp_filter_tree` and `tx_size_16_tree` -/
def threeWayTree : SymbolTree (Fin 3) (Fin 2) := chain 0 0 (pair 1 1 2)

/-- `mv_class_tree` -/
def mvClassTree : SymbolTree (Fin 11) (Fin 10) :=
  chain 0 0 (chain 1 1 (branch 2 (pair 3 2 3)
    (branch 4 (pair 5 4 5) (chain 6 6 (branch 7 (pair 8 7 8) (pair 9 9 10))))))

end H618Vpu.Spec.Vp9
