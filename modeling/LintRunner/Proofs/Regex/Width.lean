import Mathlib.Data.List.Forall2
import LintRunner.Proofs.Regex.Fragment

/-!
# Widths

How wide a pattern is does not depend on how the reader has merged its alternatives
(`width_piecesOfBranches`): it is the least and the greatest width of the alternatives.
-/

set_option autoImplicit false

namespace LintRunner.Regex

/-! ## Sums and hulls -/

def joined (v w : Nat × Nat) : Nat × Nat := (v.1 + w.1, v.2 + w.2)

def hull : List (Nat × Nat) → Nat × Nat
  | [] => (0, 0)
  | [w] => w
  | w :: ws => (min w.1 (hull ws).1, max w.2 (hull ws).2)

theorem joined_assoc (u v w : Nat × Nat) : joined (joined u v) w = joined u (joined v w) := by
  simp only [joined, Nat.add_assoc]

theorem hull_map_joined (v : Nat × Nat) {ws : List (Nat × Nat)} (h : ws ≠ []) :
    hull (ws.map (joined v)) = joined v (hull ws) := by
  fun_induction hull ws with
  | case1 => exact absurd rfl h
  | case2 w => rfl
  | case3 w ws hws ih =>
      obtain ⟨w', ws', rfl⟩ := List.exists_cons_of_ne_nil hws
      have hlater := ih (List.cons_ne_nil w' ws')
      rw [List.map_cons] at hlater
      rw [List.map_cons, List.map_cons, hull, hlater]
      · simp only [joined, Nat.add_min_add_left, Nat.add_max_add_left]
      · exact List.cons_ne_nil _ _

theorem hull_of_forall_eq {v : Nat × Nat} {ws : List (Nat × Nat)} (hne : ws ≠ [])
    (h : ∀ w ∈ ws, w = v) : hull ws = v := by
  fun_induction hull ws with
  | case1 => exact absurd rfl hne
  | case2 w => exact h w (List.mem_singleton_self w)
  | case3 w ws hws ih =>
      rw [List.forall_mem_cons] at h
      rw [h.1, ih hws h.2, Nat.min_self, Nat.max_self]

/-! ## Sequences and alternatives -/

section

variable (groups : List (Nat × Nat × Nat))

def piecesWidth (pieces : List Piece) : Nat × Nat := (nodeOfPieces pieces).width groups

theorem piecesWidth_cons (piece : Piece) (pieces : List Piece) :
    piecesWidth groups (piece :: pieces) =
      joined (piece.node.width groups) (piecesWidth groups pieces) := rfl

theorem piecesWidth_append (a b : List Piece) :
    piecesWidth groups (a ++ b) = joined (piecesWidth groups a) (piecesWidth groups b) := by
  induction a with
  | nil =>
      show _ = (0 + _, 0 + _)
      rw [Nat.zero_add, Nat.zero_add]
      rfl
  | cons piece a ih => rw [List.cons_append, piecesWidth_cons, ih, piecesWidth_cons, joined_assoc]

theorem piecesWidth_singleton (piece : Piece) :
    piecesWidth groups [piece] = piece.node.width groups := rfl

theorem width_ofAlternatives (nodes : List Node) :
    (Node.ofAlternatives nodes).width groups = hull (nodes.map (Node.width groups)) := by
  fun_induction Node.ofAlternatives nodes with
  | case1 => rfl
  | case2 node => rfl
  | case3 node rest hrest ih =>
      obtain ⟨other, rest, rfl⟩ := List.exists_cons_of_ne_nil hrest
      rw [Node.width, ih]
      rfl

/-- Heads that are taken out of all alternatives are as wide as what they leave behind is narrower. -/
theorem width_factorHeads (n : Nat) (branches : List (List Piece)) :
    branches.map (piecesWidth groups) = ((factorHeads n branches).2.map (piecesWidth groups)).map
      (joined (piecesWidth groups (factorHeads n branches).1)) := by
  have hnone : ∀ branches : List (List Piece), branches.map (piecesWidth groups)
      = (branches.map (piecesWidth groups)).map (joined (piecesWidth groups [])) := by
    intro branches
    have hzero : joined (piecesWidth groups []) = id := by
      funext w
      show (0 + _, 0 + _) = _
      rw [Nat.zero_add, Nat.zero_add]
      rfl
    rw [hzero, List.map_id]
  induction n generalizing branches with
  | zero => exact hnone branches
  | succ n ih =>
      rw [factorHeads]
      cases hhead : commonHead? branches with
      | none => exact hnone branches
      | some head =>
          have htails : branches.map (piecesWidth groups)
              = ((branches.map List.tail).map (piecesWidth groups)).map
                (joined (head.node.width groups)) := by
            rw [List.map_map, List.map_map]
            refine List.map_congr_left fun branch hbranch => ?_
            rw [(commonHead?_eq_some hhead).2.2 branch hbranch]
            rfl
          -- the head that is taken out now comes in front of those that are taken out later
          have hjoined : ∀ u v : Nat × Nat, joined u ∘ joined v = joined (joined u v) :=
            fun u v => funext fun w => (joined_assoc u v w).symm
          rw [htails, ih (branches.map List.tail), List.map_map, hjoined]
          rfl

/-- Alternatives that are merged into a set take one character each. -/
theorem width_of_mergeSets? {branches : List (List Piece)} {found : List Member × CaseRule}
    (h : mergeSets? branches = some found) :
    branches ≠ [] ∧ ∀ branch ∈ branches, piecesWidth groups branch = (1, 1) := by
  have hone : ∀ {branch : List Piece} {found : List Member × CaseRule},
      membersOf? branch = some found → piecesWidth groups branch = (1, 1) := by
    intro branch found h
    rw [membersOf?.eq_def] at h
    split at h
    · rfl
    · rfl
    · cases h
  fun_induction mergeSets? branches generalizing found with
  | case1 => cases h
  | case2 branch => exact ⟨List.cons_ne_nil _ _, List.forall_mem_singleton.mpr (hone h)⟩
  | case3 branch rest hrest ih =>
      obtain ⟨⟨members, rule⟩, hfirst, h⟩ := Option.bind_eq_some_iff.mp h
      obtain ⟨others, hothers, -⟩ := Option.bind_eq_some_iff.mp h
      exact ⟨List.cons_ne_nil _ _, List.forall_mem_cons.mpr ⟨hone hfirst, (ih hothers).2⟩⟩

/-- **The width of alternatives is the hull of their widths**, however they are merged. -/
theorem width_piecesOfBranches (branches : List (List Piece)) :
    piecesWidth groups (piecesOfBranches branches) = hull (branches.map (piecesWidth groups)) := by
  rw [piecesOfBranches.eq_def]
  split
  · rfl
  · rfl
  · rename_i hnil hsingle
    have hfactored := width_factorHeads groups ((branches.map List.length).foldl max 0) branches
    -- no alternative gets lost when heads are taken out
    have hrest : (factorHeads ((branches.map List.length).foldl max 0) branches).2 ≠ [] := by
      intro hrest
      rw [hrest] at hfactored
      exact hnil (List.map_eq_nil_iff.mp hfactored)
    simp only
    rw [hfactored, hull_map_joined _ (by simpa using hrest)]
    split
    · rename_i hmerged
      obtain ⟨-, hwidths⟩ := width_of_mergeSets? groups hmerged
      rw [piecesWidth_append, hull_of_forall_eq (by simpa using hrest) (List.forall_mem_map.mpr hwidths)]
      rfl
    · rw [piecesWidth_append, piecesWidth_singleton, width_ofAlternatives, List.map_map]
      rfl

end

end LintRunner.Regex
