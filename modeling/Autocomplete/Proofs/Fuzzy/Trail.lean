import Autocomplete.Fuzzy.Alignment
import Mathlib.Data.List.Basic

namespace Autocomplete.Fuzzy

def IsTrail (columns : List Column) : (pattern : List (List Char)) → List Nat → Prop
  | [], [] => True
  | p :: earlier, j :: before =>
    columns[j]?.map Column.folded = some p ∧ (∀ k ∈ before.head?, k < j) ∧
      IsTrail columns earlier before
  | _, _ => False

def trailScore (columns : List Column) : List Nat → Int
  | [] => 0
  | [j] => headScore columns j
  | j :: k :: before => linkScore columns k j + trailScore columns (k :: before)

theorem isTrail_iff {columns : List Column} {pattern : List (List Char)} {trail : List Nat} :
    IsTrail columns pattern trail ↔
      trail.Pairwise (· > ·) ∧
        trail.map (fun j => columns[j]?.map Column.folded) = pattern.map some := by
  induction trail generalizing pattern with
  | nil => cases pattern <;> simp [IsTrail]
  | cons j before ih =>
      cases pattern with
      | nil => simp [IsTrail]
      | cons p earlier =>
          rw [IsTrail, ih, List.pairwise_cons, List.map_cons, List.map_cons, List.cons.injEq]
          constructor
          · rintro ⟨here, below, decreasing, spelled⟩
            refine ⟨⟨?_, decreasing⟩, here, spelled⟩
            intro k member
            cases before with
            | nil => cases member
            | cons first rest =>
                have lower : first < j := below first rfl
                rcases List.mem_cons.1 member with rfl | inside
                · exact lower
                · exact Nat.lt_trans ((List.pairwise_cons.1 decreasing).1 k inside) lower
          · rintro ⟨⟨above, decreasing⟩, here, spelled⟩
            exact ⟨here, fun k first => above k (List.mem_of_mem_head? first), decreasing, spelled⟩

theorem isTrail_reverse {columns : List Column} {pattern : List (List Char)}
    {positions : List Nat} :
    IsTrail columns pattern.reverse positions.reverse ↔ IsAlignment columns pattern positions := by
  rw [isTrail_iff, IsAlignment, List.pairwise_reverse, List.map_reverse, List.map_reverse,
    List.reverse_inj]

theorem tailScore_concat (columns : List Column) (i : Nat) (positions : List Nat) (k j : Nat) :
    tailScore columns i (positions ++ [k, j]) =
      linkScore columns k j + tailScore columns i (positions ++ [k]) := by
  induction positions generalizing i with
  | nil =>
      simp only [List.nil_append, tailScore]
      omega
  | cons first rest ih =>
      simp only [List.cons_append, tailScore, ih first]
      omega

theorem alignmentScore_concat (columns : List Column) (positions : List Nat) (k j : Nat) :
    alignmentScore columns (positions ++ [k, j]) =
      linkScore columns k j + alignmentScore columns (positions ++ [k]) := by
  cases positions with
  | nil =>
      simp only [List.nil_append, alignmentScore, tailScore]
      omega
  | cons first rest =>
      simp only [List.cons_append, alignmentScore, tailScore_concat]
      omega

theorem alignmentScore_reverse (columns : List Column) (trail : List Nat) :
    alignmentScore columns trail.reverse = trailScore columns trail := by
  induction trail with
  | nil => rfl
  | cons j before ih =>
      cases before with
      | nil => simp [alignmentScore, tailScore, trailScore]
      | cons k before =>
          have split : (j :: k :: before).reverse = before.reverse ++ [k, j] := by simp
          rw [split, alignmentScore_concat, trailScore, ← ih, List.reverse_cons]

end Autocomplete.Fuzzy
