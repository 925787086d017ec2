import Autocomplete.Proofs.Fuzzy.Bounds
import Autocomplete.Proofs.Fuzzy.Ties
import Autocomplete.Proofs.Ranking

namespace Autocomplete.Fuzzy

def AtBoundary (cs : List Char) (i : Nat) : Prop :=
  i = 0 ∨ (∃ c, cs[i]? = some c ∧ isAlphanumeric c = false) ∨
    ∃ c, cs[i - 1]? = some c ∧ isAlphanumeric c = false

theorem bonusOf_of_atBoundary {cs : List Char} {i : Nat} (boundary : AtBoundary cs i)
    (within : i < cs.length) : bonusOf (columns cs) i = 8 := by
  have here := List.getElem?_eq_getElem within
  rw [columns, bonus_columnsAfter here]
  rcases boundary with rfl | ⟨c, there, separator⟩ | ⟨before, there, separator⟩
  · unfold bonus
    split <;> rfl
  · obtain rfl := Option.some.inj (here.symm.trans there)
    simp [bonus, separator, separatorBonus]
  · unfold bonus
    split
    · split
      · rfl
      · next first =>
        split at first
        · cases first
        · obtain rfl := Option.some.inj (there.symm.trans first)
          simp [separator, boundaryBonus]
    · rfl

section Inside

variable {part whole : List Char} {shift : Nat} (occurs : Text.IsFirstOccurrence part whole shift)
include occurs

theorem bonusOf_inside {i : Nat} (inside : i < part.length) (later : i ≠ 0) :
    bonusOf (columns whole) (i + shift) = bonusOf (columns part) i := by
  have here := List.getElem?_eq_getElem inside
  have there := (occurs.getElem? inside).trans here
  have before : whole[i - 1 + shift]? = part[i - 1]? := occurs.getElem? (by omega)
  rw [columns, columns, bonus_columnsAfter here, bonus_columnsAfter there, if_neg later,
    if_neg (by omega), ← before, Nat.sub_add_comm (by omega)]

theorem linkScore_inside {k j : Nat} (above : k < j) (inside : j < part.length) :
    linkScore (columns whole) (k + shift) (j + shift) = linkScore (columns part) k j := by
  have next : j + shift = k + shift + 1 ↔ j = k + 1 := by omega
  have gap : ((j + shift : Nat) : Int) - (k + shift : Nat) = j - k := by omega
  rw [linkScore, linkScore, bonusOf_inside occurs inside (by omega), gap]
  simp only [next]

theorem tailScore_inside {k : Nat} {positions : List Nat}
    (increasing : (k :: positions).Pairwise (· < ·)) (inside : ∀ j ∈ positions, j < part.length) :
    tailScore (columns whole) (k + shift) (positions.map (· + shift)) =
      tailScore (columns part) k positions := by
  induction positions generalizing k with
  | nil => rfl
  | cons j rest ih =>
      obtain ⟨above, increasing⟩ := List.pairwise_cons.1 increasing
      rw [List.forall_mem_cons] at inside
      rw [List.map_cons, tailScore, tailScore, ih increasing inside.2,
        linkScore_inside occurs (above j List.mem_cons_self) inside.1]

theorem headScore_inside (j : Nat) (inside : j < part.length) :
    headScore (columns part) j - 16 ≤ headScore (columns whole) (j + shift) := by
  unfold headScore
  by_cases first : j = 0
  · have upper := bonusOf_le part j
    have lower := bonusOf_nonneg whole (j + shift)
    omega
  · rw [bonusOf_inside occurs inside first]
    omega

theorem headScore_inside_of_atBoundary (boundary : AtBoundary whole shift) (j : Nat)
    (inside : j < part.length) :
    headScore (columns part) j ≤ headScore (columns whole) (j + shift) := by
  unfold headScore
  by_cases first : j = 0
  · subst first
    have within : shift < whole.length := by
      have there := (occurs.getElem? inside).trans (List.getElem?_eq_getElem inside)
      rw [Nat.zero_add] at there
      exact (List.getElem?_eq_some_iff.1 there).1
    have upper := bonusOf_le part 0
    rw [Nat.zero_add, bonusOf_of_atBoundary boundary within]
    omega
  · rw [bonusOf_inside occurs inside first]

theorem alignmentScore_inside {positions : List Nat} (increasing : positions.Pairwise (· < ·))
    (inside : ∀ j ∈ positions, j < part.length) :
    alignmentScore (columns part) positions - 16 ≤
        alignmentScore (columns whole) (positions.map (· + shift)) ∧
      (AtBoundary whole shift → alignmentScore (columns part) positions ≤
        alignmentScore (columns whole) (positions.map (· + shift))) := by
  cases positions with
  | nil => exact ⟨Int.sub_le_self 0 (by decide), fun _ => Int.le_refl 0⟩
  | cons j rest =>
      rw [List.forall_mem_cons] at inside
      have head := headScore_inside occurs j inside.1
      rw [List.map_cons, alignmentScore, alignmentScore, tailScore_inside occurs increasing inside.2]
      refine ⟨by omega, fun boundary => ?_⟩
      have head := headScore_inside_of_atBoundary occurs boundary j inside.1
      omega

end Inside

theorem Spells.shifted {part whole pattern : String} {shift : Nat} {positions : List Nat}
    (spells : Spells part pattern positions)
    (occurs : Text.IsFirstOccurrence part.toList whole.toList shift) :
    Spells whole pattern (positions.map (· + shift)) := by
  refine ⟨?_, ?_⟩
  · rw [List.pairwise_map]
    exact spells.1.imp fun smaller => Nat.add_lt_add_right smaller shift
  · rw [← spells.2, List.map_map]
    apply List.map_congr_left
    intro j member
    have inside : j < part.toList.length := by
      rw [String.length_toList]
      exact spells.lt member
    exact congrArg (Option.map Text.lowercase) (occurs.getElem? inside)

/-- What matches a part matches the whole, at worst for 16 less. -/
theorem exists_align?_inside {part whole pattern : String} {shift : Nat} {alignment : Alignment}
    (occurs : Text.IsFirstOccurrence part.toList whole.toList shift)
    (found : align? part pattern = some alignment) :
    ∃ outer, align? whole pattern = some outer ∧ alignment.score - 16 ≤ outer.score ∧
      (AtBoundary whole.toList shift → alignment.score ≤ outer.score) := by
  have spells := spells_of_align? found
  have shifted := spells.shifted occurs
  obtain ⟨outer, found'⟩ := exists_align?_of_spells shifted
  obtain ⟨_, score⟩ := alignFolded?_attained found
  have best := alignFolded?_bound found' (isAlignment_columns.2 shifted)
  obtain ⟨lower, even⟩ := alignmentScore_inside occurs spells.1 fun _ => spells.lt
  rw [score] at lower even
  exact ⟨outer, found', Int.le_trans lower best, fun boundary => Int.le_trans (even boundary) best⟩

end Autocomplete.Fuzzy
