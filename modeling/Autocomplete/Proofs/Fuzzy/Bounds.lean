import Autocomplete.Proofs.Fuzzy.Optimal

namespace Autocomplete.Fuzzy

theorem bonusOf_cases (cs : List Char) (j : Nat) :
    bonusOf (columns cs) j = 0 ∨ ∃ previous c, bonusOf (columns cs) j = bonus previous c := by
  cases here : cs[j]? with
  | none =>
      have beyond : (columns cs)[j]? = none := by
        rwa [List.getElem?_eq_none_iff, length_columns, ← List.getElem?_eq_none_iff]
      exact .inl (by rw [bonusOf, beyond, Option.map_none, Option.getD_none])
  | some c => exact .inr ⟨_, c, bonus_columnsAfter here⟩

theorem bonusOf_nonneg (cs : List Char) (j : Nat) : 0 ≤ bonusOf (columns cs) j := by
  rcases bonusOf_cases cs j with none | ⟨previous, c, same⟩
  · exact Int.le_of_eq none.symm
  · exact same ▸ bonus_nonneg previous c

theorem bonusOf_le (cs : List Char) (j : Nat) : bonusOf (columns cs) j ≤ 8 := by
  rcases bonusOf_cases cs j with none | ⟨previous, c, same⟩
  · omega
  · exact same ▸ bonus_le previous c

section Scores

variable (cs : List Char)

theorem headScore_le (j : Nat) : headScore (columns cs) j ≤ 32 := by
  have upper := bonusOf_le cs j
  unfold headScore matchScore
  omega

theorem le_headScore (j : Nat) : 16 ≤ headScore (columns cs) j := by
  have lower := bonusOf_nonneg cs j
  unfold headScore matchScore
  omega

theorem linkScore_le {k j : Nat} (above : k < j) : linkScore (columns cs) k j ≤ 32 := by
  have upper := bonusOf_le cs j
  unfold linkScore matchScore runBonus gapOpening gapExtension
  split <;> omega

theorem le_linkScore_run (k : Nat) : 16 ≤ linkScore (columns cs) k (k + 1) := by
  have lower := bonusOf_nonneg cs (k + 1)
  unfold linkScore matchScore runBonus
  rw [if_pos rfl]
  omega

theorem le_linkScore_gap {k j : Nat} (apart : k + 1 < j) :
    16 - 2 - ((j : Int) - k - 1) ≤ linkScore (columns cs) k j := by
  have lower := bonusOf_nonneg cs j
  unfold linkScore matchScore gapOpening gapExtension
  rw [if_neg (Nat.ne_of_gt apart)]
  omega

theorem tailScore_le {k : Nat} {positions : List Nat}
    (increasing : (k :: positions).Pairwise (· < ·)) :
    tailScore (columns cs) k positions ≤ 32 * positions.length := by
  induction positions generalizing k with
  | nil => exact Int.le_refl 0
  | cons j rest ih =>
      obtain ⟨above, increasing⟩ := List.pairwise_cons.1 increasing
      have link := linkScore_le cs (above j List.mem_cons_self)
      have tail := ih increasing
      rw [tailScore, List.length_cons]
      omega

theorem le_tailScore {k n : Nat} {positions : List Nat} {slack : Int}
    (increasing : (k :: positions).Pairwise (· < ·)) (within : ∀ j ∈ k :: positions, j < n)
    (room : slack = n - 1 - k - positions.length) :
    16 * (positions.length : Int) - slack - 2 * min (positions.length : Int) slack ≤
      tailScore (columns cs) k positions := by
  -- Every gap takes up at least one of the `slack` characters that are not matched.
  induction positions generalizing k slack with
  | nil =>
      have below : k < n := within k List.mem_cons_self
      rw [tailScore, List.length_nil] at *
      omega
  | cons j rest ih =>
      obtain ⟨above, increasing⟩ := List.pairwise_cons.1 increasing
      have above := above j List.mem_cons_self
      rw [List.forall_mem_cons] at within
      have tail := ih increasing within.2 rfl
      rw [tailScore, List.length_cons] at *
      by_cases next : j = k + 1
      · subst next
        have run := le_linkScore_run cs k
        omega
      · have gap := le_linkScore_gap cs (k := k) (j := j) (by omega)
        omega

end Scores

theorem Spells.alignmentScore_le {choice pattern : String} {positions : List Nat}
    (spells : Spells choice pattern positions) :
    alignmentScore (columns choice.toList) positions ≤ 32 * pattern.length := by
  rw [← spells.length]
  cases positions with
  | nil => exact Int.le_refl 0
  | cons j rest =>
      have head := headScore_le choice.toList j
      have tail := tailScore_le choice.toList spells.1
      rw [alignmentScore, List.length_cons]
      omega

theorem Spells.le_alignmentScore {choice pattern : String} {positions : List Nat}
    (spells : Spells choice pattern positions) (typed : pattern ≠ "") :
    16 * (pattern.length : Int) - (choice.length - pattern.length) -
        2 * min ((pattern.length : Int) - 1) (choice.length - pattern.length) ≤
      alignmentScore (columns choice.toList) positions := by
  have length := spells.length
  cases positions with
  | nil =>
      have empty : pattern.toList = [] := List.length_eq_zero_iff.1 length.symm
      exact absurd (String.toList_eq_nil_iff.1 empty) typed
  | cons j rest =>
      have head := le_headScore choice.toList j
      have tail := le_tailScore choice.toList spells.1 (fun _ => spells.lt) rfl
      rw [List.length_cons] at length
      rw [alignmentScore]
      omega

/-- The score of a match lies between bounds that depend on the two lengths only. -/
theorem align?_score_bounds {choice pattern : String} {alignment : Alignment} (typed : pattern ≠ "")
    (found : align? choice pattern = some alignment) :
    let n : Int := choice.length
    let m : Int := pattern.length
    16 * m - (n - m) - 2 * min (m - 1) (n - m) ≤ alignment.score ∧ alignment.score ≤ 32 * m := by
  have spells := spells_of_align? found
  obtain ⟨_, score⟩ := alignFolded?_attained found
  rw [← score]
  exact ⟨spells.le_alignmentScore typed, spells.alignmentScore_le⟩

theorem align?_score_bounds_gap :
    "ab" ≠ "" ∧ align? "xaxb" "ab" = some ⟨29, [1, 3]⟩ ∧ 28 ≤ (29 : Int) ∧ (29 : Int) ≤ 64 := by
  have typed : "ab" ≠ "" := by decide
  have found : align? "xaxb" "ab" = some ⟨29, [1, 3]⟩ := by decide
  exact ⟨typed, found, align?_score_bounds typed found⟩

end Autocomplete.Fuzzy
