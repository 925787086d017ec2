import Autocomplete.Fuzzy.Matcher
import Autocomplete.Proofs.Fuzzy.Table

namespace Autocomplete.Fuzzy

def Spells (choice pattern : String) (positions : List Nat) : Prop :=
  positions.Pairwise (· < ·) ∧
    positions.map (fun j => choice.toList[j]?.map Text.lowercase) =
      pattern.toList.map fun c => some (Text.lowercase c)

theorem getElem?_folded (cs : List Char) (j : Nat) :
    (columns cs)[j]?.map Column.folded = cs[j]?.map Text.lowercase := by
  rw [← List.getElem?_map, ← List.getElem?_map, columns, map_folded_columnsAfter]

theorem isAlignment_columns {choice pattern : String} {positions : List Nat} :
    IsAlignment (columns choice.toList) (pattern.toList.map Text.lowercase) positions ↔
      Spells choice pattern positions := by
  simp only [IsAlignment, Spells, getElem?_folded, List.map_map, Function.comp_def]

theorem Spells.length {choice pattern : String} {positions : List Nat}
    (spells : Spells choice pattern positions) : positions.length = pattern.length := by
  have lengths := congrArg List.length spells.2
  rwa [List.length_map, List.length_map, String.length_toList] at lengths

theorem Spells.lt {choice pattern : String} {positions : List Nat}
    (spells : Spells choice pattern positions) {j : Nat} (member : j ∈ positions) :
    j < choice.length := by
  have holds := List.mem_map_of_mem (f := fun j => choice.toList[j]?.map Text.lowercase) member
  rw [spells.2] at holds
  obtain ⟨c, _, here⟩ := List.mem_map.1 holds
  obtain ⟨_, here, _⟩ := Option.map_eq_some_iff.1 here.symm
  rw [← String.length_toList]
  exact (List.getElem?_eq_some_iff.1 here).1

theorem bonus_columnsAfter {previous : Option Char} {cs : List Char} {j : Nat} {c : Char}
    (here : cs[j]? = some c) :
    bonusOf (columnsAfter previous cs) j = bonus (if j = 0 then previous else cs[j - 1]?) c := by
  induction cs generalizing previous j with
  | nil => simp at here
  | cons first cs ih =>
      cases j with
      | zero =>
          obtain rfl : first = c := by simpa using here
          rfl
      | succ j =>
          rw [List.getElem?_cons_succ] at here
          change bonusOf (columnsAfter (some first) cs) j = _
          rw [ih here]
          cases j <;> rfl

theorem bonus_none {c : Char} (separator : !isAlphanumeric c) (previous : Option Char) :
    bonus previous c = bonus none c := by
  simp only [Bool.not_eq_true'] at separator
  simp [bonus, separator]

theorem bonusAt_eq {cs : List Char} {j : Nat} (within : j < cs.length) :
    bonusAt cs j = .ok (bonusOf (columns cs) j) := by
  have here : cs[j]? = some cs[j] := List.getElem?_eq_getElem within
  rw [columns, bonus_columnsAfter here, bonusAt, elementAt_of_nonneg cs j within]
  simp only [bind, Except.bind]
  split
  · next first =>
    rcases first with zero | separator
    · obtain rfl : j = 0 := by omega
      rfl
    · rw [bonus_none separator (if j = 0 then none else cs[j - 1]?)]
      rfl
  · next later =>
    have positive : j ≠ 0 := fun zero => later (.inl (by omega))
    have before : j - 1 < cs.length := by omega
    rw [if_neg positive, List.getElem?_eq_getElem before,
      show (j : Int) - 1 = (j - 1 : Nat) by omega, elementAt_of_nonneg cs (j - 1) before]
    rfl

theorem alignFolded?_eq (columns : List Column) {pattern : List (List Char)}
    (typed : pattern ≠ []) :
    ∃ row others, rows columns pattern.reverse = row :: others ∧
      Exact columns pattern.reverse row others ∧
      alignFolded? columns pattern =
        if pattern.isSublist (columns.map Column.folded) then
          (best row).map fun link => ⟨link.score, traceback (row :: others) link.origin []⟩
        else none := by
  obtain ⟨p, earlier, last⟩ := List.exists_cons_of_ne_nil (List.reverse_ne_nil_iff.2 typed)
  obtain ⟨row, others, table, exact⟩ := exact_rows columns p earlier
  have some : pattern.isEmpty = false := by simpa using typed
  refine ⟨row, others, last ▸ table, last ▸ exact, ?_⟩
  simp only [alignFolded?, some, last, table]
  by_cases within : pattern.isSublist (columns.map Column.folded)
  · have length := (List.isSublist_iff_sublist.1 within).length_le
    rw [List.length_map] at length
    rw [if_neg (Nat.not_lt.2 length), if_pos within]
    simp only [within]
    cases best row <;> rfl
  · simp [within]

theorem alignFolded?_trail {columns : List Column} {pattern : List (List Char)}
    {alignment : Alignment} (typed : pattern ≠ [])
    (found : alignFolded? columns pattern = some alignment) :
    ∃ trail, alignment.positions = trail.reverse ∧ IsTrail columns pattern.reverse trail ∧
      trailScore columns trail = alignment.score ∧
      ∀ trail, IsTrail columns pattern.reverse trail →
        trailScore columns trail ≤ alignment.score := by
  obtain ⟨row, others, _, exact, result⟩ := alignFolded?_eq columns typed
  have choice := isEarliest_best row
  rw [result] at found
  split at found
  · obtain ⟨link, chosen, rfl⟩ := Option.map_eq_some_iff.1 found
    rw [chosen] at choice
    obtain ⟨before, back, trail, score⟩ := exact.attained _ _ choice.1
    refine ⟨link.origin :: before, ?_, trail, score, ?_⟩
    · rw [List.reverse_cons]
      exact back []
    · intro other isTrail
      cases other with
      | nil =>
          rw [isTrail_iff] at isTrail
          exact absurd (List.map_eq_nil_iff.1 isTrail.2.symm) (List.reverse_ne_nil_iff.2 typed)
      | cons j before =>
          obtain ⟨entry, atJ, bound⟩ := exact.bound j before isTrail
          exact Int.le_trans bound (choice.le atJ)
  · cases found

theorem alignFolded?_attained {columns : List Column} {pattern : List (List Char)}
    {alignment : Alignment} (found : alignFolded? columns pattern = some alignment) :
    IsAlignment columns pattern alignment.positions ∧
      alignmentScore columns alignment.positions = alignment.score := by
  by_cases empty : pattern = []
  · subst empty
    obtain rfl : ⟨0, []⟩ = alignment := Option.some.inj found
    exact ⟨⟨.nil, rfl⟩, rfl⟩
  · obtain ⟨trail, positions, isTrail, score, _⟩ := alignFolded?_trail empty found
    rw [positions, alignmentScore_reverse, ← isTrail_reverse, List.reverse_reverse]
    exact ⟨isTrail, score⟩

theorem spells_of_align? {choice pattern : String} {alignment : Alignment}
    (found : align? choice pattern = some alignment) :
    Spells choice pattern alignment.positions :=
  isAlignment_columns.1 (alignFolded?_attained found).1

theorem alignFolded?_bound {columns : List Column} {pattern : List (List Char)}
    {alignment : Alignment} (found : alignFolded? columns pattern = some alignment)
    {positions : List Nat} (aligned : IsAlignment columns pattern positions) :
    alignmentScore columns positions ≤ alignment.score := by
  by_cases empty : pattern = []
  · subst empty
    obtain rfl : ⟨0, []⟩ = alignment := Option.some.inj found
    obtain rfl : positions = [] := List.map_eq_nil_iff.1 aligned.2
    exact Int.le_refl 0
  · obtain ⟨_, _, _, _, bound⟩ := alignFolded?_trail empty found
    have score := bound positions.reverse (isTrail_reverse.2 aligned)
    rwa [← alignmentScore_reverse, List.reverse_reverse] at score

/-- The positions that the matcher gives spell the pattern, their score is the one it gives, and no
positions that spell the pattern have a better score. The bonuses in the scores are those of the
candidate's characters. -/
theorem align?_optimal {choice pattern : String} {alignment : Alignment}
    (found : align? choice pattern = some alignment) :
    Spells choice pattern alignment.positions ∧
      alignmentScore (columns choice.toList) alignment.positions = alignment.score ∧
      (∀ positions, Spells choice pattern positions →
        alignmentScore (columns choice.toList) positions ≤ alignment.score) ∧
      ∀ j < choice.toList.length,
        bonusAt choice.toList j = .ok (bonusOf (columns choice.toList) j) := by
  obtain ⟨aligned, score⟩ := alignFolded?_attained found
  refine ⟨isAlignment_columns.1 aligned, score, ?_, fun j within => bonusAt_eq within⟩
  intro positions spells
  exact alignFolded?_bound found (isAlignment_columns.2 spells)

/-- The pair after `_` scores more than the one at the beginning, which has a gap. -/
theorem align?_optimal_separator :
    align? "axbAb_ab" "AB" = some ⟨52, [6, 7]⟩ ∧ Spells "axbAb_ab" "AB" [0, 2] ∧
      alignmentScore (columns "axbAb_ab".toList) [0, 2] ≤ 52 := by
  have found : align? "axbAb_ab" "AB" = some ⟨52, [6, 7]⟩ := by decide
  have spells : Spells "axbAb_ab" "AB" [0, 2] := ⟨by decide, by decide⟩
  exact ⟨found, spells, (align?_optimal found).2.2.1 [0, 2] spells⟩

end Autocomplete.Fuzzy
