import Autocomplete.Proofs.Fuzzy.Complete

/-!
# Ties between alignments

Several alignments may have the best score. Of these the matcher gives one that is determined by the
candidate and the pattern alone: it ends as early as possible, and each character before the last is
matched as late as the ones after it allow. The origin of an entry is the last of the columns that
hand on its score (`latest_nextRow`), so by induction over the rows no trail that is as good parts
from the one that is traced back to go on at a later column.
-/

namespace Autocomplete.Fuzzy

/-- Where another trail with the score parts from the one that is traced back, it goes on at an
earlier column. -/
def IsTraced (columns : List Column) (pattern : List (List Char)) (row : Row) (others : List Row)
    (j : Nat) (score : Int) : Prop :=
  ∃ before, (∀ known, traceback (row :: others) j known = before.reverse ++ j :: known) ∧
    ∀ {common k rest}, before = common ++ k :: rest →
      ∀ {k' rest'}, IsTrail columns pattern (j :: (common ++ k' :: rest')) →
        trailScore columns (j :: (common ++ k' :: rest')) = score → k' ≤ k

theorem isTraced_firstRow {columns : List Column} {p : List Char} {j : Nat} {score : Int}
    (found : scoreAt? (firstRow columns p) j = some score) :
    IsTraced columns [p] (firstRow columns p) [] j score := by
  obtain ⟨before, back, trail, _⟩ := (exact_firstRow columns p).attained j score found
  refine ⟨before, back, ?_⟩
  intro common k rest split
  cases before with
  | nil => simp at split
  | cons _ _ => exact trail.2.2.elim

theorem isTraced_nextRow {columns : List Column} {p q : List Char} {earlier : List (List Char)}
    {row : Row} {others : List Row} (exact : Exact columns (q :: earlier) row others)
    (traced : ∀ k score, scoreAt? row k = some score →
      IsTraced columns (q :: earlier) row others k score)
    {j : Nat} {score : Int} (found : scoreAt? (nextRow columns row p) j = some score) :
    IsTraced columns (p :: q :: earlier) (nextRow columns row p) (row :: others) j score := by
  obtain ⟨cell, atJ, rfl⟩ := Option.map_eq_some_iff.1 found
  have atJ := Option.join_eq_some_iff.1 atJ
  obtain ⟨_, k, entry, origin, _, fromRow, total⟩ := entry_nextRow exact.full atJ
  obtain ⟨before, back, latest⟩ := traced k entry fromRow
  refine ⟨k :: before, ?_, ?_⟩
  · intro known
    rw [traceback_of_origin atJ origin, back, List.reverse_cons, List.append_assoc,
      List.singleton_append]
  · intro common i rest split i' rest' trail same
    cases common with
    | nil =>
        obtain ⟨rfl, rfl⟩ := List.cons.inj split
        exact le_origin_nextRow exact atJ origin trail same
    | cons first common =>
        obtain ⟨rfl, rfl⟩ := List.cons.inj split
        rw [List.cons_append, trailScore] at same
        exact latest rfl trail.2.2 (by omega)

theorem isTraced_rows {columns : List Column} {p : List Char} {earlier : List (List Char)}
    {row : Row} {others : List Row} (table : rows columns (p :: earlier) = row :: others) {j : Nat}
    {score : Int} (found : scoreAt? row j = some score) :
    IsTraced columns (p :: earlier) row others j score := by
  induction earlier generalizing p row others j score with
  | nil =>
      obtain ⟨rfl, rfl⟩ := List.cons.inj table
      exact isTraced_firstRow found
  | cons q earlier ih =>
      obtain ⟨previous, above, same, exact⟩ := exact_rows columns q earlier
      rw [rows, same] at table
      obtain ⟨rfl, rfl⟩ := List.cons.inj table
      exact isTraced_nextRow exact (fun _ _ => ih same) found

theorem alignFolded?_traced {columns : List Column} {pattern : List (List Char)}
    {alignment : Alignment} (typed : pattern ≠ [])
    (found : alignFolded? columns pattern = some alignment) :
    ∃ row others last, alignment.positions = traceback (row :: others) last [] ∧
      IsTraced columns pattern.reverse row others last alignment.score ∧
      ∀ {j other}, IsTrail columns pattern.reverse (j :: other) →
        trailScore columns (j :: other) = alignment.score → last ≤ j := by
  obtain ⟨row, others, table, exact, result⟩ := alignFolded?_eq columns typed
  obtain ⟨p, earlier, split⟩ := List.exists_cons_of_ne_nil (List.reverse_ne_nil_iff.2 typed)
  have earliest := isEarliest_best row
  rw [result] at found
  split at found
  · obtain ⟨link, chosen, rfl⟩ := Option.map_eq_some_iff.1 found
    rw [chosen] at earliest
    refine ⟨row, others, link.origin, rfl, ?_, ?_⟩
    · rw [split] at table ⊢
      exact isTraced_rows table earliest.1
    · intro j other trail best
      obtain ⟨score, atJ, bound⟩ := exact.bound j other trail
      dsimp only at best
      rcases earliest.2 j score atJ with less | ⟨_, first⟩
      · omega
      · exact first
  · cases found

structure IsOptimal (choice pattern : String) (positions : List Nat) : Prop where
  spells : Spells choice pattern positions
  best : ∀ other, Spells choice pattern other →
    alignmentScore (columns choice.toList) other ≤ alignmentScore (columns choice.toList) positions

/-- Of all optimal positions these end first; and read backwards, each of them is the greatest that
optimal ones have before the same positions. -/
structure IsPreferred (choice pattern : String) (positions : List Nat) : Prop
    extends IsOptimal choice pattern positions where
  first : ∀ {before last}, positions = before ++ [last] →
    ∀ before' last', IsOptimal choice pattern (before' ++ [last']) → last ≤ last'
  latest : ∀ {before k after}, positions = before ++ k :: after → after ≠ [] →
    ∀ before' k', IsOptimal choice pattern (before' ++ k' :: after) → k' ≤ k

theorem exists_common_of_ne {a b : List Nat} (length : a.length = b.length) (differ : a ≠ b) :
    ∃ common k k' rest rest', k ≠ k' ∧ a = common ++ k :: rest ∧ b = common ++ k' :: rest' := by
  induction a generalizing b with
  | nil => exact absurd (List.length_eq_zero_iff.1 length.symm).symm differ
  | cons k rest ih =>
      cases b with
      | nil => cases length
      | cons k' rest' =>
          by_cases same : k = k'
          · subst same
            obtain ⟨common, i, i', others, others', apart, rfl, rfl⟩ :=
              ih (Nat.succ.inj length) fun equal => differ (by rw [equal])
            exact ⟨k :: common, i, i', others, others', apart, rfl, rfl⟩
          · exact ⟨[], k, k', rest, rest', same, rfl, rfl⟩

section Preferred

variable {choice pattern : String} {positions : List Nat}

theorem IsPreferred.unique {other : List Nat} (preferred : IsPreferred choice pattern positions)
    (preferred' : IsPreferred choice pattern other) : positions = other := by
  have length : positions.reverse.length = other.reverse.length := by
    rw [List.length_reverse, List.length_reverse, preferred.spells.length,
      preferred'.spells.length]
  by_contra differ
  -- Going backwards, each of the two would have to be the later one where they part.
  obtain ⟨common, k, k', rest, rest', apart, left, right⟩ :=
    exists_common_of_ne length fun same => differ (List.reverse_inj.1 same)
  rw [List.reverse_eq_iff, List.reverse_append, List.reverse_cons, List.append_assoc,
    List.singleton_append] at left right
  have optimal := preferred.toIsOptimal
  have optimal' := preferred'.toIsOptimal
  rw [left] at optimal
  rw [right] at optimal'
  apply apart
  by_cases last : common.reverse = []
  · rw [last] at left right optimal optimal'
    exact Nat.le_antisymm (preferred.first left _ _ optimal') (preferred'.first right _ _ optimal)
  · exact Nat.le_antisymm (preferred'.latest right last _ _ optimal)
      (preferred.latest left last _ _ optimal')

variable {alignment : Alignment}

theorem isOptimal_of_align? (found : align? choice pattern = some alignment) :
    IsOptimal choice pattern alignment.positions := by
  refine ⟨spells_of_align? found, fun other spells => ?_⟩
  rw [(alignFolded?_attained found).2]
  exact alignFolded?_bound found (isAlignment_columns.2 spells)

theorem IsOptimal.reverse (optimal : IsOptimal choice pattern positions)
    (found : align? choice pattern = some alignment) :
    IsTrail (columns choice.toList) (pattern.toList.map Text.lowercase).reverse positions.reverse ∧
      trailScore (columns choice.toList) positions.reverse = alignment.score := by
  have given := isOptimal_of_align? found
  refine ⟨isTrail_reverse.2 (isAlignment_columns.2 optimal.spells), ?_⟩
  rw [← alignmentScore_reverse, List.reverse_reverse, ← (alignFolded?_attained found).2]
  exact Int.le_antisymm (given.best _ optimal.spells) (optimal.best _ given.spells)

theorem isPreferred_of_align? (found : align? choice pattern = some alignment) :
    IsPreferred choice pattern alignment.positions := by
  have optimal := isOptimal_of_align? found
  by_cases typed : pattern.toList.map Text.lowercase = []
  · have none : alignment.positions = [] := by
      rw [← List.length_eq_zero_iff, optimal.spells.length]
      simpa using typed
    rw [none] at optimal ⊢
    exact ⟨optimal, fun split => by simp at split, fun split => by simp at split⟩
  · obtain ⟨row, others, last, back, ⟨before, traced, latest⟩, first⟩ :=
      alignFolded?_traced typed found
    rw [traced] at back
    refine ⟨optimal, ?_, ?_⟩
    · intro front j split front' j' optimal'
      obtain ⟨trail, best⟩ := optimal'.reverse found
      rw [List.reverse_append] at trail best
      rw [back] at split
      obtain rfl := List.singleton_inj.1 (List.append_inj' split rfl).2
      exact first trail best
    · intro front k after split nonempty front' k' optimal'
      obtain ⟨middle, j, rfl⟩ := (List.eq_nil_or_concat' after).resolve_left nonempty
      obtain ⟨trail, best⟩ := optimal'.reverse found
      have reversed : ∀ (front : List Nat) (k : Nat), (front ++ k :: (middle ++ [j])).reverse =
          j :: (middle.reverse ++ k :: front.reverse) := by simp
      rw [reversed] at trail best
      have parts := congrArg List.reverse (back.symm.trans split)
      rw [reversed, List.reverse_append, List.reverse_reverse] at parts
      obtain ⟨rfl, earlier⟩ := List.cons.inj parts
      exact latest earlier trail best

theorem exists_align?_of_spells (spells : Spells choice pattern positions) :
    ∃ alignment, align? choice pattern = some alignment := by
  by_cases typed : pattern = ""
  · subst typed
    exact ⟨_, rfl⟩
  · obtain ⟨_, _, _, ⟨unspelled, _⟩ | ⟨_, _, alignment, _, found, _⟩⟩ := align?_cases choice typed
    · exact absurd ⟨positions, spells⟩ unspelled
    · exact ⟨alignment, found⟩

end Preferred

/-- The matcher finds an alignment just if the pattern can be spelled, and it is the preferred one,
with its score. -/
theorem align?_preferred (choice pattern : String) :
    ((∃ alignment, align? choice pattern = some alignment) ↔
      ∃ positions, Spells choice pattern positions) ∧
    ∀ alignment, align? choice pattern = some alignment ↔
      IsPreferred choice pattern alignment.positions ∧
        alignmentScore (columns choice.toList) alignment.positions = alignment.score := by
  constructor
  · constructor
    · rintro ⟨alignment, found⟩
      exact ⟨alignment.positions, spells_of_align? found⟩
    · rintro ⟨positions, spells⟩
      exact exists_align?_of_spells spells
  · intro alignment
    constructor
    · intro found
      exact ⟨isPreferred_of_align? found, (alignFolded?_attained found).2⟩
    · rintro ⟨preferred, score⟩
      obtain ⟨other, found⟩ := exists_align?_of_spells preferred.spells
      have positions := preferred.unique (isPreferred_of_align? found)
      have attained := (alignFolded?_attained found).2
      rw [← positions, score] at attained
      obtain ⟨_, _⟩ := other
      obtain rfl := attained
      obtain rfl := positions
      exact found

example : align? "axAxb" "ab" = some ⟨43, [2, 4]⟩ ∧
    alignmentScore (columns "axAxb".toList) [0, 4] = 43 := by decide

end Autocomplete.Fuzzy
