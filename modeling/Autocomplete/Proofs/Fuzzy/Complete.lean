import Autocomplete.Proofs.Fuzzy.Optimal
import Mathlib.Data.Fin.Basic
import Mathlib.Data.Set.List

namespace Autocomplete.Fuzzy

theorem sublist_iff_positions {α : Type} {part whole : List α} :
    List.Sublist part whole ↔ ∃ positions : List Nat, positions.Pairwise (· < ·) ∧
      positions.map (whole[·]?) = part.map some := by
  constructor
  · intro sublist
    obtain ⟨positions, rfl, increasing⟩ := List.sublist_eq_map_getElem sublist
    refine ⟨positions.map Fin.val, List.pairwise_map.2 increasing, ?_⟩
    simp
  · rintro ⟨positions, increasing, spelled⟩
    have within : ∀ j ∈ positions, j < whole.length := by
      intro j member
      have spells : whole[j]? ∈ part.map some := spelled ▸ List.mem_map_of_mem member
      obtain ⟨c, _, here⟩ := List.mem_map.1 spells
      exact (List.getElem?_eq_some_iff.1 here.symm).1
    lift positions to List (Fin whole.length) using within
    have same : part = positions.map (whole[·]) := by
      apply List.map_injective_iff.2 (Option.some_injective α)
      rw [← spelled]
      simp
    rw [same]
    refine List.map_getElem_sublist ?_
    simpa [List.pairwise_map] using increasing

theorem isSublist_iff_spells {choice pattern : String} :
    (pattern.toList.map Text.lowercase).isSublist (choice.toList.map Text.lowercase) ↔
      ∃ positions, Spells choice pattern positions := by
  rw [List.isSublist_iff_sublist, sublist_iff_positions]
  simp only [Spells, List.getElem?_map, List.map_map, Function.comp_def]

def Linked : List Row → Prop
  | [] => True
  | [row] => ∀ (j : Nat) (cell : Cell), row[j]? = some (some cell) → cell.origin = none
  | row :: previous :: others =>
    (∀ (j : Nat) (cell : Cell), row[j]? = some (some cell) →
      ∃ k < j, cell.origin = some k ∧ ∃ before, previous[k]? = some (some before)) ∧
    Linked (previous :: others)

/-- The columns hold an entry in each row, and the origin of each entry is the next column. The entry
in the last of the rows has no origin. -/
def Follows : List Row → List Nat → Prop
  | [], [] => True
  | row :: others, j :: path =>
    (∃ cell : Cell, row[j]? = some (some cell) ∧ cell.origin = path.head?) ∧ Follows others path
  | _, _ => False

theorem linked_rows (columns : List Column) (pattern : List (List Char)) :
    Linked (rows columns pattern) := by
  induction pattern with
  | nil => trivial
  | cons p earlier ih =>
      cases earlier with
      | nil => exact fun _ _ => origin_firstRow
      | cons q earlier =>
          obtain ⟨row, others, table, exact⟩ := exact_rows columns q earlier
          rw [table] at ih
          rw [rows, table]
          refine ⟨?_, ih⟩
          intro j cell atJ
          obtain ⟨_, k, score, origin, below, fromRow, _⟩ := entry_nextRow exact.full atJ
          obtain ⟨before, atK, _⟩ := Option.map_eq_some_iff.1 fromRow
          exact ⟨k, below, origin, before, Option.join_eq_some_iff.1 atK⟩

theorem follows_traceback {row : Row} {others : List Row} (linked : Linked (row :: others)) {j : Nat}
    {cell : Cell} (atJ : row[j]? = some (some cell)) :
    ∃ path, Follows (row :: others) (j :: path) ∧
      ∀ known, traceback (row :: others) j known = path.reverse ++ j :: known := by
  induction others generalizing row j cell with
  | nil =>
      obtain ⟨_, _⟩ := cell
      obtain rfl : _ = none := linked j _ atJ
      refine ⟨[], ⟨⟨_, atJ, rfl⟩, trivial⟩, fun known => ?_⟩
      rw [traceback, atJ]
      rfl
  | cons previous others ih =>
      obtain ⟨links, linked⟩ := linked
      obtain ⟨k, _, origin, _, atK⟩ := links j _ atJ
      obtain ⟨path, follows, back⟩ := ih linked atK
      refine ⟨k :: path, ⟨⟨_, atJ, origin⟩, follows⟩, fun known => ?_⟩
      rw [traceback_of_origin atJ origin, back, List.reverse_cons, List.append_assoc,
        List.singleton_append]

theorem best_of_isAlignment {columns : List Column} {pattern : List (List Char)} {row : Row}
    {others : List Row} (exact : Exact columns pattern.reverse row others) (typed : pattern ≠ [])
    {positions : List Nat} (aligned : IsAlignment columns pattern positions) :
    ∃ link, best row = some link := by
  have trail := isTrail_reverse.2 aligned
  cases reversed : positions.reverse with
  | nil =>
      rw [reversed, isTrail_iff] at trail
      exact absurd (List.map_eq_nil_iff.1 trail.2.symm) (List.reverse_ne_nil_iff.2 typed)
  | cons j before =>
      rw [reversed] at trail
      obtain ⟨score, atJ, _⟩ := exact.bound j before trail
      have earliest := isEarliest_best row
      cases chosen : best row with
      | some link => exact ⟨link, rfl⟩
      | none =>
          rw [chosen] at earliest
          cases (earliest j).symm.trans atJ

theorem map_folded_columns (cs : List Char) :
    (columns cs).map Column.folded = cs.map Text.lowercase :=
  map_folded_columnsAfter none cs

theorem align?_cases (choice : String) {pattern : String} (typed : pattern ≠ "") :
    ∃ row others, rows (columns choice.toList) (pattern.toList.map Text.lowercase).reverse =
        row :: others ∧
      ((¬ ∃ positions, Spells choice pattern positions) ∧ align? choice pattern = none ∨
        (∃ positions, Spells choice pattern positions) ∧
          ∃ link alignment, best row = some link ∧ align? choice pattern = some alignment ∧
            Follows (row :: others) alignment.positions.reverse) := by
  have folded : pattern.toList.map Text.lowercase ≠ [] := by simpa using typed
  obtain ⟨row, others, table, exact, result⟩ := alignFolded?_eq (columns choice.toList) folded
  have linked : Linked (row :: others) := table ▸ linked_rows _ _
  rw [map_folded_columns] at result
  refine ⟨row, others, table, ?_⟩
  rw [align?, result]
  by_cases spelled : ∃ positions, Spells choice pattern positions
  · obtain ⟨positions, spells⟩ := spelled
    obtain ⟨link, chosen⟩ := best_of_isAlignment exact folded (isAlignment_columns.2 spells)
    have earliest := isEarliest_best row
    rw [chosen] at earliest
    obtain ⟨cell, atEnd, _⟩ := Option.map_eq_some_iff.1 earliest.1
    obtain ⟨path, follows, back⟩ := follows_traceback linked (Option.join_eq_some_iff.1 atEnd)
    rw [if_pos (isSublist_iff_spells.2 ⟨positions, spells⟩), chosen]
    refine .inr ⟨⟨positions, spells⟩, link, _, rfl, rfl, ?_⟩
    change Follows _ (traceback (row :: others) link.origin []).reverse
    rwa [back, List.reverse_append, List.reverse_reverse]
  · rw [if_neg (mt isSublist_iff_spells.1 spelled)]
    exact .inl ⟨spelled, rfl⟩

/-- A pattern has no match just if no positions spell it. The search at the start finds it just if
some positions do, and then the last row of the table has a best entry. The positions of a match are
those that the origins lead to, in each row to an entry. -/
theorem align?_complete (choice pattern : String) :
    (align? choice pattern = none ↔ ¬ ∃ positions, Spells choice pattern positions) ∧
      let folded := pattern.toList.map Text.lowercase
      let table := rows (columns choice.toList) folded.reverse
      (folded.isSublist (choice.toList.map Text.lowercase) ↔
        ∃ positions, Spells choice pattern positions) ∧
      (pattern ≠ "" → folded.isSublist (choice.toList.map Text.lowercase) →
        ∃ row ∈ table.head?, ∃ link, best row = some link) ∧
      ∀ alignment, align? choice pattern = some alignment →
        Follows table alignment.positions.reverse := by
  by_cases typed : pattern = ""
  · subst typed
    have spelled : ∃ positions, Spells choice "" positions := ⟨[], .nil, rfl⟩
    refine ⟨?_, isSublist_iff_spells, fun other => absurd rfl other, ?_⟩
    · exact iff_of_false nofun (not_not_intro spelled)
    · rintro alignment ⟨⟩
      trivial
  · obtain ⟨row, others, top, found⟩ := align?_cases choice typed
    dsimp only
    rw [top]
    rcases found with ⟨unspelled, none⟩ | ⟨spelled, link, alignment, chosen, found, follows⟩
    · refine ⟨iff_of_true none unspelled, isSublist_iff_spells, ?_, ?_⟩
      · exact fun _ search => absurd (isSublist_iff_spells.1 search) unspelled
      · intro alignment found
        cases none.symm.trans found
    · refine ⟨?_, isSublist_iff_spells, fun _ _ => ⟨row, rfl, link, chosen⟩, ?_⟩
      · rw [found]
        exact iff_of_false nofun (not_not_intro spelled)
      · intro other same
        obtain rfl := Option.some.inj (found.symm.trans same)
        exact follows

theorem align?_complete_gap :
    align? "xA__b" "AB" = some ⟨50, [1, 4]⟩ ∧
      Follows (rows (columns "xA__b".toList) [['b'], ['a']]) [4, 1] ∧ align? "ba" "ab" = none := by
  have found : align? "xA__b" "AB" = some ⟨50, [1, 4]⟩ := by decide
  obtain ⟨_, _, _, follows⟩ := align?_complete "xA__b" "AB"
  obtain ⟨none, search, _, _⟩ := align?_complete "ba" "ab"
  refine ⟨found, follows _ found, none.2 fun spelled => ?_⟩
  have wrong := search.2 spelled
  revert wrong
  decide

end Autocomplete.Fuzzy
