import Autocomplete.Proofs.Fuzzy.Optimal
import Mathlib.Order.Bounds.Defs

namespace Autocomplete.Fuzzy

section Cells

variable {columns : List Column} {pattern : List (List Char)} {row : Row} {others : List Row}
  {i j : Nat}

/-! ## Rows -/

theorem tail_rows (columns : List Column) (pattern : List (List Char)) :
    (rows columns pattern).tail = rows columns pattern.tail := by
  cases pattern with
  | nil => rfl
  | cons p earlier =>
      rw [rows, List.tail_cons]
      cases rows columns earlier <;> rfl

theorem drop_rows (columns : List Column) (pattern : List (List Char)) (k : Nat) :
    (rows columns pattern).drop k = rows columns (pattern.drop k) := by
  induction k generalizing pattern with
  | zero => rfl
  | succ k ih => rw [← List.drop_tail, tail_rows, ih, List.drop_tail]

theorem length_rows (columns : List Column) (pattern : List (List Char)) :
    (rows columns pattern).length = pattern.length := by
  induction pattern with
  | nil => rfl
  | cons p earlier ih =>
      obtain ⟨row, others, table, _⟩ := exact_rows columns p earlier
      have tail := tail_rows columns (p :: earlier)
      rw [table, List.tail_cons, List.tail_cons] at tail
      rw [table, tail, List.length_cons, List.length_cons, ih]

def tableOf (columns : List Column) (pattern : List (List Char)) : List Row :=
  (rows columns pattern.reverse).reverse

theorem length_tableOf (columns : List Column) (pattern : List (List Char)) :
    (tableOf columns pattern).length = pattern.length := by
  rw [tableOf, List.length_reverse, length_rows, List.length_reverse]

theorem exact_tableOf (atI : (tableOf columns pattern)[i]? = some row) :
    ∃ others, rows columns (pattern.take (i + 1)).reverse = row :: others ∧
      Exact columns (pattern.take (i + 1)).reverse row others := by
  have within : i < pattern.length := by
    rw [← length_tableOf columns]
    exact (List.getElem?_eq_some_iff.1 atI).1
  have beginning : rows columns (pattern.take (i + 1)).reverse =
      (rows columns pattern.reverse).drop (pattern.length - (i + 1)) := by
    rw [List.reverse_take, drop_rows]
  have typed : (pattern.take (i + 1)).reverse ≠ [] := by
    intro empty
    have none := congrArg List.length empty
    rw [List.length_reverse, List.length_take, List.length_nil] at none
    omega
  obtain ⟨p, earlier, split⟩ := List.exists_cons_of_ne_nil typed
  obtain ⟨first, others, table, exact⟩ := exact_rows columns p earlier
  rw [split] at beginning ⊢
  have same : some first = some row := by
    have inside : i < (rows columns pattern.reverse).length := by
      rwa [length_rows, List.length_reverse]
    rw [← atI, tableOf, List.getElem?_reverse inside, length_rows, List.length_reverse,
      Nat.sub_sub, Nat.add_comm 1 i, ← List.head?_drop, ← beginning, table, List.head?_cons]
  obtain rfl := Option.some.inj same
  exact ⟨others, table, exact⟩

theorem tableOf_succ {previous : Row} (atI : (tableOf columns pattern)[i]? = some previous)
    (next : (tableOf columns pattern)[i + 1]? = some row) :
    ∃ p, pattern[i + 1]? = some p ∧ row = nextRow columns previous p ∧
      pattern.take (i + 2) = pattern.take (i + 1) ++ [p] := by
  have within : i + 1 < pattern.length := by
    rw [← length_tableOf columns]
    exact (List.getElem?_eq_some_iff.1 next).1
  have longer := (List.take_append_getElem within).symm
  obtain ⟨_, before, _⟩ := exact_tableOf atI
  obtain ⟨_, after, _⟩ := exact_tableOf next
  refine ⟨pattern[i + 1], List.getElem?_eq_getElem within, ?_, longer⟩
  rw [longer, List.reverse_append, List.reverse_singleton, List.singleton_append, rows, before]
    at after
  exact (List.cons.inj after).1.symm

/-! ## Entries -/

def EndsAt (columns : List Column) (pattern : List (List Char)) (j : Nat) (positions : List Nat) :
    Prop :=
  IsAlignment columns pattern positions ∧ positions.getLast? = some j

theorem endsAt_iff {positions : List Nat} :
    EndsAt columns pattern j positions ↔
      ∃ before, positions.reverse = j :: before ∧
        IsTrail columns pattern.reverse (j :: before) := by
  rw [EndsAt, ← isTrail_reverse, List.getLast?_eq_head?_reverse, List.head?_eq_some_iff]
  constructor
  · rintro ⟨trail, before, split⟩
    exact ⟨before, split, split ▸ trail⟩
  · rintro ⟨before, split, trail⟩
    exact ⟨split ▸ trail, before, split⟩

theorem trailScore_reverse (columns : List Column) (positions : List Nat) :
    trailScore columns positions.reverse = alignmentScore columns positions := by
  rw [← alignmentScore_reverse, List.reverse_reverse]

theorem isGreatest_score (exact : Exact columns pattern.reverse row others) {score : Int}
    (found : scoreAt? row j = some score) :
    IsGreatest {score | ∃ positions, EndsAt columns pattern j positions ∧
      alignmentScore columns positions = score} score := by
  constructor
  · obtain ⟨before, _, trail, rfl⟩ := exact.attained j score found
    refine ⟨(j :: before).reverse, endsAt_iff.2 ⟨before, List.reverse_reverse _, trail⟩, ?_⟩
    rw [alignmentScore_reverse]
  · rintro _ ⟨positions, ends, rfl⟩
    obtain ⟨before, split, trail⟩ := endsAt_iff.1 ends
    obtain ⟨best, atJ, bound⟩ := exact.bound j before trail
    obtain rfl := Option.some.inj (found.symm.trans atJ)
    rwa [← split, trailScore_reverse] at bound

theorem exists_entry_iff (exact : Exact columns pattern.reverse row others) :
    (∃ score, scoreAt? row j = some score) ↔ ∃ positions, EndsAt columns pattern j positions := by
  constructor
  · rintro ⟨score, found⟩
    obtain ⟨positions, ends, _⟩ := (isGreatest_score exact found).1
    exact ⟨positions, ends⟩
  · rintro ⟨positions, ends⟩
    obtain ⟨before, _, trail⟩ := endsAt_iff.1 ends
    obtain ⟨score, atJ, _⟩ := exact.bound j before trail
    exact ⟨score, atJ⟩

theorem isGreatest_origin (exact : Exact columns pattern.reverse row others) {p : List Char}
    {entry : Cell} (atJ : (nextRow columns row p)[j]? = some (some entry)) :
    ∃ k, entry.origin = some k ∧
      IsGreatest {k | ∃ before, IsAlignment columns (pattern ++ [p]) (before ++ [k, j]) ∧
        alignmentScore columns (before ++ [k, j]) = entry.score} k := by
  have reversed : (pattern ++ [p]).reverse = p :: pattern.reverse := by simp
  obtain ⟨here, k, score, origin, below, fromRow, total⟩ := entry_nextRow exact.full atJ
  refine ⟨k, origin, ?_, ?_⟩
  · obtain ⟨before, _, trail, rfl⟩ := exact.attained k score fromRow
    have order : before.reverse ++ [k, j] = (j :: k :: before).reverse := by simp
    refine ⟨before.reverse, ?_, ?_⟩
    · rw [order, ← isTrail_reverse, List.reverse_reverse, reversed]
      refine ⟨here, fun i first => ?_, trail⟩
      obtain rfl := Option.some.inj first
      exact below
    · rw [order, alignmentScore_reverse, trailScore, total, Int.add_comm]
  · rintro k' ⟨before, aligned, same⟩
    have order : (before ++ [k', j]).reverse = j :: k' :: before.reverse := by simp
    rw [← isTrail_reverse, order, reversed] at aligned
    rw [← trailScore_reverse, order] at same
    exact le_origin_nextRow exact atJ origin aligned same

/-! ## The gap register -/

def LeftOver (row : Row) (j k : Nat) (score : Int) : Prop :=
  k + 2 ≤ j ∧ ∃ entry : Cell, row[k]? = some (some entry) ∧
    score = entry.score - 3 - ((j : Int) - 2 - k)

theorem gapScore_eq_some_iff {k : Nat} {score : Int} :
    gapScore row j k = some score ↔ LeftOver row j k score := by
  rw [gapScore, LeftOver, Option.ite_none_right_eq_some, scoreAt?, Option.map_map,
    Option.map_eq_some_iff]
  simp only [Option.join_eq_some_iff, Function.comp_apply, gapOpening, gapExtension]
  constructor
  · rintro ⟨apart, entry, atK, same⟩
    exact ⟨apart, entry, atK, by omega⟩
  · rintro ⟨apart, entry, atK, same⟩
    exact ⟨apart, entry, atK, by omega⟩

theorem gap_eq_none_iff {gap : Option Link} (atJ : (gaps row)[j]? = some gap)
    (within : j ≤ row.length) : gap = none ↔ ∀ k, k + 2 ≤ j → row[k]? = some none := by
  have latest := isLatest_gaps atJ
  cases gap with
  | none =>
      refine iff_of_true rfl fun k apart => ?_
      have atK : row[k]? = some row[k] := List.getElem?_eq_getElem (by omega)
      cases cell : row[k] with
      | none => rw [atK, cell]
      | some entry =>
          rw [cell] at atK
          cases (latest k).symm.trans (gapScore_eq_some_iff.2 ⟨apart, entry, atK, rfl⟩)
  | some link =>
      refine iff_of_false nofun fun none => ?_
      obtain ⟨apart, entry, atK, _⟩ := gapScore_eq_some_iff.1 latest.1
      cases (none _ apart).symm.trans atK

theorem isGreatest_gap {link : Link} (atJ : (gaps row)[j]? = some (some link)) :
    IsGreatest {score | ∃ k, LeftOver row j k score} link.score ∧
      IsGreatest {k | LeftOver row j k link.score} link.origin := by
  have latest := isLatest_gaps atJ
  have attained := gapScore_eq_some_iff.1 latest.1
  refine ⟨⟨⟨link.origin, attained⟩, ?_⟩, attained, ?_⟩
  · rintro score ⟨k, leaves⟩
    exact latest.le (gapScore_eq_some_iff.2 leaves)
  · intro k leaves
    rcases latest.2 k _ (gapScore_eq_some_iff.2 leaves) with less | ⟨_, last⟩
    · exact absurd less (Int.lt_irrefl _)
    · exact last

end Cells

/-! ## The table -/

/-- Row `i` is that of the pattern's first `i + 1` characters. It has an entry in each column where
an alignment of these ends: the best score of such alignments, and the last column that one of the
best has before the end. The row is scanned with gap registers that hold the best score that the row
before leaves over, and the last column that it is left over from; a register is empty just if that
row has no entry two columns back or more. -/
theorem table_exact (choice pattern : String) :
    let columns := columns choice.toList
    let folded := pattern.toList.map Text.lowercase
    let table := (rows columns folded.reverse).reverse
    table.length = pattern.length ∧
      (∀ i row, table[i]? = some row → row.length = choice.length ∧
        ∀ j cell, row[j]? = some cell →
          ((∃ entry, cell = some entry) ↔
            ∃ positions, EndsAt columns (folded.take (i + 1)) j positions) ∧
          ∀ entry, cell = some entry →
            IsGreatest {score | ∃ positions, EndsAt columns (folded.take (i + 1)) j positions ∧
              alignmentScore columns positions = score} entry.score) ∧
      ∀ i previous row, table[i]? = some previous → table[i + 1]? = some row →
        (∀ j entry, row[j]? = some (some entry) → ∃ k, entry.origin = some k ∧
          IsGreatest {k | ∃ before,
            IsAlignment columns (folded.take (i + 2)) (before ++ [k, j]) ∧
            alignmentScore columns (before ++ [k, j]) = entry.score} k) ∧
        (∃ p, folded[i + 1]? = some p ∧
          row = cellsFrom p 0 columns (none :: previous) (gaps previous)) ∧
        ∀ j < choice.length, ∃ gap, (gaps previous)[j]? = some gap ∧
          (gap = none ↔ ∀ k, k + 2 ≤ j → previous[k]? = some none) ∧
          ∀ link, gap = some link →
            IsGreatest {score | ∃ k, LeftOver previous j k score} link.score ∧
            IsGreatest {k | LeftOver previous j k link.score} link.origin := by
  intro columns folded table
  have width : columns.length = choice.length := by
    rw [length_columns, String.length_toList]
  refine ⟨?_, ?_, ?_⟩
  · rw [← String.length_toList, ← List.length_map Text.lowercase]
    exact length_tableOf columns folded
  · intro i row atI
    obtain ⟨others, _, exact⟩ := exact_tableOf atI
    refine ⟨exact.full.trans width, ?_⟩
    intro j cell atJ
    have score : scoreAt? row j = cell.map Cell.score := by rw [scoreAt?, atJ, Option.join_some]
    constructor
    · rw [← exists_entry_iff exact, score]
      cases cell <;> simp
    · rintro entry rfl
      exact isGreatest_score exact score
  · intro i previous row atI next
    obtain ⟨others, _, exact⟩ := exact_tableOf atI
    obtain ⟨p, here, rfl, longer⟩ := tableOf_succ atI next
    refine ⟨?_, ⟨p, here, rfl⟩, ?_⟩
    · intro j entry atJ
      rw [longer]
      exact isGreatest_origin exact atJ
    · intro j within
      have inside : j < (gaps previous).length := by
        rw [length_gaps, exact.full, width]
        omega
      have atJ := List.getElem?_eq_getElem inside
      refine ⟨_, atJ, gap_eq_none_iff atJ (by rw [exact.full, width]; omega), ?_⟩
      intro link held
      exact isGreatest_gap (held ▸ atJ)

theorem table_exact_draw :
    let columns := columns "axA__b".toList
    let previous : Row := [some ⟨32, none⟩, none, some ⟨30, none⟩, none, none, none]
    let row : Row := [none, none, none, none, none, some ⟨50, some 2⟩]
    (rows columns [['b'], ['a']]).reverse = [previous, row] ∧
      (∃ positions, EndsAt columns [['a'], ['b']] 5 positions) ∧
      IsGreatest {score | ∃ positions, EndsAt columns [['a'], ['b']] 5 positions ∧
        alignmentScore columns positions = score} 50 ∧
      IsGreatest {k | ∃ before, IsAlignment columns [['a'], ['b']] (before ++ [k, 5]) ∧
        alignmentScore columns (before ++ [k, 5]) = 50} 2 ∧
      (gaps previous)[5]? = some (some ⟨26, 2⟩) ∧
      IsGreatest {score | ∃ k, LeftOver previous 5 k score} 26 ∧
      IsGreatest {k | LeftOver previous 5 k 26} 2 := by
  intro columns previous row
  have table : (rows columns [['b'], ['a']]).reverse = [previous, row] := by decide
  obtain ⟨_, entries, scans⟩ := table_exact "axA__b" "ab"
  have atFirst : (rows columns [['b'], ['a']]).reverse[0]? = some previous := by rw [table]; rfl
  have atNext : (rows columns [['b'], ['a']]).reverse[1]? = some row := by rw [table]; rfl
  obtain ⟨_, entry⟩ := entries 1 row atNext
  obtain ⟨ends, best⟩ := entry 5 (some ⟨50, some 2⟩) rfl
  obtain ⟨origins, _, registers⟩ := scans 0 previous row atFirst atNext
  obtain ⟨k, origin, last⟩ := origins 5 ⟨50, some 2⟩ rfl
  obtain rfl := Option.some.inj origin
  obtain ⟨gap, atGap, _, held⟩ := registers 5 (by decide)
  have register : (gaps previous)[5]? = some (some ⟨26, 2⟩) := by decide
  obtain rfl := Option.some.inj (register.symm.trans atGap)
  obtain ⟨score, latest⟩ := held ⟨26, 2⟩ rfl
  exact ⟨table, ends.1 ⟨_, rfl⟩, best ⟨50, some 2⟩ rfl, last, register, score, latest⟩

end Autocomplete.Fuzzy
