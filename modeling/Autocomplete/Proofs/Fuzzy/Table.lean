import Autocomplete.Proofs.Fuzzy.Register
import Autocomplete.Proofs.Fuzzy.Trail

namespace Autocomplete.Fuzzy

def stepScore (columns : List Column) (row : Row) (j k : Nat) : Option Int :=
  if k < j then (scoreAt? row k).map (· + linkScore columns k j) else none

def runLink? (column : Column) (j : Nat) (before : Option Cell) : Option Link :=
  ((before.map Cell.score).map (· + max runBonus column.bonus)).map fun score => ⟨score, j - 1⟩

def linkedCell (p : List Char) (column : Column) (link : Option Link) : Option Cell :=
  if column.folded = p then
    (link.map fun link => ⟨link.score + (matchScore + column.bonus), link.origin⟩).map
      fun (link : Link) => ⟨link.score, some link.origin⟩
  else none

theorem cellsFrom_cons (p : List Char) (j : Nat) (column : Column) (columns : List Column)
    (cell : Option Cell) (before : Row) (gap : Option Link) (gaps : List (Option Link)) :
    cellsFrom p j (column :: columns) (cell :: before) (gap :: gaps) =
      linkedCell p column (better (runLink? column j cell) gap) ::
        cellsFrom p (j + 1) columns before gaps := by
  have run : (cell.map fun cell => (⟨cell.score + max runBonus column.bonus, j - 1⟩ : Link)) =
      runLink? column j cell := by cases cell <;> rfl
  rw [cellsFrom, run, linkedCell, Option.map_map]
  simp only [Function.comp_def, Int.add_assoc]

theorem getElem?_cellsFrom {p : List Char} {j i : Nat} {columns : List Column} {before : Row}
    {gaps : List (Option Link)} {column : Column} {cell : Option Cell} {gap : Option Link}
    (atColumn : columns[i]? = some column) (atBefore : before[i]? = some cell)
    (atGap : gaps[i]? = some gap) :
    (cellsFrom p j columns before gaps)[i]? =
      some (linkedCell p column (better (runLink? column (j + i) cell) gap)) := by
  induction i generalizing j columns before gaps with
  | zero =>
      rw [← List.head?_eq_getElem?] at atColumn atBefore atGap
      obtain ⟨_, rfl⟩ := List.head?_eq_some_iff.1 atColumn
      obtain ⟨_, rfl⟩ := List.head?_eq_some_iff.1 atBefore
      obtain ⟨_, rfl⟩ := List.head?_eq_some_iff.1 atGap
      rw [cellsFrom_cons, List.getElem?_cons_zero, Nat.add_zero]
  | succ i ih =>
      match columns, before, gaps with
      | [], _, _ => simp at atColumn
      | _ :: _, [], _ => simp at atBefore
      | _ :: _, _ :: _, [] => simp at atGap
      | _ :: columns, _ :: before, _ :: gaps =>
          rw [List.getElem?_cons_succ] at atColumn atBefore atGap
          rw [cellsFrom_cons, List.getElem?_cons_succ, ih atColumn atBefore atGap,
            Nat.add_assoc j 1 i, Nat.add_comm 1 i]

theorem length_cellsFrom (p : List Char) (j : Nat) {columns : List Column} {before : Row}
    {gaps : List (Option Link)} (enough : columns.length ≤ before.length)
    (enough' : columns.length ≤ gaps.length) :
    (cellsFrom p j columns before gaps).length = columns.length := by
  induction columns generalizing j before gaps with
  | nil => rfl
  | cons column columns ih =>
      match before, gaps with
      | [], _ => simp at enough
      | _ :: _, [] => simp at enough'
      | _ :: before, _ :: gaps =>
          rw [cellsFrom_cons, List.length_cons, List.length_cons,
            ih (j + 1) (Nat.le_of_succ_le_succ enough) (Nat.le_of_succ_le_succ enough')]

@[simp] theorem length_gapsFrom (k : Nat) (gap : Option Link) (row : Row) :
    (gapsFrom k gap row).length = row.length := by
  induction row generalizing k gap with
  | nil => rfl
  | cons cell row ih => rw [gapsFrom, List.length_cons, List.length_cons, ih]

@[simp] theorem length_gaps (row : Row) : (gaps row).length = row.length + 2 := by
  rw [gaps, List.length_cons, List.length_cons, length_gapsFrom]

theorem isLatest_runLink? {row : Row} {j : Nat} (column : Column) {cell : Option Cell}
    (before : (none :: row)[j]? = some cell) :
    IsLatest (fun k => if k + 1 = j then (scoreAt? row k).map (· + max runBonus column.bonus)
      else none) (runLink? column j cell) := by
  cases j with
  | zero =>
      obtain rfl : none = cell := by simpa using before
      intro k
      exact if_neg (Nat.succ_ne_zero k)
  | succ j =>
      rw [List.getElem?_cons_succ] at before
      have score : scoreAt? row j = cell.map Cell.score := by
        rw [scoreAt?, before, Option.join_some]
      refine (isBest_at (fun chosen other => other ≤ chosen) (Nat.le_refl j) _).congr
        fun k => ?_
      by_cases here : k = j
      · subst here
        rw [if_pos rfl, if_pos rfl, score]
      · rw [if_neg here, if_neg fun same => here (Nat.succ.inj same)]

theorem isLatest_nextRow {columns : List Column} {row : Row} (full : row.length = columns.length)
    (p : List Char) {j : Nat} {column : Column} (here : columns[j]? = some column) :
    ∃ link : Option Link, IsLatest (stepScore columns row j) link ∧
      (nextRow columns row p)[j]? =
        some (if column.folded = p then link.map fun link => ⟨link.score, some link.origin⟩
          else none) := by
  have within : j < columns.length := (List.getElem?_eq_some_iff.1 here).1
  obtain ⟨cell, atCell⟩ : ∃ cell, (none :: row)[j]? = some cell :=
    ⟨_, List.getElem?_eq_getElem (by rw [List.length_cons]; omega)⟩
  obtain ⟨gap, atGap⟩ : ∃ gap, (gaps row)[j]? = some gap :=
    ⟨_, List.getElem?_eq_getElem (by rw [length_gaps]; omega)⟩
  have bonus : bonusOf columns j = column.bonus := by
    rw [bonusOf, here, Option.map_some, Option.getD_some]
  have ran := isLatest_runLink? column atCell
  have skipped := isLatest_gaps atGap
  have met := isBest_better ran skipped ?apart
  case apart =>
    intro i k _ _ near far
    have next : i + 1 = j := by
      by_contra other
      simp [other] at near
    have gap : k + 2 ≤ j := by
      by_contra close
      simp [gapScore_of_lt (Nat.not_le.1 close)] at far
    omega
  refine ⟨_, (met.add (matchScore + column.bonus)).congr fun k => ?_, ?_⟩
  · rcases Nat.lt_trichotomy (k + 1) j with below | rfl | above
    · have other : ¬ j = k + 1 := Nat.ne_of_gt below
      have gap : k + 2 ≤ j := below
      rw [if_neg (Nat.ne_of_lt below), Option.none_or, gapScore, if_pos gap, stepScore,
        if_pos (Nat.lt_of_succ_lt below), Option.map_map]
      congr 1
      funext score
      simp only [Function.comp_apply, linkScore, other, if_false, bonus]
      omega
    · rw [if_pos rfl, gapScore_of_lt (Nat.lt_succ_self _), Option.or_none, stepScore,
        if_pos (Nat.lt_succ_self k), Option.map_map]
      congr 1
      funext score
      simp only [Function.comp_apply, linkScore, if_true, bonus]
      omega
    · rw [if_neg (Nat.ne_of_gt above), gapScore_of_lt (by omega), stepScore, if_neg (by omega)]
      rfl
  · rw [nextRow, getElem?_cellsFrom here atCell atGap, Nat.zero_add]
    rfl

/-- Each entry of the first row is the score of a trail, which is traced back from there; and every
trail ends in a column with an entry, which is not below its score. -/
structure Exact (columns : List Column) (pattern : List (List Char)) (row : Row)
    (others : List Row) : Prop where
  full : row.length = columns.length
  attained : ∀ j score, scoreAt? row j = some score →
    ∃ before, (∀ known, traceback (row :: others) j known = before.reverse ++ j :: known) ∧
      IsTrail columns pattern (j :: before) ∧ trailScore columns (j :: before) = score
  bound : ∀ j before, IsTrail columns pattern (j :: before) →
    ∃ score, scoreAt? row j = some score ∧ trailScore columns (j :: before) ≤ score

theorem origin_firstRow {columns : List Column} {p : List Char} {j : Nat} {cell : Cell}
    (atJ : (firstRow columns p)[j]? = some (some cell)) : cell.origin = none := by
  rw [firstRow, List.getElem?_map] at atJ
  obtain ⟨column, _, taken⟩ := Option.map_eq_some_iff.1 atJ
  split at taken
  · rw [← Option.some.inj taken]
  · cases taken

theorem exact_firstRow (columns : List Column) (p : List Char) :
    Exact columns [p] (firstRow columns p) [] := by
  have entry : ∀ j score, scoreAt? (firstRow columns p) j = some score ↔
      columns[j]?.map Column.folded = some p ∧ headScore columns j = score := by
    intro j score
    rw [scoreAt?, firstRow, List.getElem?_map, headScore, bonusOf]
    cases columns[j]? with
    | none => simp
    | some column => by_cases same : column.folded = p <;> simp [same]
  refine ⟨by rw [firstRow, List.length_map], ?_, ?_⟩
  · intro j score found
    obtain ⟨here, rfl⟩ := (entry j score).1 found
    refine ⟨[], ?_, ⟨here, by simp, trivial⟩, rfl⟩
    intro known
    rw [traceback]
    split
    · next k atJ => cases origin_firstRow atJ
    · rfl
  · intro j before trail
    cases before with
    | nil => exact ⟨_, (entry j _).2 ⟨trail.1, rfl⟩, Int.le_refl _⟩
    | cons k before => exact trail.2.2.elim

theorem length_nextRow {columns : List Column} {row : Row} (full : row.length = columns.length)
    (p : List Char) : (nextRow columns row p).length = columns.length := by
  refine length_cellsFrom p 0 ?_ ?_
  · rw [List.length_cons, full]
    exact Nat.le_succ _
  · rw [length_gaps, full]
    exact Nat.le_add_right _ _

theorem latest_nextRow {columns : List Column} {row : Row} (full : row.length = columns.length)
    {p : List Char} {j : Nat} {cell : Cell}
    (atJ : (nextRow columns row p)[j]? = some (some cell)) :
    columns[j]?.map Column.folded = some p ∧
      ∃ k, cell.origin = some k ∧ IsLatest (stepScore columns row j) (some ⟨cell.score, k⟩) := by
  have within : j < columns.length := by
    rw [← length_nextRow full p]
    exact (List.getElem?_eq_some_iff.1 atJ).1
  obtain ⟨link, latest, value⟩ := isLatest_nextRow full p (List.getElem?_eq_getElem within)
  rw [atJ, Option.some.injEq] at value
  split at value
  · next same =>
    obtain ⟨link, rfl, rfl⟩ := Option.map_eq_some_iff.1 value.symm
    refine ⟨?_, link.origin, rfl, latest⟩
    rw [List.getElem?_eq_getElem within, Option.map_some, same]
  · cases value

theorem stepScore_eq_some_iff {columns : List Column} {row : Row} {j k : Nat} {total : Int} :
    stepScore columns row j k = some total ↔
      k < j ∧ ∃ score, scoreAt? row k = some score ∧ total = score + linkScore columns k j := by
  rw [stepScore, Option.ite_none_right_eq_some, Option.map_eq_some_iff]
  simp only [eq_comm]

theorem entry_nextRow {columns : List Column} {row : Row} (full : row.length = columns.length)
    {p : List Char} {j : Nat} {cell : Cell}
    (atJ : (nextRow columns row p)[j]? = some (some cell)) :
    columns[j]?.map Column.folded = some p ∧ ∃ k score, cell.origin = some k ∧ k < j ∧
      scoreAt? row k = some score ∧ cell.score = score + linkScore columns k j := by
  obtain ⟨here, k, origin, handed, _⟩ := latest_nextRow full atJ
  obtain ⟨below, score, fromRow, total⟩ := stepScore_eq_some_iff.1 handed
  exact ⟨here, k, score, origin, below, fromRow, total⟩

theorem traceback_of_origin {row : Row} {j k : Nat} {cell : Cell}
    (atJ : row[j]? = some (some cell)) (origin : cell.origin = some k) (others : List Row)
    (known : List Nat) :
    traceback (row :: others) j known = traceback others k (j :: known) := by
  obtain ⟨_, _⟩ := cell
  obtain rfl : _ = some k := origin
  rw [traceback, atJ]

theorem exact_nextRow {columns : List Column} {p q : List Char} {earlier : List (List Char)}
    {row : Row} {others : List Row} (exact : Exact columns (q :: earlier) row others) :
    Exact columns (p :: q :: earlier) (nextRow columns row p) (row :: others) := by
  refine ⟨length_nextRow exact.full p, ?_, ?_⟩
  · intro j score found
    obtain ⟨cell, atJ, rfl⟩ := Option.map_eq_some_iff.1 found
    have atJ := Option.join_eq_some_iff.1 atJ
    obtain ⟨here, k, score, origin, below, fromRow, total⟩ := entry_nextRow exact.full atJ
    obtain ⟨before, back, trail, rfl⟩ := exact.attained k score fromRow
    refine ⟨k :: before, ?_, ⟨here, ?_, trail⟩, ?_⟩
    · intro known
      rw [traceback_of_origin atJ origin, back, List.reverse_cons, List.append_assoc,
        List.singleton_append]
    · intro i first
      obtain rfl : k = i := by simpa using first
      exact below
    · rw [trailScore, total, Int.add_comm]
  · intro j before trail
    obtain ⟨here, below, trail⟩ := trail
    cases before with
    | nil => exact trail.elim
    | cons k before =>
        obtain ⟨column, atJ, same⟩ := Option.map_eq_some_iff.1 here
        obtain ⟨score, fromRow, bound⟩ := exact.bound k before trail
        obtain ⟨link, latest, value⟩ := isLatest_nextRow exact.full p atJ
        have handed : stepScore columns row j k = some (score + linkScore columns k j) :=
          stepScore_eq_some_iff.2 ⟨below k rfl, score, fromRow, rfl⟩
        cases link with
        | none =>
            rw [latest k] at handed
            cases handed
        | some link =>
            refine ⟨link.score, ?_, ?_⟩
            · rw [scoreAt?, value, if_pos same]
              rfl
            · have best := latest.le handed
              rw [trailScore]
              omega

theorem le_origin_nextRow {columns : List Column} {p : List Char} {earlier : List (List Char)}
    {row : Row} {others : List Row} (exact : Exact columns earlier row others) {j k : Nat}
    {cell : Cell} (atJ : (nextRow columns row p)[j]? = some (some cell))
    (origin : cell.origin = some k) {k' : Nat} {before : List Nat}
    (trail : IsTrail columns (p :: earlier) (j :: k' :: before))
    (same : trailScore columns (j :: k' :: before) = cell.score) : k' ≤ k := by
  obtain ⟨_, latest, own, _, last⟩ := latest_nextRow exact.full atJ
  obtain rfl := Option.some.inj (origin.symm.trans own)
  obtain ⟨_, below, trail⟩ := trail
  obtain ⟨score, atK, bound⟩ := exact.bound k' before trail
  rw [trailScore] at same
  -- Column `k'` hands on as much as the origin does, which is the last that does so.
  rcases last k' _ (stepScore_eq_some_iff.2 ⟨below k' rfl, score, atK, rfl⟩) with less | ⟨_, later⟩
  · dsimp only at less
    omega
  · exact later

theorem exact_rows (columns : List Column) (p : List Char) (earlier : List (List Char)) :
    ∃ row others, rows columns (p :: earlier) = row :: others ∧
      Exact columns (p :: earlier) row others := by
  induction earlier generalizing p with
  | nil => exact ⟨_, _, rfl, exact_firstRow columns p⟩
  | cons q earlier ih =>
      obtain ⟨row, others, same, exact⟩ := ih q
      refine ⟨nextRow columns row p, row :: others, ?_, exact_nextRow exact⟩
      rw [rows, same]

end Autocomplete.Fuzzy
