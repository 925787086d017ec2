import Autocomplete.Fuzzy.Alignment

/-!
# The score table

The table has a row for each character of the pattern and a cell for each column where that
character may be matched: the best score of the pattern up to there, and where the character before
it was matched. A row comes from the one before it in a single pass. A register follows that row two
columns behind, with the best score that a gap can start from; of two equally good starts it keeps
the later.

The rows stand in reverse, the one of the last character first, as do the characters they belong to.
-/

namespace Autocomplete.Fuzzy

/-- The best score with the row's character at some column, and the column of the character before
it; the first character has none before it. -/
structure Cell where
  score : Int
  origin : Option Nat
  deriving DecidableEq, Repr

abbrev Row := List (Option Cell)

structure Link where
  score : Int
  origin : Nat
  deriving DecidableEq, Repr

def firstRow (columns : List Column) (p : List Char) : Row :=
  columns.map fun column =>
    if column.folded = p then some ⟨matchScore + 2 * column.bonus, none⟩ else none

def advance (k : Nat) (gap : Option Link) : Option Cell → Option Link
  | none => gap.map fun link => ⟨link.score - gapExtension, link.origin⟩
  | some cell =>
    let opened : Link := ⟨cell.score - gapOpening, k⟩
    match gap with
    | none => some opened
    | some link =>
      if link.score - gapExtension ≤ opened.score then some opened
      else some ⟨link.score - gapExtension, link.origin⟩

def gapsFrom (k : Nat) (gap : Option Link) : Row → List (Option Link)
  | [] => []
  | cell :: row =>
    let gap := advance k gap cell
    gap :: gapsFrom (k + 1) gap row

def gaps (previous : Row) : List (Option Link) := none :: none :: gapsFrom 0 none previous

def better : (run gap : Option Link) → Option Link
  | none, gap => gap
  | some run, none => some run
  | some run, some gap => if run.score < gap.score then some gap else some run

def cellsFrom (p : List Char) (j : Nat) : List Column → (before : Row) → List (Option Link) → Row
  | column :: columns, cell :: before, gap :: gaps =>
    let run : Option Link := cell.map fun cell => ⟨cell.score + max runBonus column.bonus, j - 1⟩
    let here : Option Cell :=
      if column.folded = p then
        (better run gap).map fun link => ⟨link.score + matchScore + column.bonus, some link.origin⟩
      else none
    here :: cellsFrom p (j + 1) columns before gaps
  | _, _, _ => []

def nextRow (columns : List Column) (previous : Row) (p : List Char) : Row :=
  cellsFrom p 0 columns (none :: previous) (gaps previous)

def rows (columns : List Column) : List (List Char) → List Row
  | [] => []
  | p :: earlier =>
    match rows columns earlier with
    | [] => [firstRow columns p]
    | previous :: others => nextRow columns previous p :: previous :: others

def bestFrom (j : Nat) (best : Option Link) : Row → Option Link
  | [] => best
  | none :: row => bestFrom (j + 1) best row
  | some cell :: row =>
    match best with
    | none => bestFrom (j + 1) (some ⟨cell.score, j⟩) row
    | some link =>
      if link.score < cell.score then bestFrom (j + 1) (some ⟨cell.score, j⟩) row
      else bestFrom (j + 1) (some link) row

def best (row : Row) : Option Link := bestFrom 0 none row

def traceback : List Row → (j : Nat) → (known : List Nat) → List Nat
  | [], _, known => known
  | row :: others, j, known =>
    match row[j]? with
    | some (some ⟨_, some k⟩) => traceback others k (j :: known)
    | _ => j :: known

end Autocomplete.Fuzzy
