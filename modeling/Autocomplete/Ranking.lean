import Autocomplete.Fuzzy.Scorer
import Autocomplete.Item.Basic
import Autocomplete.Text.Occurrence

namespace Autocomplete

structure Candidate where
  item : Item
  score : Int := 0
  labelScore : Int := 0
  indices : List Int := []
  deriving DecidableEq, Repr

namespace Candidate

/-- The candidate stands before the other one, or they are equally good. -/
def precedes (a b : Candidate) : Bool :=
  b.score < a.score ||
    (a.score == b.score &&
      (b.labelScore < a.labelScore ||
        (a.labelScore == b.labelScore && a.item.label.length ≤ b.item.label.length)))

end Candidate

def Item.candidate (item : Item) (shift : Nat) (found : Match) (label : Option Match) : Candidate :=
  ⟨item, found.score, (label.map Match.score).getD found.score,
    found.indices.map fun i => i + (shift : Int)⟩

/-- Rates an item for an input, if the item takes part in the ranking. -/
def Scorer.rate (scorer : Scorer) (input : String) (item : Item) :
    Except ScorerFailure (Option Candidate) :=
  match Text.occurrence? item.filter.toList item.label.toList with
  | none => .ok none
  | some shift =>
    match scorer item.filter input with
    | .error failure => .error failure
    | .ok none => .ok none
    | .ok (some found) =>
      match scorer item.label input with
      | .error failure => .error failure
      | .ok label => .ok (some (item.candidate shift found label))

def Scorer.rateAll (scorer : Scorer) (input : String) : List Item →
    Except ScorerFailure (List Candidate)
  | [] => .ok []
  | item :: rest =>
    match scorer.rate input item with
    | .error failure => .error failure
    | .ok rated =>
      match scorer.rateAll input rest with
      | .error failure => .error failure
      | .ok others => .ok (rated.toList ++ others)

def Scorer.rank (scorer : Scorer) (input : String) (items : List Item) :
    Except ScorerFailure (List Candidate) :=
  match scorer.rateAll input items with
  | .error failure => .error failure
  | .ok candidates => .ok (candidates.mergeSort Candidate.precedes)

end Autocomplete
