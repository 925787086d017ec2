import Autocomplete.Fuzzy.Matcher

namespace Autocomplete

structure Match where
  score : Int
  indices : List Int
  deriving DecidableEq, Repr

structure ScorerFailure where
  message : String
  deriving DecidableEq, Repr

/-- Rates a candidate, given first, for an input. -/
abbrev Scorer := String → String → Except ScorerFailure (Option Match)

namespace Scorer

def fuzzy : Scorer := fun choice input =>
  .ok ((Fuzzy.align? choice input).map fun alignment =>
    ⟨alignment.score, alignment.positions.map Int.ofNat⟩)

def beginning : Scorer := fun choice input =>
  if input.toList.isPrefixOf choice.toList then
    .ok (some ⟨choice.length, (List.range input.length).map Int.ofNat⟩)
  else .ok none

inductive Rating where
  | rated (result : Match)
  | failing
  deriving DecidableEq, Repr

def ofTable (table : List (String × Rating)) : Scorer := fun choice _ =>
  match table.lookup choice with
  | none => .ok none
  | some (.rated result) => .ok (some result)
  | some .failing => .error ⟨"scorer failed on " ++ choice⟩

def Total (scorer : Scorer) : Prop := ∀ choice input, ∃ result, scorer choice input = .ok result

theorem total_fuzzy : fuzzy.Total := fun _ _ => ⟨_, rfl⟩

end Scorer

end Autocomplete
