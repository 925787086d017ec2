import Autocomplete.Fuzzy.Column

namespace Autocomplete.Fuzzy

def runBonus : Int := 4

def gapOpening : Int := 3

def gapExtension : Int := 1

def IsAlignment (columns : List Column) (pattern : List (List Char)) (positions : List Nat) :
    Prop :=
  positions.Pairwise (· < ·) ∧
    positions.map (fun j => columns[j]?.map Column.folded) = pattern.map some

def bonusOf (columns : List Column) (j : Nat) : Int := (columns[j]?.map Column.bonus).getD 0

def headScore (columns : List Column) (j : Nat) : Int := matchScore + 2 * bonusOf columns j

def linkScore (columns : List Column) (k j : Nat) : Int :=
  matchScore + bonusOf columns j +
    if j = k + 1 then max runBonus (bonusOf columns j)
    else -(gapOpening + gapExtension * ((j : Int) - k - 2))

def tailScore (columns : List Column) : (k : Nat) → List Nat → Int
  | _, [] => 0
  | k, j :: rest => linkScore columns k j + tailScore columns j rest

def alignmentScore (columns : List Column) : List Nat → Int
  | [] => 0
  | j :: rest => headScore columns j + tailScore columns j rest

end Autocomplete.Fuzzy
