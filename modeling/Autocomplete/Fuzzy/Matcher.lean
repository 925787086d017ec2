import Autocomplete.Fuzzy.Table

namespace Autocomplete.Fuzzy

structure Alignment where
  score : Int
  positions : List Nat
  deriving DecidableEq, Repr

def alignFolded? (columns : List Column) (pattern : List (List Char)) : Option Alignment :=
  if pattern.isEmpty then some ⟨0, []⟩
  else if columns.length < pattern.length then none
  else if !pattern.isSublist (columns.map Column.folded) then none
  else
    match rows columns pattern.reverse with
    | [] => none
    | row :: others =>
      match best row with
      | none => none
      | some link => some ⟨link.score, traceback (row :: others) link.origin []⟩

def align? (choice pattern : String) : Option Alignment :=
  alignFolded? (columns choice.toList) (pattern.toList.map Text.lowercase)

def hasSubsequence (choice pattern : String) : Bool := pattern.toList.isSublist choice.toList

end Autocomplete.Fuzzy
