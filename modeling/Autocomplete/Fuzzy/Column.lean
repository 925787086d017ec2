import Autocomplete.Index
import Autocomplete.Text.Case
import Autocomplete.Text.Letters
import Autocomplete.Text.Numerals

namespace Autocomplete.Fuzzy

def matchScore : Int := 16

def boundaryBonus : Int := 8

def separatorBonus : Int := 8

def humpBonus : Int := 7

def isAlphanumeric (c : Char) : Bool := Text.isLetter c || Text.isNumeral c

def bonus (previous : Option Char) (c : Char) : Int :=
  if isAlphanumeric c then
    match previous with
    | none => boundaryBonus
    | some before =>
      if !isAlphanumeric before then boundaryBonus
      else if Text.isLowercase before && Text.isUppercase c then humpBonus
      else if Text.isLetter before && Text.isDigit c then humpBonus
      else 0
  else separatorBonus

theorem bonus_nonneg (previous : Option Char) (c : Char) : 0 ≤ bonus previous c := by
  unfold bonus
  repeat' split
  all_goals decide

theorem bonus_le (previous : Option Char) (c : Char) : bonus previous c ≤ 8 := by
  unfold bonus
  repeat' split
  all_goals decide

/-- The bonus of the character at an index; the character before it is looked up only if the bonus
depends on it. -/
def bonusAt (cs : List Char) (i : Int) : Except NoElement Int := do
  let c ← elementAt cs i
  if i = 0 ∨ !isAlphanumeric c then return bonus none c
  else return bonus (some (← elementAt cs (i - 1))) c

structure Column where
  folded : List Char
  bonus : Int
  deriving DecidableEq, Repr

def columnsAfter (previous : Option Char) : List Char → List Column
  | [] => []
  | c :: cs => ⟨Text.lowercase c, bonus previous c⟩ :: columnsAfter (some c) cs

def columns (cs : List Char) : List Column := columnsAfter none cs

@[simp] theorem length_columnsAfter (previous : Option Char) (cs : List Char) :
    (columnsAfter previous cs).length = cs.length := by
  induction cs generalizing previous with
  | nil => rfl
  | cons c cs ih => simp [columnsAfter, ih]

@[simp] theorem length_columns (cs : List Char) : (columns cs).length = cs.length :=
  length_columnsAfter none cs

theorem map_folded_columnsAfter (previous : Option Char) (cs : List Char) :
    (columnsAfter previous cs).map Column.folded = cs.map Text.lowercase := by
  induction cs generalizing previous with
  | nil => rfl
  | cons c cs ih => simp [columnsAfter, ih]

end Autocomplete.Fuzzy
