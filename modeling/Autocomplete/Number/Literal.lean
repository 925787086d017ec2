import Autocomplete.Number.Decimal
import Autocomplete.Text.Blank
import Autocomplete.Text.Numerals

namespace Autocomplete.Number

def typedDigits? : List Char → Option (List Nat)
  | [] => none
  | [c] => (Text.decimalValue? c).map ([·])
  | c :: '_' :: rest => do return (← Text.decimalValue? c) :: (← typedDigits? rest)
  | c :: rest => do return (← Text.decimalValue? c) :: (← typedDigits? rest)

def ofDigitValues (values : List Nat) : Nat :=
  values.foldl (fun n digit => 10 * n + digit) 0

def typedNatural? (cs : List Char) : Option Nat := do
  let values ← typedDigits? cs
  if values.length ≤ digitLimit then some (ofDigitValues values) else none

def ofTyped? (text : String) : Option Int :=
  match Text.strip text.toList with
  | '+' :: cs => (typedNatural? cs).map Int.ofNat
  | '-' :: cs => (typedNatural? cs).map fun n => -Int.ofNat n
  | cs => (typedNatural? cs).map Int.ofNat

end Autocomplete.Number
