import Autocomplete.Fuzzy.Scorer
import Autocomplete.Number.Decimal
import Autocomplete.Settings

namespace Autocomplete

inductive Failure where
  | staleRequest (requested current : Int)
  | scorerFailed (failure : ScorerFailure)
  | nothingSelected
  | settingsRefused (error : SettingsError)
  | tooManyDigits (overflow : Number.DigitOverflow)
  deriving DecidableEq, Repr

def Failure.message : Failure → String
  | staleRequest requested current =>
    "Request id " ++ Number.text requested ++ " is not newer than the current " ++
      Number.text current
  | scorerFailed failure => failure.message
  | nothingSelected => "tuple index out of range"
  | settingsRefused error => error.message
  | tooManyDigits overflow => overflow.message

end Autocomplete
