import Autocomplete.Json.Basic
import Autocomplete.Number.Literal

namespace Autocomplete.Json

def whole? : Json → Option Int
  | whole value => some value
  | bool value => some (if value then 1 else 0)
  | decimal value => if value.isWhole then value.truncate? else none
  | _ => none

def toWhole? : Json → Option Int
  | whole value => some value
  | bool value => some (if value then 1 else 0)
  | decimal value => value.truncate?
  | string value => Number.ofTyped? value
  | _ => none

end Autocomplete.Json
