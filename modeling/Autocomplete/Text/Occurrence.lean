namespace Autocomplete.Text

def occurrence? (part : List Char) : List Char → Option Nat
  | [] => if part = [] then some 0 else none
  | c :: cs => if part.isPrefixOf (c :: cs) then some 0 else (occurrence? part cs).map (· + 1)

end Autocomplete.Text
