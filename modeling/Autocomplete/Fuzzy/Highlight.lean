namespace Autocomplete.Fuzzy

def highlightFrom (start stop : List Char) (indices : List Int) : (i : Nat) → List Char → List Char
  | _, [] => []
  | i, c :: cs =>
    (if indices.contains (i : Int) then start ++ c :: stop else [c]) ++
      highlightFrom start stop indices (i + 1) cs

def highlight (label : String) (indices : List Int) (start : String := "[") (stop : String := "]") :
    String :=
  String.ofList (highlightFrom start.toList stop.toList indices 0 label.toList)

end Autocomplete.Fuzzy
