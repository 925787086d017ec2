namespace Autocomplete.Text

def blanks (n : Nat) : String := String.ofList (List.replicate n ' ')

def padLeft (width : Nat) (text : String) : String := blanks (width - text.length) ++ text

def padRight (width : Nat) (text : String) : String := text ++ blanks (width - text.length)

end Autocomplete.Text
