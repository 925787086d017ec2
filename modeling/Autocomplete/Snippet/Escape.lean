namespace Autocomplete.Snippet

def isSpecial (c : Char) : Bool := c == '$' || c == '\\' || c == '\x7d'

def escapeChar (c : Char) : List Char := if isSpecial c then ['\\', c] else [c]

def escapeChars (cs : List Char) : List Char := cs.flatMap escapeChar

@[simp] theorem escapeChars_nil : escapeChars [] = [] := rfl

@[simp] theorem escapeChars_cons (c : Char) (cs : List Char) :
    escapeChars (c :: cs) = escapeChar c ++ escapeChars cs := rfl

def escape (text : String) : String := String.ofList (escapeChars text.toList)

end Autocomplete.Snippet
