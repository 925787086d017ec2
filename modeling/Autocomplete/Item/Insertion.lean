import Autocomplete.Item.Basic
import Autocomplete.Snippet.Reader

namespace Autocomplete

structure Insertion where
  text : String
  stops : List Span := []
  deriving DecidableEq, Repr

/-- The insertion of an item at an offset. A snippet is expanded if the editor supports snippets. -/
def Item.insertion (item : Item) (offset : Int) (snippetSupport : Bool) :
    Except Number.DigitOverflow Insertion :=
  if snippetSupport ∧ item.format = some .snippet then
    match Snippet.ofTemplate item.newText with
    | .ok snippet => .ok ⟨snippet.text, snippet.spans offset⟩
    | .error overflow => .error overflow
  else .ok ⟨item.newText, []⟩

end Autocomplete
