namespace Autocomplete

inductive TextFormat where
  | plain
  | snippet
  deriving DecidableEq, Repr

structure Item where
  label : String
  filterText : Option String := none
  insertText : Option String := none
  format : Option TextFormat := none
  editText : Option String := none
  deriving DecidableEq, Repr, Inhabited

namespace Item

def filter (item : Item) : String := item.filterText.getD item.label

/-- The text that the item inserts: that of its edit, else its insertion text unless that is empty,
else its label. -/
def newText (item : Item) : String :=
  match item.editText, item.insertText with
  | some text, _ => text
  | none, some text => if text = "" then item.label else text
  | none, none => item.label

end Item

end Autocomplete
