import Autocomplete.Entries
import Autocomplete.Number.Shortest
import Autocomplete.Text.Quoted

namespace Autocomplete

inductive Json where
  | null
  | bool (value : Bool)
  | whole (value : Int)
  | decimal (value : Number.Binary64)
  | string (value : String)
  | list (values : List Json)
  | object (members : List (String × Json))
  deriving Repr, Inhabited

namespace Json

def get? (key : String) : Json → Option Json
  | object members => Entries.find? key members
  | _ => none

def isTruthy : Json → Bool
  | null => false
  | bool value => value
  | whole value => value != 0
  | decimal value => !value.isZero
  | string value => value != ""
  | list values => !values.isEmpty
  | object members => !members.isEmpty

def typeName : Json → String
  | null => "NoneType"
  | bool _ => "bool"
  | whole _ => "int"
  | decimal _ => "float"
  | string _ => "str"
  | list _ => "list"
  | object _ => "dict"

def visited? : Json → Option (List Json)
  | list values => some values
  | object members => some (members.map fun member => string member.1)
  | string value => some (value.toList.map fun c => string (String.singleton c))
  | _ => none

mutual

def quoted : Json → String
  | null => "None"
  | bool value => if value then "True" else "False"
  | whole value => Number.text value
  | decimal value => value.text
  | string value => Text.quoted value
  | list values => "[" ++ ", ".intercalate (quotedAll values) ++ "]"
  | object members => "\x7b" ++ ", ".intercalate (quotedMembers members) ++ "\x7d"

def quotedAll : List Json → List String
  | [] => []
  | value :: rest => quoted value :: quotedAll rest

def quotedMembers : List (String × Json) → List String
  | [] => []
  | (key, value) :: rest => (Text.quoted key ++ ": " ++ quoted value) :: quotedMembers rest

end

def text : Json → String
  | string value => value
  | value => quoted value

end Json

end Autocomplete
