import Autocomplete.Item.Basic
import Autocomplete.Json.Whole
import Autocomplete.Position
import Autocomplete.Text.Occurrence

namespace Autocomplete.Item

def present? (json : Json) (key : String) : Option Json :=
  match json.get? key with
  | some .null => none
  | other => other

def absentOr (json : Json) (key : String) (valid : Json → Bool) : Bool :=
  (present? json key).all valid

def isOneOf (count : Int) (json : Json) : Bool := json.whole?.any fun n => 1 ≤ n && n ≤ count

def isEach (valid : Json → Bool) (json : Json) : Bool := json.visited?.any (·.all valid)

def isCoordinate (json : Json) : Bool := json.toWhole?.any Position.isCoordinate

def isPosition (json : Json) : Bool :=
  (json.get? "line").any isCoordinate && (json.get? "character").any isCoordinate

def isRange (json : Json) : Bool :=
  (json.get? "start").any isPosition && (json.get? "end").any isPosition

def isRangeEdit (json : Json) : Bool :=
  (json.get? "range").any isRange && (json.get? "newText").isSome

def isInsertOrReplaceEdit (json : Json) : Bool :=
  (json.get? "insert").any isRange && (json.get? "replace").any isRange &&
    (json.get? "newText").isSome

def isEdit (json : Json) : Bool :=
  if (json.get? "insert").isSome then isInsertOrReplaceEdit json else isRangeEdit json

def isCommand (json : Json) : Bool :=
  (json.get? "title").isSome && (json.get? "command").isSome &&
    absentOr json "arguments" (isEach fun _ => true)

def isScalar : Json → Bool
  | .bool _ | .whole _ | .decimal _ | .string _ => true
  | _ => false

def isMarkupKind : Json → Bool
  | .string kind => kind == "plaintext" || kind == "markdown"
  | _ => false

def isMarkup (json : Json) : Bool :=
  (json.get? "kind").any isMarkupKind && (json.get? "value").isSome

def isCode (json : Json) : Bool := (json.get? "language").isSome && (json.get? "value").isSome

def isDocumentation (json : Json) : Bool :=
  match json with
  | .list parts => parts.all fun part => isScalar part || isCode part
  | .object _ => if (json.get? "kind").isSome then isMarkup json else isCode json
  | _ => isScalar json

def holds? (key : String) : Json → Option Bool
  | .object members => some ((Entries.find? key members).isSome)
  | .list values => some (values.any fun
    | .string value => value == key
    | _ => false)
  | .string value => some (Text.occurrence? key.toList value.toList).isSome
  | _ => none

/-- The details are searched for two keys, but members are taken from an object only. -/
def areLabelDetails (json : Json) : Bool :=
  match json with
  | .object _ => true
  | _ => holds? "detail" json == some false && holds? "description" json == some false

/-- The members that do not show in the item, and what their values should be. The kinds are open:
any scalar may stand for a further one. -/
def otherMembers : List (String × (Json → Bool)) :=
  [("labelDetails", areLabelDetails), ("kind", isScalar), ("tags", isEach (isOneOf 1)),
    ("documentation", isDocumentation), ("insertTextMode", isOneOf 2),
    ("additionalTextEdits", isEach isRangeEdit), ("commitCharacters", isEach fun _ => true),
    ("command", isCommand)]

def format? (json : Json) : Option (Option TextFormat) :=
  match present? json "insertTextFormat" with
  | none => some none
  | some format => match format.whole? with
    | some 1 => some (some .plain)
    | some 2 => some (some .snippet)
    | _ => none

def editText? (json : Json) : Option (Option String) :=
  match present? json "textEdit" with
  | none => some none
  | some edit => if isEdit edit then (edit.get? "newText").map fun text => some text.text else none

def otherMembersValid (json : Json) : Bool :=
  otherMembers.all fun (key, valid) => absentOr json key valid

def decode? (json : Json) : Option Item := do
  let label ← json.get? "label"
  let format ← format? json
  let editText ← editText? json
  if otherMembersValid json then
    return ⟨label.text, (present? json "filterText").map Json.text,
      (present? json "insertText").map Json.text, format, editText⟩
  else none

def undecodable (jsons : List Json) : Nat := jsons.countP fun json => (decode? json).isNone

def decodeAll (jsons : List Json) : Except Nat (List Item) :=
  if undecodable jsons = 0 then .ok (jsons.filterMap decode?) else .error (undecodable jsons)

theorem decodeAll_eq_ok_iff {jsons : List Json} {items : List Item} :
    decodeAll jsons = .ok items ↔ jsons.map decode? = items.map some := by
  unfold decodeAll undecodable
  induction jsons generalizing items with
  | nil => cases items <;> simp
  | cons json rest ih =>
    cases h : decode? json with
    | none => cases items <;> simp [h]
    | some item =>
      cases items with
      | nil =>
        simp only [List.countP_cons, h, Option.isNone_some, Bool.false_eq_true, if_false,
          Nat.add_zero, List.filterMap_cons, List.map_cons, List.map_nil]
        split <;> simp
      | cons head tail =>
        have := @ih tail
        simp only [List.countP_cons, h, Option.isNone_some, Bool.false_eq_true, if_false,
          Nat.add_zero, List.filterMap_cons, List.map_cons, List.cons.injEq, Option.some.injEq]
        rw [← this]
        split <;> simp

end Autocomplete.Item
