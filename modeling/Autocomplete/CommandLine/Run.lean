import Autocomplete.CommandLine.Files
import Autocomplete.CommandLine.Options
import Autocomplete.Controller.Basic
import Autocomplete.Fuzzy.Highlight
import Autocomplete.Json.Reader
import Autocomplete.Text.Padding

namespace Autocomplete.CommandLine

inductive RunFailure where
  | file (path : String) (fault : FileFault)
  | malformedJson
  | tooManyDigits (overflow : Number.DigitOverflow)
  | unprintable
  | settingsRefused (error : SettingsError)
  | noElements
  | undecodableItems (count : Nat)
  | valueAbsent
  | operation (failure : Failure)
  deriving DecidableEq, Repr

def RunFailure.message? : RunFailure → Option String
  | file path fault => fault.message? path
  | tooManyDigits overflow => some overflow.message
  | unprintable => some (Number.limitMessage "")
  | settingsRefused error => some error.message
  | operation failure => some failure.message
  | malformedJson | noElements | undecodableItems _ | valueAbsent => none

structure Run where
  output : String
  result : Except RunFailure Nat

def Run.after (printed : String) (run : Run) : Run := { run with output := printed ++ run.output }

def readJson (files : Files) (path : String) : Except RunFailure Json :=
  match files path with
  | .error fault => .error (.file path fault)
  | .ok text =>
    match Json.read text with
    | .ok json => .ok json
    | .error .malformed => .error .malformedJson
    | .error (.tooManyDigits overflow) => .error (.tooManyDigits overflow)
    -- Half of a surrogate pair could not be printed. As no text has it, the command does not wait
    -- until it comes to print it.
    | .error .loneSurrogate => .error (.file path .unreadable)

def readSettings (files : Files) (path : Option String) : Except RunFailure Settings :=
  match path with
  | none | some "" => .ok {}
  | some path => do (Settings.ofJson (← readJson files path)).mapError .settingsRefused

/-- The items of a JSON value: a list of items, or an object that may have such a list as its member
`items`. -/
def itemsOf (json : Json) : Except RunFailure (List Item) :=
  let payload := match json with
    | .object _ => (json.get? "items").getD (.list [])
    | _ => json
  match payload.visited? with
  | none => .error .noElements
  | some jsons => (Item.decodeAll jsons).mapError .undecodableItems

def tabLine (index start stop : String) : String :=
  "tab " ++ index ++ ": " ++ start ++ "-" ++ stop ++ "\n"

def spanLine? (span : Span) : Option String := do
  return tabLine (← Number.printed? span.index) (← Number.printed? span.start)
    (← Number.printed? span.stop)

def printSpans : List Span → Run
  | [] => ⟨"", .ok 0⟩
  | span :: rest =>
    match spanLine? span with
    | some line => (printSpans rest).after line
    | none => ⟨"", .error .unprintable⟩

def tabstopIndices? (elements : List Element) : Option (List Int) :=
  elements.mapM fun element =>
    match element with
    | .tabstop index => some index
    | _ => none

/-- Prints the stops of a snippet. Without an offset a tabstop lies at an empty place, and no text
can lie before another element. -/
def printStops (snippet : Snippet) : (offset : Option Int) → Run
  | some offset => printSpans (snippet.spans offset)
  | none =>
    match tabstopIndices? snippet.elements with
    | some indices =>
      ⟨String.join (indices.map fun index => tabLine (Number.text index) "[]" "[]"), .ok 0⟩
    | none => ⟨"", .error .valueAbsent⟩

def showSnippet (template : String) (offset : Option Int) : Run :=
  match Snippet.ofTemplate template with
  | .error overflow => ⟨"", .error (.tooManyDigits overflow)⟩
  | .ok snippet =>
    (printStops snippet offset).after ("text: " ++ Text.quoted snippet.text ++ "\n" ++
      "canonical: " ++ Text.quoted snippet.template ++ "\n")

def column (score : Int) : String := Text.padLeft 5 (Number.text score)

def rowLine (selected : Bool) (candidate : Candidate) : String :=
  (if selected then ">" else " ") ++ " " ++ column candidate.score ++ " " ++
    column candidate.labelScore ++ " " ++
    Fuzzy.highlight candidate.item.label candidate.indices ++ "\n"

def rowLines (index : Nat) : (row : Nat) → List Candidate → String
  | _, [] => ""
  | row, candidate :: rest => rowLine (row == index) candidate ++ rowLines index (row + 1) rest

def showing (settings : Settings) (file : String) (items : List Item) (input : String) :
    Controller :=
  let requested := (Controller.new .fuzzy settings).trigger [.fixed items] (.name file) ⟨0, 0⟩ none
  (requested.controller.deliverAll.controller.enter input).controller

def moveDown (rows : Nat) (controller : Controller) : Controller :=
  Nat.repeat (fun controller => controller.next.controller) rows controller

def printSelection (controller : Controller) : Run :=
  let rows := rowLines controller.session.index 0 controller.session.displayed.candidates
  match controller.insertion 0 with
  | .error failure => ⟨rows, .error (.operation failure)⟩
  | .ok insertion =>
    (printSpans insertion.stops).after (rows ++ "insert: " ++ Text.quoted insertion.text ++ "\n")

def showRanking (files : Files) (file : String) (input config : Option String)
    (select : Option Int) : Run :=
  match readSettings files config with
  | .error failure => ⟨"", .error failure⟩
  | .ok settings =>
    match (readJson files file).bind itemsOf with
    | .error failure => ⟨"", .error failure⟩
    | .ok items =>
      match input with
      | none => ⟨"", .error .valueAbsent⟩
      | some input =>
        let controller := showing settings file items input
        if controller.session.isEmpty then
          ⟨"No completion matches \x22" ++ input ++ "\x22\n", .ok 1⟩
        else match select with
        | none => ⟨"", .error .valueAbsent⟩
        | some select => printSelection (moveDown select.toNat controller)

def Command.run (files : Files) : Command → Run
  | snippet template offset => showSnippet template offset
  | rank file input config select => showRanking files file input config.join select

def Command.paths : Command → List String
  | snippet .. => []
  | rank file _ config _ => config.join.toList ++ [file]

end Autocomplete.CommandLine
