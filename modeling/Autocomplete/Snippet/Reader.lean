import Autocomplete.Snippet.Element
import Autocomplete.Snippet.Token

/-!
# Reading a template

The tokens of a template are read from left to right with a stack of the placeholders that are open.
Inside a placeholder a closing brace or a stray character ends the default text and is dropped. At
the top a closing brace is literal, and a stray character ends the reading: what is left is not part
of the snippet. At the end of the template the open placeholders are closed.

Every template reads as a snippet unless a stop has more than `Number.digitLimit` digits. A template
may be nested to any depth here: the limit that an interpreter sets to its own recursion is left out
of the model.
-/

namespace Autocomplete.Snippet

structure Level where
  index : Int
  before : List Element
  deriving Repr

/-- The elements read on the innermost level, the latest first, and the open placeholders, the
innermost first. -/
structure Progress where
  elements : List Element := []
  levels : List Level := []
  deriving Repr

namespace Progress

def push (progress : Progress) (element : Element) : Progress :=
  { progress with elements := element :: progress.elements }

def literal (progress : Progress) (c : Char) : Progress :=
  match progress.elements with
  | .text value :: rest => { progress with elements := .text (value.push c) :: rest }
  | elements => { progress with elements := .text (String.singleton c) :: elements }

def openLevel (progress : Progress) (index : Int) : Progress :=
  ⟨[], ⟨index, progress.elements⟩ :: progress.levels⟩

def closed (elements : List Element) (level : Level) : List Element :=
  .placeholder level.index elements.reverse :: level.before

def finish (progress : Progress) : List Element :=
  (progress.levels.foldl closed progress.elements).reverse

end Progress

/-- What was read of a template: the elements, the tokens that were left, and the number of
placeholders that lacked their closing brace. -/
structure Reading where
  elements : List Element
  unread : List Token
  unclosed : Nat
  deriving Repr

def readTokens (progress : Progress) : List Token → Except Number.DigitOverflow Reading
  | [] => .ok ⟨progress.finish, [], progress.levels.length⟩
  | token :: rest =>
    match token with
    | .plain c => readTokens (progress.literal c) rest
    | .escaped c => readTokens (progress.literal c) rest
    | .tabstop digits _ =>
      match Number.ofDigits digits with
      | .ok index => readTokens (progress.push (.tabstop index)) rest
      | .error overflow => .error overflow
    | .emptyDefault digits =>
      match Number.ofDigits digits with
      | .ok index => readTokens (progress.push (.placeholder index [.text ""])) rest
      | .error overflow => .error overflow
    | .opening digits =>
      match Number.ofDigits digits with
      | .ok index => readTokens (progress.openLevel index) rest
      | .error overflow => .error overflow
    | .brace =>
      match progress.levels with
      | [] => readTokens (progress.literal '\x7d') rest
      | level :: levels => readTokens ⟨Progress.closed progress.elements level, levels⟩ rest
    | .stray c =>
      match progress.levels with
      | [] => .ok ⟨progress.finish, .stray c :: rest, 0⟩
      | level :: levels => readTokens ⟨Progress.closed progress.elements level, levels⟩ rest

def readChars (cs : List Char) : Except Number.DigitOverflow Reading := readTokens {} (tokens cs)

/-- Where the reading of a template stopped. A missing brace counts as a position. -/
def stopOf (cs : List Char) (reading : Reading) : Nat :=
  cs.length - (source reading.unread).length + reading.unclosed

def read (template : String) : Except Number.DigitOverflow (Snippet × Nat) :=
  match readChars template.toList with
  | .ok reading => .ok (⟨reading.elements⟩, stopOf template.toList reading)
  | .error overflow => .error overflow

def ofTemplate (template : String) : Except Number.DigitOverflow Snippet :=
  match readChars template.toList with
  | .ok reading => .ok ⟨reading.elements⟩
  | .error overflow => .error overflow

end Autocomplete.Snippet
