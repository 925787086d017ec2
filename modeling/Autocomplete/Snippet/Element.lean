import Autocomplete.Number.Decimal

namespace Autocomplete

inductive Element where
  | text (value : String)
  | tabstop (index : Int)
  | placeholder (index : Int) (children : List Element)
  deriving Repr, Inhabited

structure Span where
  index : Int
  start : Int
  stop : Int
  deriving DecidableEq, Repr

namespace Element

mutual

def chars : Element → List Char
  | text value => value.toList
  | tabstop _ => []
  | placeholder _ children => charsAll children

def charsAll : List Element → List Char
  | [] => []
  | element :: rest => element.chars ++ charsAll rest

end

mutual

def length : Element → Nat
  | text value => value.length
  | tabstop _ => 0
  | placeholder _ children => lengthAll children

def lengthAll : List Element → Nat
  | [] => 0
  | element :: rest => element.length + lengthAll rest

end

mutual

def template : Element → List Char
  | text value => value.toList
  | tabstop index => '$' :: Number.decimal index
  | placeholder index children =>
    '$' :: '\x7b' :: Number.decimal index ++ ':' :: templateAll children ++ ['\x7d']

def templateAll : List Element → List Char
  | [] => []
  | element :: rest => element.template ++ templateAll rest

end

mutual

/-- The spans of an element's stops when its text starts at `start`; a placeholder comes before the
stops inside it. -/
def spans (start : Int) : Element → List Span
  | text _ => []
  | tabstop index => [⟨index, start, start⟩]
  | placeholder index children =>
    ⟨index, start, start + lengthAll children⟩ :: spansAll start children

def spansAll (start : Int) : List Element → List Span
  | [] => []
  | element :: rest => element.spans start ++ spansAll (start + element.length) rest

end

mutual

theorem length_chars : (element : Element) → element.chars.length = element.length
  | text value => by rw [chars, length, String.length_toList]
  | tabstop _ => rfl
  | placeholder _ children => by rw [chars, length, length_charsAll children]

theorem length_charsAll : (elements : List Element) →
    (charsAll elements).length = lengthAll elements
  | [] => rfl
  | element :: rest => by
    rw [charsAll, lengthAll, List.length_append, length_chars element, length_charsAll rest]

end

mutual

def decideEq : (a b : Element) → Decidable (a = b)
  | text v, text w => if h : v = w then isTrue (by rw [h]) else isFalse (by simp [h])
  | tabstop i, tabstop j => if h : i = j then isTrue (by rw [h]) else isFalse (by simp [h])
  | placeholder i as, placeholder j bs =>
    if h : i = j then
      match decideEqAll as bs with
      | isTrue same => isTrue (by rw [h, same])
      | isFalse differ => isFalse (by simp [differ])
    else isFalse (by simp [h])
  | text _, tabstop _ | text _, placeholder .. | tabstop _, text _ | tabstop _, placeholder ..
  | placeholder .., text _ | placeholder .., tabstop _ => isFalse nofun

def decideEqAll : (as bs : List Element) → Decidable (as = bs)
  | [], [] => isTrue rfl
  | a :: as, b :: bs =>
    match decideEq a b, decideEqAll as bs with
    | isTrue same, isTrue sameRest => isTrue (by rw [same, sameRest])
    | isFalse differ, _ => isFalse (by simp [differ])
    | _, isFalse differ => isFalse (by simp [differ])
  | [], _ :: _ | _ :: _, [] => isFalse nofun

end

instance : DecidableEq Element := decideEq

end Element

structure Snippet where
  elements : List Element
  deriving DecidableEq, Repr

namespace Snippet

def text (snippet : Snippet) : String := String.ofList (Element.charsAll snippet.elements)

def length (snippet : Snippet) : Nat := Element.lengthAll snippet.elements

def isEmpty (snippet : Snippet) : Bool := snippet.length == 0

def template (snippet : Snippet) : String :=
  String.ofList (Element.templateAll snippet.elements)

def spans (snippet : Snippet) (start : Int) : List Span :=
  Element.spansAll start snippet.elements

theorem length_text (snippet : Snippet) : snippet.text.length = snippet.length := by
  simp [text, length, Element.length_charsAll]

end Snippet

end Autocomplete
