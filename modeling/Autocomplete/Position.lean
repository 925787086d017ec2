import Autocomplete.Json.Basic

namespace Autocomplete

structure Position where
  line : Nat
  character : Nat
  deriving DecidableEq, Repr

inductive Coordinate where
  | line
  | character
  deriving DecidableEq, Repr

structure OutOfRange where
  coordinate : Coordinate
  value : Json
  deriving Repr

namespace Position

def maxCoordinate : Nat := 2147483647

def isCoordinate (n : Int) : Bool := 0 ≤ n && n ≤ maxCoordinate

def coordinate? : Json → Option Nat
  | .whole n => if isCoordinate n then some n.toNat else none
  | .bool value => some (if value then 1 else 0)
  | _ => none

def ofJson (line character : Json) : Except OutOfRange Position :=
  match coordinate? line, coordinate? character with
  | none, _ => .error ⟨.line, line⟩
  | _, none => .error ⟨.character, character⟩
  | some line, some character => .ok ⟨line, character⟩

end Position

def OutOfRange.message (fault : OutOfRange) : String :=
  let name := match fault.coordinate with
    | .line => "line"
    | .character => "character"
  "Position." ++ name ++ " should be in range [0:" ++ Number.text Position.maxCoordinate ++
    "], but was " ++ fault.value.text ++ "."

inductive BufferId where
  | unnamed
  | number (n : Int)
  | name (text : String)
  deriving DecidableEq, Repr, Inhabited

namespace BufferId

def text : BufferId → String
  | unnamed => "None"
  | number n => Number.text n
  | name text => text

def quoted : BufferId → String
  | name text => Text.quoted text
  | id => id.text

end BufferId

end Autocomplete
