import Autocomplete.Json.Basic

/-!
# Reading JSON

A reader for the whole of a text. Beyond the standard it takes `NaN`, `Infinity` and `-Infinity`; of
several members with one key the last one counts. Control characters inside a string, a byte order
mark and anything after the value are refused. A whole number has at most `Number.digitLimit`
digits. A surrogate is read with the other half of its pair only.
-/

namespace Autocomplete.Json

inductive ReadError where
  | malformed
  | tooManyDigits (overflow : Number.DigitOverflow)
  /-- Half of a surrogate pair is escaped, which is no character. -/
  | loneSurrogate
  deriving DecidableEq, Repr

namespace Reader

def isSpace (c : Char) : Bool := c == ' ' || c == '\t' || c == '\n' || c == '\r'

def skipSpaces (cs : List Char) : List Char := cs.dropWhile isSpace

def afterWord? (word cs : List Char) : Option (List Char) :=
  if word.isPrefixOf cs then some (cs.drop word.length) else none

def hexValue? (c : Char) : Option Nat :=
  if '0' ≤ c ∧ c ≤ '9' then some (c.toNat - '0'.toNat)
  else if 'a' ≤ c ∧ c ≤ 'f' then some (c.toNat - 'a'.toNat + 10)
  else if 'A' ≤ c ∧ c ≤ 'F' then some (c.toNat - 'A'.toNat + 10)
  else none

def codeUnit? : List Char → Option (Nat × List Char)
  | a :: b :: c :: d :: rest => do
    let high := (← hexValue? a) * 16 + (← hexValue? b)
    let low := (← hexValue? c) * 16 + (← hexValue? d)
    return (high * 256 + low, rest)
  | _ => none

def isHighSurrogate (unit : Nat) : Bool := 0xD800 ≤ unit && unit < 0xDC00

def isLowSurrogate (unit : Nat) : Bool := 0xDC00 ≤ unit && unit < 0xE000

def pairedChar (high : Nat) : List Char → Except ReadError (Char × List Char)
  | '\\' :: 'u' :: cs =>
    match codeUnit? cs with
    | none => .error .malformed
    | some (low, rest) =>
      if isLowSurrogate low then
        .ok (Char.ofNat (0x10000 + (high - 0xD800) * 0x400 + (low - 0xDC00)), rest)
      else .error .loneSurrogate
  | _ => .error .loneSurrogate

def unicodeEscape (cs : List Char) : Except ReadError (Char × List Char) :=
  match codeUnit? cs with
  | none => .error .malformed
  | some (unit, rest) =>
    if isHighSurrogate unit then pairedChar unit rest
    else if isLowSurrogate unit then .error .loneSurrogate
    else .ok (Char.ofNat unit, rest)

def escape : List Char → Except ReadError (Char × List Char)
  | 'u' :: rest => unicodeEscape rest
  | 'b' :: rest => .ok ('\x08', rest)
  | 'f' :: rest => .ok ('\x0c', rest)
  | 'n' :: rest => .ok ('\n', rest)
  | 'r' :: rest => .ok ('\r', rest)
  | 't' :: rest => .ok ('\t', rest)
  | c :: rest => if c = '\x22' ∨ c = '\\' ∨ c = '/' then .ok (c, rest) else .error .malformed
  | [] => .error .malformed

def stringRest : (fuel : Nat) → List Char → (read : List Char) →
    Except ReadError (String × List Char)
  | 0, _, _ => .error .malformed
  | _ + 1, [], _ => .error .malformed
  | fuel + 1, c :: rest, read =>
    if c = '\x22' then .ok (String.ofList read.reverse, rest)
    else if c = '\\' then do
      let (escaped, rest) ← escape rest
      stringRest fuel rest (escaped :: read)
    else if c.toNat < 0x20 then .error .malformed
    else stringRest fuel rest (c :: read)

def wholePart? (cs : List Char) : Option (Bool × List Char × List Char) :=
  let (negative, cs) := match cs with
    | '-' :: rest => (true, rest)
    | _ => (false, cs)
  match cs with
  | '0' :: rest => some (negative, ['0'], rest)
  | c :: _ =>
    if c.isDigit then some (negative, cs.takeWhile Char.isDigit, cs.dropWhile Char.isDigit)
    else none
  | [] => none

def fraction : List Char → List Char × List Char
  | '.' :: rest =>
    let ds := rest.takeWhile Char.isDigit
    if ds.isEmpty then ([], '.' :: rest) else (ds, rest.dropWhile Char.isDigit)
  | cs => ([], cs)

def exponent? (cs : List Char) : Option Int × List Char :=
  match cs with
  | mark :: rest =>
    if mark = 'e' ∨ mark = 'E' then
      let (negative, rest) := match rest with
        | '-' :: rest => (true, rest)
        | '+' :: rest => (false, rest)
        | _ => (false, rest)
      let ds := rest.takeWhile Char.isDigit
      let magnitude : Int := Nat.ofDigitChars 10 ds 0
      if ds.isEmpty then (none, cs)
      else (some (if negative then -magnitude else magnitude), rest.dropWhile Char.isDigit)
    else (none, cs)
  | [] => (none, cs)

def number (cs : List Char) : Except ReadError (Json × List Char) :=
  match wholePart? cs with
  | none => .error .malformed
  | some (negative, ds, rest) =>
    let (fractionDigits, rest) := fraction rest
    let (exponent, rest) := exponent? rest
    if fractionDigits.isEmpty && exponent.isNone then
      match Number.ofDigits ds with
      | .ok n => .ok (whole (if negative then -n else n), rest)
      | .error overflow => .error (.tooManyDigits overflow)
    else
      let significand := Nat.ofDigitChars 10 (ds ++ fractionDigits) 0
      let power := exponent.getD 0 - fractionDigits.length
      .ok (decimal (Number.Binary64.ofDecimal negative significand power), rest)

def words : List (List Char × Json) :=
  [("null".toList, null), ("true".toList, bool true), ("false".toList, bool false),
    ("NaN".toList, decimal .nan), ("Infinity".toList, decimal (.infinite false)),
    ("-Infinity".toList, decimal (.infinite true))]

def word? (cs : List Char) : Option (Json × List Char) :=
  words.findSome? fun (word, value) => (afterWord? word cs).map (value, ·)

def string? : List Char → Except ReadError (String × List Char)
  | '\x22' :: rest => stringRest (rest.length + 1) rest []
  | _ => .error .malformed

mutual

/-- The value at the head of the text. `fuel` bounds the values and the separators before the end.
-/
def value : (fuel : Nat) → List Char → Except ReadError (Json × List Char)
  | 0, _ => .error .malformed
  | fuel + 1, cs =>
    match cs with
    | '\x22' :: _ => do
      let (s, rest) ← string? cs
      return (string s, rest)
    | '[' :: rest =>
      match skipSpaces rest with
      | ']' :: rest => .ok (list [], rest)
      | rest => elements fuel rest []
    | '\x7b' :: rest =>
      match skipSpaces rest with
      | '\x7d' :: rest => .ok (object [], rest)
      | rest => members fuel rest []
    | _ => match word? cs with
      | some result => .ok result
      | none => number cs

def elements : (fuel : Nat) → List Char → (read : List Json) → Except ReadError (Json × List Char)
  | 0, _, _ => .error .malformed
  | fuel + 1, cs, read => do
    let (v, rest) ← value fuel cs
    match skipSpaces rest with
    | ']' :: rest => return (list (v :: read).reverse, rest)
    | ',' :: rest => elements fuel (skipSpaces rest) (v :: read)
    | _ => throw .malformed

def members : (fuel : Nat) → List Char → (read : List (String × Json)) →
    Except ReadError (Json × List Char)
  | 0, _, _ => .error .malformed
  | fuel + 1, cs, read => do
    let (key, rest) ← string? cs
    match skipSpaces rest with
    | ':' :: rest =>
      let (v, rest) ← value fuel (skipSpaces rest)
      match skipSpaces rest with
      | '\x7d' :: rest => return (object (Entries.insert key v read), rest)
      | ',' :: rest => members fuel (skipSpaces rest) (Entries.insert key v read)
      | _ => throw .malformed
    | _ => throw .malformed

end

end Reader

def read (text : String) : Except ReadError Json := do
  let cs := text.toList
  let (value, rest) ← Reader.value (2 * cs.length + 2) (Reader.skipSpaces cs)
  if (Reader.skipSpaces rest).isEmpty then return value else throw .malformed

end Autocomplete.Json
