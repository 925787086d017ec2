import Autocomplete.Index
import Autocomplete.Number.Decimal
import Autocomplete.Product
import Autocomplete.Text.Padding

namespace Autocomplete.Logging

structure Record where
  logger : String
  level : Int
  line : Int
  message : String
  deriving DecidableEq, Repr

inductive Handler where
  | stream
  | file
  deriving DecidableEq, Repr

def Handler.name : Handler → String
  | stream => "StreamHandler"
  | file => "FileHandler"

def handlers (setUp toFile : Bool) : List Handler :=
  if setUp then if toFile then [.stream, .file] else [.stream] else []

def levelName (level : Int) : String :=
  if level = 50 then "CRITICAL"
  else if level = 40 then "ERROR"
  else if level = 30 then "WARNING"
  else if level = 20 then "INFO"
  else if level = 10 then "DEBUG"
  else if level = 0 then "NOTSET"
  else "Level " ++ Number.text level

def levels : List Int := [30, 20, 10]

/-- The level for a verbosity: the last one for any beyond. A negative verbosity counts from the
last level on. -/
def levelFor (verbosity : Int) : Except NoElement Int := elementAt levels (min verbosity 2)

def Record.format (record : Record) : String :=
  let level := String.ofList ((levelName record.level).toList.take 4)
  "[" ++ Text.padLeft 15 record.logger ++ ":" ++ Text.padRight 3 (Number.text record.line) ++
    "] [" ++ level ++ "] -- " ++ record.message ++ "\n"

def written (level : Int) (records : List Record) : String :=
  String.join ((records.filter fun record => level ≤ record.level).map Record.format)

def Record.isOwn (record : Record) : Bool :=
  record.logger == Product.name ||
    (Product.name.toList ++ ['.']).isPrefixOf record.logger.toList

def writtenUnhandled (level : Int) (records : List Record) : String :=
  let shown := records.filter fun record => level ≤ record.level ∧ 30 ≤ record.level ∧ !record.isOwn
  String.join (shown.map fun record => record.message ++ "\n")

end Autocomplete.Logging
