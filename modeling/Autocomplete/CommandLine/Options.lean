import Autocomplete.CommandLine.Usage
import Autocomplete.Product

namespace Autocomplete.CommandLine

/-- What the program is to do. Where `--` stands in the place of a value, the value is absent. -/
inductive Command where
  | snippet (template : String) (offset : Option Int)
  | rank (file : String) (input : Option String) (config : Option (Option String))
      (select : Option Int)
  deriving DecidableEq, Repr

structure Options where
  verbose : Nat
  command : Command
  deriving DecidableEq, Repr

inductive Stop where
  | help (grammar : Grammar)
  | version
  | wrong (grammar : Grammar) (error : UsageError)
  deriving Repr

namespace Stop

def exitCode : Stop → Nat
  | help _ | version => 0
  | wrong .. => 2

def output : Stop → String
  | help grammar => grammar.help
  | version => Product.name ++ " " ++ Product.version ++ "\n"
  | wrong .. => ""

def errorLine : Stop → String
  | wrong grammar error => grammar.program ++ ": error: " ++ error.message
  | _ => ""

end Stop

def helpOption : OptionSpec where
  key := .help
  names := ["-h", "--help"]
  help := "show this help message and exit"

def snippetGrammar : Grammar where
  program := Product.name ++ " snippet"
  options := [helpOption,
    { key := .offset, names := ["--offset"], metavar := some "OFFSET",
      help := "offset of the insertion in the buffer" }]
  positionals :=
    [{ name := "template", help := "snippet template, e.g. 'foo($\x7b1:arg\x7d)$0'" }]

def rankGrammar : Grammar where
  program := Product.name ++ " rank"
  options := [helpOption,
    { key := .config, names := ["--config"], metavar := some "CONFIG",
      help := "JSON file with the editcomp configuration" },
    { key := .select, names := ["--select"], metavar := some "SELECT",
      help := "number of rows to move the selection down" }]
  positionals :=
    [{ name := "file", help := "JSON file with a completion list or an item list" },
      { name := "input", help := "filter text typed by the user" }]

def mainGrammar : Grammar where
  program := Product.name
  description := some "Snippet parsing and completion ranking tools"
  options := [helpOption,
    { key := .verbose, names := ["-v", "--verbose"], help := "verbosity level" },
    { key := .version, names := ["--version"], help := "show program's version number and exit" }]
  positionals := [{
    name := "command"
    commands := [("snippet", "parse a snippet template"),
      ("rank", "rank completion items against an input")] }]

/-- Reads arguments by a grammar: takes its parts one by one, and returns what they make and the
arguments that nobody takes. Help is given as soon as it is asked for. -/
def Grammar.parse (grammar : Grammar) (initial : α) (take : α → Step → Except Stop α)
    (arguments : List String) : Except Stop (α × List String) :=
  match grammar.classifyAll arguments with
  | .error error => .error (.wrong grammar error)
  | .ok arguments => do
    let scan := grammar.scan grammar.positionals arguments
    let value ← scan.steps.foldlM (fun value step =>
      match step with
      | .option ⟨.help, _, _, _⟩ _ => .error (.help grammar)
      | step => take value step) initial
    match scan.error with
    | some error => throw (.wrong grammar error)
    | none =>
      if scan.missing.isEmpty then return (value, scan.extras)
      else throw (.wrong grammar (.missing (scan.missing.map Positional.name)))

def argumentValue (values : List String) : Option String := (values.erase "--").head?

def integerValue (grammar : Grammar) (spec : OptionSpec) (values : List String) :
    Except Stop (Option Int) :=
  match argumentValue values with
  | none => .ok none
  | some value =>
    match Number.ofTyped? value with
    | some n => .ok (some n)
    | none => .error (.wrong grammar (.invalidInteger spec value))

structure SnippetArguments where
  template : Option String := none
  offset : Option Int := some 0

def SnippetArguments.take (given : SnippetArguments) : Step → Except Stop SnippetArguments
  | .option ⟨.offset, names, metavar, help⟩ values => do
    return { given with
      offset := ← integerValue snippetGrammar ⟨.offset, names, metavar, help⟩ values }
  | .option .. => .ok given
  | .positional _ values => .ok { given with template := argumentValue values }

structure RankArguments where
  file : Option String := none
  input : Option String := none
  config : Option (Option String) := none
  select : Option Int := some 0

def RankArguments.take (given : RankArguments) : Step → Except Stop RankArguments
  | .option ⟨.config, _, _, _⟩ values => .ok { given with config := some (argumentValue values) }
  | .option ⟨.select, names, metavar, help⟩ values => do
    return { given with
      select := ← integerValue rankGrammar ⟨.select, names, metavar, help⟩ values }
  | .option .. => .ok given
  | .positional spec values =>
    if spec.name = "file" then .ok { given with file := argumentValue values }
    else .ok { given with input := argumentValue values }

def parseCommand (positional : Positional) : List String → Except Stop (Command × List String)
  | "snippet" :: arguments => do
    let (given, extras) ← snippetGrammar.parse {} SnippetArguments.take arguments
    return (.snippet (given.template.getD "") given.offset, extras)
  | "rank" :: arguments => do
    let (given, extras) ← rankGrammar.parse {} RankArguments.take arguments
    return (.rank (given.file.getD "") given.input given.config given.select, extras)
  | arguments => .error (.wrong mainGrammar (.invalidChoice positional (arguments.headD "")))

structure MainArguments where
  verbose : Nat := 0
  command : Option Command := none
  extras : List String := []

def MainArguments.take (given : MainArguments) : Step → Except Stop MainArguments
  | .option ⟨.version, _, _, _⟩ _ => .error .version
  | .option ⟨.verbose, _, _, _⟩ _ => .ok { given with verbose := given.verbose + 1 }
  | .option .. => .ok given
  | .positional positional values => do
    let (command, extras) ← parseCommand positional values
    return { given with command := some command, extras := extras }

def parseOptions (arguments : List String) : Except Stop Options := do
  let (given, extras) ← mainGrammar.parse {} MainArguments.take arguments
  let unrecognized := extras ++ given.extras
  match given.command with
  | none => throw (.wrong mainGrammar (.missing ["command"]))
  | some command =>
    if unrecognized.isEmpty then return ⟨given.verbose, command⟩
    else throw (.wrong mainGrammar (.unrecognized unrecognized))

end Autocomplete.CommandLine
