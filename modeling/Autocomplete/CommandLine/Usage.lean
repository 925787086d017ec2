import Autocomplete.CommandLine.Grammar
import Autocomplete.Text.Padding

namespace Autocomplete.CommandLine

def OptionSpec.usage (spec : OptionSpec) : String :=
  let name := spec.names.headD ""
  match spec.metavar with
  | none => "[" ++ name ++ "]"
  | some metavar => "[" ++ name ++ " " ++ metavar ++ "]"

def OptionSpec.header (spec : OptionSpec) : String :=
  ", ".intercalate (spec.names.map fun name =>
    match spec.metavar with
    | none => name
    | some metavar => name ++ " " ++ metavar)

def Positional.header (spec : Positional) : String :=
  if spec.commands.isEmpty then spec.name
  else "\x7b" ++ ",".intercalate (spec.commands.map Prod.fst) ++ "\x7d"

def Positional.usage (spec : Positional) : String :=
  if spec.commands.isEmpty then spec.header else spec.header ++ " ..."

namespace Grammar

def usage (grammar : Grammar) : String :=
  let options := grammar.options.map OptionSpec.usage
  let positionals := grammar.positionals.map Positional.usage
  "usage: " ++ " ".intercalate (grammar.program :: options ++ positionals) ++ "\n"

def helpColumn (grammar : Grammar) : Nat :=
  let headers := grammar.options.map OptionSpec.header ++
    grammar.positionals.flatMap fun spec => spec.header :: spec.commands.map Prod.fst
  min 24 ((headers.map String.length).foldl max 0 + 4)

def row (column indent : Nat) (header help : String) : String :=
  let header := Text.blanks indent ++ header
  if help = "" then header ++ "\n" else Text.padRight column header ++ help ++ "\n"

def help (grammar : Grammar) : String :=
  let column := grammar.helpColumn
  let description := match grammar.description with
    | none => ""
    | some text => text ++ "\n\n"
  let positionals := grammar.positionals.map fun spec =>
    row column 2 spec.header spec.help ++
      String.join (spec.commands.map fun (name, help) => row column 4 name help)
  let options := grammar.options.map fun spec => row column 2 spec.header spec.help
  grammar.usage ++ "\n" ++ description ++ "positional arguments:\n" ++ String.join positionals ++
    "\noptions:\n" ++ String.join options

end Grammar

end Autocomplete.CommandLine
