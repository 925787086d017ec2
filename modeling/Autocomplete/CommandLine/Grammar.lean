import Autocomplete.Number.Literal
import Autocomplete.Text.Quoted

/-!
# Grammars of command lines

A grammar lists the options and the positional arguments of a command. Long options may be shortened
as long as they stay unique, and take their value from the next argument or after an equals sign.
Short flags may be written together. After `--` nothing is an option, and neither is a negative
number or an argument with a blank in it.
-/

namespace Autocomplete.CommandLine

inductive Key where
  | help
  | version
  | verbose
  | offset
  | config
  | select
  deriving DecidableEq, Repr

structure OptionSpec where
  key : Key
  names : List String
  metavar : Option String := none
  help : String
  deriving DecidableEq, Repr

def OptionSpec.takesValue (spec : OptionSpec) : Bool := spec.metavar.isSome

structure Positional where
  name : String
  help : String := ""
  /-- The commands among which the argument chooses, with a line of help each. All arguments after
  it belong to the command. -/
  commands : List (String × String) := []
  deriving DecidableEq, Repr

structure Grammar where
  program : String
  description : Option String := none
  options : List OptionSpec
  positionals : List Positional
  deriving Repr

inductive UsageError where
  | ambiguous (argument : String) (candidates : List String)
  | expectedValue (spec : OptionSpec)
  | ignoredValue (spec : OptionSpec) (value : String)
  | invalidInteger (spec : OptionSpec) (value : String)
  | invalidChoice (positional : Positional) (value : String)
  | missing (names : List String)
  | unrecognized (arguments : List String)
  deriving DecidableEq, Repr

def UsageError.message : UsageError → String
  | ambiguous argument candidates =>
    "ambiguous option: " ++ argument ++ " could match " ++ ", ".intercalate candidates
  | expectedValue spec => "argument " ++ "/".intercalate spec.names ++ ": expected one argument"
  | ignoredValue spec value =>
    "argument " ++ "/".intercalate spec.names ++ ": ignored explicit argument " ++ Text.quoted value
  | invalidInteger spec value =>
    "argument " ++ "/".intercalate spec.names ++ ": invalid int value: " ++ Text.quoted value
  | invalidChoice positional value =>
    let choices := positional.commands.map fun command => Text.quoted command.1
    "argument " ++ positional.name ++ ": invalid choice: " ++ Text.quoted value ++
      " (choose from " ++ ", ".intercalate choices ++ ")"
  | missing names => "the following arguments are required: " ++ ", ".intercalate names
  | unrecognized arguments => "unrecognized arguments: " ++ " ".intercalate arguments

inductive Reading where
  | unknown
  | known (spec : OptionSpec) (long : Bool) (attached : Option (List Char))
  deriving DecidableEq, Repr

inductive Argument where
  | separator
  | plain (text : String)
  | option (text : String) (reading : Reading)
  deriving DecidableEq, Repr

def Argument.text : Argument → String
  | separator => "--"
  | plain text => text
  | option text _ => text

def areDecimals (cs : List Char) : Bool := cs.all fun c => (Text.decimalValue? c).isSome

def isNegativeNumber (cs : List Char) : Bool :=
  let cs := if cs.getLast? = some '\n' then cs.dropLast else cs
  match cs with
  | '-' :: rest =>
    let whole := rest.takeWhile (· != '.')
    match rest.dropWhile (· != '.') with
    | [] => !whole.isEmpty && areDecimals whole
    | _ :: fraction => areDecimals whole && !fraction.isEmpty && areDecimals fraction
  | _ => false

namespace Grammar

def names (grammar : Grammar) : List (String × OptionSpec) :=
  grammar.options.flatMap fun spec => spec.names.map fun name => (name, spec)

def named? (grammar : Grammar) (name : String) : Option OptionSpec := grammar.names.lookup name

def completions (grammar : Grammar) (beginning : List Char) : List (String × OptionSpec) :=
  grammar.names.filter fun (name, _) => beginning.isPrefixOf name.toList

def splitSign (cs : List Char) : List Char × Option (List Char) :=
  match cs.dropWhile (· != '=') with
  | [] => (cs, none)
  | _ :: value => (cs.takeWhile (· != '='), some value)

def candidates (grammar : Grammar) (cs : List Char) : List (String × Reading) :=
  match cs with
  | '-' :: '-' :: _ =>
    let (name, attached) := splitSign cs
    (grammar.completions name).map fun (long, spec) => (long, .known spec true attached)
  | '-' :: letter :: value =>
    match grammar.named? (String.ofList ['-', letter]) with
    | some spec => [(String.ofList ['-', letter], .known spec false (some value))]
    | none => []
  | _ => []

def classify (grammar : Grammar) (text : String) : Except UsageError Argument :=
  let cs := text.toList
  let (name, attached) := splitSign cs
  if cs.head? ≠ some '-' then .ok (.plain text)
  else match grammar.named? text with
  | some spec => .ok (.option text (.known spec (cs[1]? == some '-') none))
  | none =>
    if cs.length = 1 then .ok (.plain text)
    else match (if attached.isSome then grammar.named? (String.ofList name) else none) with
    | some spec => .ok (.option text (.known spec (cs[1]? == some '-') attached))
    | none =>
      match grammar.candidates cs with
      | [(_, reading)] => .ok (.option text reading)
      | first :: second :: others =>
        .error (.ambiguous text ((first :: second :: others).map Prod.fst))
      | [] =>
        if isNegativeNumber cs || cs.contains ' ' then .ok (.plain text)
        else .ok (.option text .unknown)

def classifyAll (grammar : Grammar) : List String → Except UsageError (List Argument)
  | [] => .ok []
  | text :: rest =>
    if text = "--" then .ok (.separator :: rest.map .plain)
    else do return (← grammar.classify text) :: (← grammar.classifyAll rest)

end Grammar

inductive Step where
  | option (spec : OptionSpec) (values : List String)
  | positional (spec : Positional) (values : List String)
  deriving DecidableEq, Repr

inductive Cluster where
  | complete (steps : List Step)
  | awaiting (steps : List Step) (spec : OptionSpec)
  | wrong (error : UsageError)
  deriving DecidableEq, Repr

def Cluster.afterFlag (flag : OptionSpec) : Cluster → Cluster
  | complete steps => complete (.option flag [] :: steps)
  | awaiting steps spec => awaiting (.option flag [] :: steps) spec
  | wrong error => wrong error

def Cluster.alone (spec : OptionSpec) : Cluster :=
  if spec.takesValue then .awaiting [] spec else .complete [.option spec []]

def Grammar.cluster (grammar : Grammar) (long : Bool) (spec : OptionSpec) :
    (attached : List Char) → Cluster
  | [] => if spec.takesValue then .complete [.option spec [""]] else .wrong (.ignoredValue spec "")
  | letter :: rest =>
    let value := String.ofList (letter :: rest)
    if spec.takesValue then .complete [.option spec [value]]
    else match grammar.named? (String.ofList ['-', letter]) with
    | none => .wrong (.ignoredValue spec value)
    | some next =>
      if long then .wrong (.ignoredValue spec value)
      else if rest.isEmpty then (Cluster.alone next).afterFlag spec
      else (grammar.cluster long next rest).afterFlag spec

def Grammar.optionsIn (grammar : Grammar) (spec : OptionSpec) (long : Bool) :
    (attached : Option (List Char)) → Cluster
  | none => .alone spec
  | some attached => grammar.cluster long spec attached

/-- What a command line consists of: the parts in order up to the first error, the positional
arguments that are missing, and the arguments that nobody takes. -/
structure Scan where
  steps : List Step := []
  missing : List Positional := []
  extras : List String := []
  error : Option UsageError := none
  deriving Repr

namespace Scan

def prepend (steps : List Step) (scan : Scan) : Scan := { scan with steps := steps ++ scan.steps }

def withExtra (text : String) (scan : Scan) : Scan := { scan with extras := text :: scan.extras }

end Scan

def Grammar.scan (grammar : Grammar) : List Positional → List Argument → Scan
  | pending, [] => { missing := pending }
  | pending, .option text .unknown :: rest => (grammar.scan pending rest).withExtra text
  | pending, .option _ (.known spec long attached) :: rest =>
    match grammar.optionsIn spec long attached, rest with
    | .complete steps, rest => (grammar.scan pending rest).prepend steps
    | .awaiting steps spec, .plain value :: rest =>
      (grammar.scan pending rest).prepend (steps ++ [.option spec [value]])
    | .awaiting _ spec, _ => { error := some (.expectedValue spec) }
    | .wrong error, _ => { error := some error }
  | [], argument :: rest => (grammar.scan [] rest).withExtra argument.text
  | spec :: pending, argument :: rest =>
    if spec.commands.isEmpty then
      match argument, rest with
      | .separator, .plain text :: rest =>
        (grammar.scan pending rest).prepend [.positional spec ["--", text]]
      | .separator, rest => (grammar.scan (spec :: pending) rest).withExtra "--"
      | argument, .separator :: rest =>
        (grammar.scan pending rest).prepend [.positional spec [argument.text, "--"]]
      | argument, rest => (grammar.scan pending rest).prepend [.positional spec [argument.text]]
    else
      match argument, rest with
      | .separator, [] => { missing := spec :: pending, extras := ["--"] }
      | argument, rest =>
        { steps := [.positional spec ((argument :: rest).map Argument.text)], missing := pending }
termination_by _ arguments => arguments.length

end Autocomplete.CommandLine
