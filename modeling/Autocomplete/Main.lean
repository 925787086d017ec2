import Autocomplete.CommandLine.Run

namespace Autocomplete.Main

def faultOf (code : UInt32) : CommandLine.FileFault :=
  if code = 2 then .missing else if code = 20 then .notFolder else if code = 21 then .isFolder
  else .unreadable

def readFile (path : String) : IO (Except CommandLine.FileFault String) := do
  if path.contains '\x00' then return .error .nullCharacter
  try return .ok (← IO.FS.readFile path)
  catch
    | .noFileOrDirectory .. => return .error .missing
    | .inappropriateType _ code _ => return .error (faultOf code)
    | _ => return .error .unreadable

def readFiles (paths : List String) : IO (List (String × Except CommandLine.FileFault String)) :=
  paths.mapM fun (path : String) => do return (path, ← readFile path)

def run (arguments : List String) : IO UInt32 := do
  let output ← IO.getStdout
  let errors ← IO.getStderr
  match CommandLine.parseOptions arguments with
  | .error stop =>
    output.putStr stop.output
    match stop with
    | .wrong grammar _ => errors.putStr (grammar.usage ++ stop.errorLine ++ "\n")
    | _ => pure ()
    return stop.exitCode.toUInt32
  | .ok options =>
    let contents ← readFiles options.command.paths
    let done := options.command.run fun path => (contents.lookup path).getD (.error .missing)
    output.putStr done.output
    match done.result with
    | .ok code => return code.toUInt32
    | .error failure =>
      errors.putStr ((failure.message?.getD "the command failed") ++ "\n")
      return 1

end Autocomplete.Main

def main (arguments : List String) : IO UInt32 := Autocomplete.Main.run arguments
