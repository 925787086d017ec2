import Autocomplete.Json.Basic

namespace Autocomplete

structure Settings where
  wrapAround : Bool := true
  snippetSupport : Bool := true
  deriving DecidableEq, Repr

structure SettingsError where
  typeName : String
  deriving DecidableEq, Repr

def SettingsError.message (error : SettingsError) : String :=
  "'" ++ error.typeName ++ "' object has no attribute 'get'"

namespace Settings

def flag (json : Json) (key : String) : Bool := ((json.get? key).map Json.isTruthy).getD true

/-- The settings of a configuration section. A value that counts as false stands for an empty one.
-/
def ofJson (json : Json) : Except SettingsError Settings :=
  match json with
  | .object _ => .ok ⟨flag json "wrapAround", flag json "snippetSupport"⟩
  | _ => if json.isTruthy then .error ⟨json.typeName⟩ else .ok {}

end Settings

end Autocomplete
