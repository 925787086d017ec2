import Autocomplete.Item.Decode

namespace Autocomplete

inductive ErrorKind where
  | runtime
  | value
  | key
  deriving DecidableEq, Repr

structure ProviderError where
  kind : ErrorKind
  text : String
  deriving DecidableEq, Repr

namespace ProviderError

def kindName : ErrorKind → String
  | .runtime => "RuntimeError"
  | .value => "ValueError"
  | .key => "KeyError"

def quoted (error : ProviderError) : String :=
  kindName error.kind ++ "(" ++ Text.quoted error.text ++ ")"

def message (error : ProviderError) : String :=
  match error.kind with
  | .key => Text.quoted error.text
  | _ => error.text

end ProviderError

inductive Response where
  | nothing
  | raw (json : Json)
  | completionList (items : List Item) (incomplete : Bool)
  | itemList (items : List Item)
  | failure (error : ProviderError)
  deriving Repr

inductive Warning where
  | providerFailed (error : ProviderError)
  | undecodable (count : Nat)
  | unexpectedType (typeName : String)
  | notAccepted (requestId : Int) (buffer : BufferId)
  | repeatedResponse (requestId : Int)
  | requestFailed (requestId : Int) (error : ProviderError)
  deriving DecidableEq, Repr

def Warning.message : Warning → String
  | providerFailed error => "[COMPLETION] Provider failed: " ++ error.quoted
  | undecodable count =>
    "[COMPLETION] Cannot decode provider response: " ++
      "While structuring list[lsprotocol.types.CompletionItem] (" ++ Number.text count ++
      (if count = 1 then " sub-exception)" else " sub-exceptions)")
  | unexpectedType typeName =>
    "[COMPLETION] Unexpected provider response type <class '" ++ typeName ++ "'>"
  | notAccepted requestId buffer =>
    "[COMPLETION] No provider accepted request " ++ Number.text requestId ++ " for " ++ buffer.text
  | repeatedResponse requestId =>
    "[COMPLETION] Ignoring repeated response to request " ++ Number.text requestId
  | requestFailed requestId error =>
    "[PROVIDER] Request " ++ Number.text requestId ++ " failed: " ++ error.message

/-- Decodes a list of values: all of them, or else it counts those that fail. -/
abbrev ListDecoder := List Json → Except Nat (List Item)

namespace Response

def itemsOfJson (decodeAll : ListDecoder) : Json → Except Warning (List Item)
  | .list jsons =>
    match decodeAll jsons with
    | .ok items => .ok items
    | .error count => .error (.undecodable count)
  | json => .error (.unexpectedType json.typeName)

/-- The items of a response, given how lists are decoded. An undecoded response is a list of items,
or an object that may have such a list as its member `items`. -/
def decodeBy (decodeAll : ListDecoder) : Response → Except Warning (List Item)
  | nothing => .ok []
  | completionList items _ => .ok items
  | itemList items => .ok items
  | failure error => .error (.providerFailed error)
  | raw .null => .ok []
  | raw (.object members) =>
    itemsOfJson decodeAll ((Json.get? "items" (.object members)).getD (.list []))
  | raw json => itemsOfJson decodeAll json

def decode (response : Response) : Except Warning (List Item) := response.decodeBy Item.decodeAll

end Response

end Autocomplete
