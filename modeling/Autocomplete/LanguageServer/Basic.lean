import Autocomplete.Controller.Basic
import Autocomplete.Product

namespace Autocomplete

inductive ServerCall where
  | create (name version : String)
  | startProcess (command : List String)
  | handshake (parameters : Json)
  | initialized
  | completion (uri : String) (position : Position)
  | shutdown
  | exit
  | stop
  deriving Repr

/-- The open buffers with the addresses of their documents. A buffer may have an id of any type
whose values can be compared. -/
structure LanguageServer (β : Type := BufferId) where
  documents : List (β × String) := []
  deriving Repr

namespace LanguageServer

variable {β : Type} [DecidableEq β]

def clientParameters (rootUri : Option String) : Json :=
  .object [
    ("capabilities", .object [
      ("textDocument", .object [
        ("completion", .object [
          ("completionItem", .object [("snippetSupport", .bool true)])])])]),
    ("processId", .null),
    ("rootPath", .null),
    ("rootUri", (rootUri.map Json.string).getD .null),
    ("workspaceFolders", .null)]

def startCalls (command : List String) (rootUri : Option String) : List ServerCall :=
  [.create Product.name Product.version, .startProcess command,
    .handshake (clientParameters rootUri), .initialized]

/-- The calls that stop a server. If it fails to shut down it is not told to exit. -/
def stopCalls (shutdownFails : Bool) : List ServerCall :=
  if shutdownFails then [.shutdown, .stop] else [.shutdown, .exit, .stop]

def attach (server : LanguageServer β) (buffer : β) (uri : String) : LanguageServer β :=
  ⟨Entries.insert buffer uri server.documents⟩

def detach (server : LanguageServer β) (buffer : β) : LanguageServer β :=
  ⟨Entries.erase buffer server.documents⟩

def uri? (server : LanguageServer β) (buffer : β) : Option String :=
  Entries.find? buffer server.documents

end LanguageServer

end Autocomplete
