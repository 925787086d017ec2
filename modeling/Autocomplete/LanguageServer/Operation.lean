import Autocomplete.LanguageServer.Exchange

namespace Autocomplete.LanguageServer

inductive Operation where
  | attach (buffer : BufferId) (uri : String)
  | detach (buffer : BufferId)
  | forward (request : Request) (response : Response)
  | offer (request : Request) (response : Response)
  deriving Repr

def perform (server : LanguageServer) :
    Operation → Except BufferId (Option Exchange) × LanguageServer
  | .attach buffer uri => (.ok none, server.attach buffer uri)
  | .detach buffer => (.ok none, server.detach buffer)
  | .forward request response => ((server.forward request response).map some, server)
  | .offer request response => (.ok (server.offer request response), server)

end Autocomplete.LanguageServer
