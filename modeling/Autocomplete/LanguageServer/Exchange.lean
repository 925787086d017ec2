import Autocomplete.LanguageServer.EventLoop

namespace Autocomplete.LanguageServer

structure Exchange where
  calls : List ServerCall
  answers : List Response
  warnings : List Warning
  deriving Repr

def Exchange.ofEffects (effects : List Effect) : Exchange where
  calls := effects.filterMap fun
    | .called call => some call
    | _ => none
  answers := effects.filterMap fun
    | .answered response => some response
    | _ => none
  warnings := effects.filterMap fun
    | .logged warning => some warning
    | _ => none

def exchange (response : Response) (loop : EventLoop) : Exchange :=
  .ofEffects ((loop.history (fun _ => response) loop.remaining).map Prod.snd)

def forward (server : LanguageServer) (request : Request) (response : Response) :
    Except BufferId Exchange :=
  (EventLoop.forward { server } request.id request.buffer request.position).map (exchange response)

def offer (server : LanguageServer) (request : Request) (response : Response) : Option Exchange :=
  (EventLoop.offer { server } request.id request.buffer request.position).map (exchange response)

def provider (server : LanguageServer) : Provider := fun request =>
  match EventLoop.offer { server } request.id request.buffer request.position with
  | some _ => { verdict := some true, keeps := true }
  | none => { verdict := none }

def trigger (server : LanguageServer) (controller : Controller) (buffer : BufferId)
    (position : Position) (response : Response) : Controller.Outcome Int × List ServerCall :=
  let outcome := controller.trigger [server.provider] buffer position none
  match outcome.result with
  | .error _ => (outcome, [])
  | .ok id =>
    match server.offer ⟨id, buffer, position⟩ response with
    | none => (outcome, [])
    | some exchange =>
      let (answered, warnings) := outcome.controller.respondAll id exchange.answers
      let warnings := outcome.warnings ++ exchange.warnings ++ warnings
      (⟨outcome.result, answered, outcome.events, warnings⟩, exchange.calls)

end Autocomplete.LanguageServer
