import Autocomplete.LanguageServer.Basic

/-!
# The event loop

The requests to a language server run on an event loop. A request is scheduled with the address that
its document has when the request is made. Once the loop gets to it, it calls the server and waits;
when it is resumed, it hands the answer on. In the meantime buffers may be opened and closed, and
other requests may be made.
-/

namespace Autocomplete

inductive Stage where
  | scheduled
  | waiting
  | finished
  deriving DecidableEq, Repr

structure Errand where
  requestId : Int
  uri : String
  position : Position
  stage : Stage := .scheduled
  deriving DecidableEq, Repr

inductive Effect where
  | called (call : ServerCall)
  | logged (warning : Warning)
  | answered (response : Response)
  deriving Repr

/-- Runs an errand until it waits or is finished, given the answer to its call. A failure is logged
before it is handed on. -/
def Errand.resume (errand : Errand) (response : Response) : Errand × List Effect :=
  match errand.stage with
  | .scheduled =>
    ({ errand with stage := .waiting }, [.called (.completion errand.uri errand.position)])
  | .waiting =>
    ({ errand with stage := .finished },
      match response with
      | .failure error => [.logged (.requestFailed errand.requestId error), .answered response]
      | _ => [.answered response])
  | .finished => (errand, [])

/-- A language server with the errands of the requests that were taken on, in the order in which
they were made. The number of a request is the place of its errand. -/
structure EventLoop (β : Type := BufferId) where
  server : LanguageServer β := {}
  errands : List Errand := []
  deriving Repr

abbrev Client := Nat → Response

namespace EventLoop

variable {β : Type} [DecidableEq β]

def forward (loop : EventLoop β) (requestId : Int) (buffer : β) (position : Position) :
    Except β (EventLoop β) :=
  match loop.server.uri? buffer with
  | some uri => .ok { loop with errands := loop.errands ++ [{ requestId, uri, position }] }
  | none => .error buffer

def offer (loop : EventLoop β) (requestId : Int) (buffer : β) (position : Position) :
    Option (EventLoop β) :=
  (loop.forward requestId buffer position).toOption

def resume (client : Client) (loop : EventLoop β) (number : Nat) : EventLoop β × List Effect :=
  match loop.errands[number]? with
  | some errand =>
    let (resumed, effects) := errand.resume (client number)
    ({ loop with errands := loop.errands.set number resumed }, effects)
  | none => (loop, [])

inductive Step (β : Type := BufferId) where
  | attach (buffer : β) (uri : String)
  | detach (buffer : β)
  | forward (requestId : Int) (buffer : β) (position : Position)
  | offer (requestId : Int) (buffer : β) (position : Position)
  | resume (number : Nat)
  deriving Repr

def perform (client : Client) (loop : EventLoop β) : Step β → EventLoop β × List (Nat × Effect)
  | .attach buffer uri => ({ loop with server := loop.server.attach buffer uri }, [])
  | .detach buffer => ({ loop with server := loop.server.detach buffer }, [])
  | .forward requestId buffer position =>
    ((loop.forward requestId buffer position).toOption.getD loop, [])
  | .offer requestId buffer position => ((loop.offer requestId buffer position).getD loop, [])
  | .resume number =>
    let (resumed, effects) := loop.resume client number
    (resumed, effects.map fun effect => (number, effect))

def performAll (client : Client) (loop : EventLoop β) : List (Step β) → EventLoop β
  | [] => loop
  | step :: rest => performAll client (loop.perform client step).1 rest

def history (client : Client) (loop : EventLoop β) : List (Step β) → List (Nat × Effect)
  | [] => []
  | step :: rest =>
    (loop.perform client step).2 ++ history client (loop.perform client step).1 rest

/-- Steps that bring every request on the loop to its end. -/
def remaining (loop : EventLoop β) : List (Step β) :=
  (List.range loop.errands.length).flatMap fun number => [.resume number, .resume number]

end EventLoop

end Autocomplete
