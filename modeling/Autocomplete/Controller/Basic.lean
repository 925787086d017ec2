import Autocomplete.Failure
import Autocomplete.Item.Insertion
import Autocomplete.Response
import Autocomplete.Session.Basic

/-!
# The completion controller

The controller sends requests to providers and their answers to the session. A provider may answer
at once or later; either way the answer is decoded and waits in the mailbox until the messages are
processed. Only the first answer to a request counts. The controller tells a listener when the
session's status, input, request or displayed list has changed, and when the selection has.
-/

namespace Autocomplete

structure Request where
  id : Int
  buffer : BufferId
  position : Position
  deriving DecidableEq, Repr

structure Reaction where
  /-- Whether it accepts the request; `none` leaves it to the next provider. -/
  verdict : Option Bool
  answers : List Response := []
  keeps : Bool := false

abbrev Provider := Request → Reaction

namespace Provider

def fixed (items : List Item) : Provider := fun _ =>
  { verdict := some true, answers := [.completionList items false] }

def deferred (buffers : Option (List BufferId)) (verdict : Option Bool) : Provider := fun request =>
  if buffers.all (·.contains request.buffer) then { verdict := verdict, keeps := true }
  else { verdict := none }

end Provider

structure Ticket where
  input : String
  answered : Bool := false
  kept : Bool := false
  deriving DecidableEq, Repr

structure Message where
  requestId : Int
  input : String
  items : List Item
  deriving DecidableEq, Repr

inductive Event where
  | changed (status : Status) (input : String) (requestId : Int) (displayed : List Candidate)
  | selected (index : Nat)
  deriving DecidableEq, Repr

structure Controller where
  session : Session
  settings : Settings := {}
  mailbox : List Message := []
  tickets : List (Int × Ticket) := []
  /-- How lists of undecoded items are decoded. -/
  decodeAll : ListDecoder := Item.decodeAll

structure Controller.Outcome (α : Type) where
  result : Except Failure α
  controller : Controller
  events : List Event := []
  warnings : List Warning := []

namespace Controller

def new (scorer : Scorer) (settings : Settings) (decodeAll : ListDecoder := Item.decodeAll) :
    Controller :=
  { session := { scorer := scorer, wrapAround := settings.wrapAround }
    settings := settings
    decodeAll := decodeAll }

def notifications (before after : Session) : List Event :=
  let changed := before.status ≠ after.status ∨ before.input ≠ after.input ∨
    before.requestId ≠ after.requestId ∨ before.displayed.stamp ≠ after.displayed.stamp
  (if changed then
    [.changed after.status after.input after.requestId after.displayed.candidates] else []) ++
  (if before.index ≠ after.index then [.selected after.index] else [])

/-- The outcome of an operation on the session. Nothing is told of an operation that fails. -/
def outcomeOf (controller : Controller) (outcome : Session.Outcome α) : Outcome α :=
  let after := { controller with session := outcome.session }
  match outcome.result with
  | .ok value => ⟨.ok value, after, notifications controller.session outcome.session, []⟩
  | .error failure => ⟨.error (.scorerFailed failure), after, [], []⟩

def respond (controller : Controller) (requestId : Int) (response : Response) :
    Controller × List Warning :=
  match Entries.find? requestId controller.tickets with
  | none => (controller, [])
  | some ticket =>
    if ticket.answered then (controller, [.repeatedResponse requestId])
    else
      let tickets := Entries.insert requestId { ticket with answered := true } controller.tickets
      match response.decodeBy controller.decodeAll with
      | .ok items =>
        let message : Message := ⟨requestId, ticket.input, items⟩
        ({ controller with tickets := tickets, mailbox := controller.mailbox ++ [message] }, [])
      | .error warning => ({ controller with tickets := tickets }, [warning])

def respondAll (controller : Controller) (requestId : Int) : List Response →
    Controller × List Warning
  | [] => (controller, [])
  | response :: rest =>
    let (controller, warnings) := controller.respond requestId response
    let (controller, more) := controller.respondAll requestId rest
    (controller, warnings ++ more)

def keep (controller : Controller) (requestId : Int) : Controller :=
  match Entries.find? requestId controller.tickets with
  | none => controller
  | some ticket =>
    { controller with
      tickets := Entries.insert requestId { ticket with kept := true } controller.tickets }

def ask (controller : Controller) (request : Request) : List Provider →
    Bool × Controller × List Warning
  | [] => (false, controller, [])
  | provider :: rest =>
    let reaction := provider request
    let (controller, warnings) := controller.respondAll request.id reaction.answers
    let controller := if reaction.keeps then controller.keep request.id else controller
    match reaction.verdict with
    | some accepted => (accepted, controller, warnings)
    | none =>
      let (accepted, controller, more) := controller.ask request rest
      (accepted, controller, warnings ++ more)

/-- Requests a completion. The request gets the given id, which must be above that of the request
before, or else the next one. The providers are given in the order in which they were registered;
the last one is asked first. -/
def trigger (controller : Controller) (providers : List Provider) (buffer : BufferId)
    (position : Position) (requestId : Option Int) : Outcome Int :=
  let current := controller.session.requestId
  let id := requestId.getD (current + 1)
  if id ≤ current then ⟨.error (.staleRequest id current), controller, [], []⟩
  else
    let started := controller.session.start id buffer position
    let ticketed := { controller with
      session := started
      tickets := Entries.insert id { input := started.input } controller.tickets }
    let (accepted, asked, warnings) := ticketed.ask ⟨id, buffer, position⟩ providers.reverse
    ⟨.ok id, asked, notifications controller.session started,
      warnings ++ if accepted then [] else [.notAccepted id buffer]⟩

def isKept (controller : Controller) (requestId : Int) : Bool :=
  (Entries.find? requestId controller.tickets).any Ticket.kept

/-- A provider that kept a request answers it; `false` if none kept it. -/
def answer (controller : Controller) (requestId : Int) (response : Response) : Outcome Bool :=
  if controller.isKept requestId then
    let (after, warnings) := controller.respond requestId response
    ⟨.ok true, after, [], warnings⟩
  else ⟨.ok false, controller, [], []⟩

def receive (controller : Controller) (requestId : Int) (input : String) (items : List Item) :
    Outcome Bool :=
  controller.outcomeOf (controller.session.receive requestId input items)

/-- Delivers messages in order, and counts those that the session takes. If one fails, those after
it stay in the mailbox. -/
def deliver (controller : Controller) : List Message → Outcome Nat
  | [] => ⟨.ok 0, { controller with mailbox := [] }, [], []⟩
  | message :: rest =>
    let first := { controller with mailbox := rest }.receive message.requestId message.input
      message.items
    match first.result with
    | .error failure => ⟨.error failure, first.controller, first.events, []⟩
    | .ok taken =>
      let others := first.controller.deliver rest
      ⟨others.result.map fun count => (if taken then 1 else 0) + count, others.controller,
        first.events ++ others.events, []⟩

def deliverAll (controller : Controller) : Outcome Nat := controller.deliver controller.mailbox

def enter (controller : Controller) (input : String) : Outcome Unit :=
  controller.outcomeOf (controller.session.enter input)

def next (controller : Controller) : Outcome Unit :=
  controller.outcomeOf ⟨.ok (), controller.session.next⟩

def previous (controller : Controller) : Outcome Unit :=
  controller.outcomeOf ⟨.ok (), controller.session.previous⟩

def cancel (controller : Controller) : Outcome Unit :=
  controller.outcomeOf ⟨.ok (), controller.session.cancel⟩

def withdraw (controller : Controller) (requestId : Int) : Outcome Unit :=
  if controller.session.requestId = requestId then controller.cancel
  else ⟨.ok (), controller, [], []⟩

def configure (controller : Controller) (config : Json) : Outcome Unit :=
  match Settings.ofJson config with
  | .error error => ⟨.error (.settingsRefused error), controller, [], []⟩
  | .ok settings =>
    let session := controller.session.setWrapAround settings.wrapAround
    ⟨.ok (), { controller with settings := settings, session := session }, [], []⟩

def selectedItem (controller : Controller) : Except Failure Item :=
  match controller.session.selected? with
  | some candidate => .ok candidate.item
  | none => .error .nothingSelected

def insertion (controller : Controller) (offset : Int) : Except Failure Insertion :=
  match controller.selectedItem with
  | .error failure => .error failure
  | .ok item =>
    match item.insertion offset controller.settings.snippetSupport with
    | .ok insertion => .ok insertion
    | .error overflow => .error (.tooManyDigits overflow)

end Controller

end Autocomplete
