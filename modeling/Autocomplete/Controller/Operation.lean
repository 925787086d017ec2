import Autocomplete.Controller.Basic

namespace Autocomplete.Controller

inductive Operation where
  | trigger (providers : List Provider) (buffer : BufferId) (position : Position)
      (requestId : Option Int)
  | answer (requestId : Int) (response : Response)
  | deliverAll
  | receive (requestId : Int) (input : String) (items : List Item)
  | enter (input : String)
  | next
  | previous
  | cancel
  | withdraw (requestId : Int)
  | configure (config : Json)

inductive Reply where
  | done
  | number (n : Int)
  | flag (value : Bool)
  deriving DecidableEq, Repr

def Outcome.map (f : α → β) (outcome : Outcome α) : Outcome β :=
  ⟨outcome.result.map f, outcome.controller, outcome.events, outcome.warnings⟩

def perform (controller : Controller) : Operation → Outcome Reply
  | .trigger providers buffer position requestId =>
    (controller.trigger providers buffer position requestId).map .number
  | .answer requestId response => (controller.answer requestId response).map .flag
  | .deliverAll => controller.deliverAll.map fun (count : Nat) => .number count
  | .receive requestId input items => (controller.receive requestId input items).map .flag
  | .enter input => (controller.enter input).map fun _ => .done
  | .next => controller.next.map fun _ => .done
  | .previous => controller.previous.map fun _ => .done
  | .cancel => controller.cancel.map fun _ => .done
  | .withdraw requestId => (controller.withdraw requestId).map fun _ => .done
  | .configure config => (controller.configure config).map fun _ => .done

end Autocomplete.Controller
