import Autocomplete.Session.Basic

namespace Autocomplete.Session

inductive Operation where
  | start (requestId : Int) (buffer : BufferId) (position : Position)
  | receive (requestId : Int) (input : String) (items : List Item)
  | enter (input : String)
  | next
  | previous
  | cancel
  | setWrapAround (wrapAround : Bool)
  deriving DecidableEq, Repr

def perform (session : Session) : Operation → Outcome (Option Bool)
  | .start requestId buffer position => ⟨.ok none, session.start requestId buffer position⟩
  | .receive requestId input items =>
    let outcome := session.receive requestId input items
    ⟨outcome.result.map some, outcome.session⟩
  | .enter input =>
    let outcome := session.enter input
    ⟨outcome.result.map fun _ => none, outcome.session⟩
  | .next => ⟨.ok none, session.next⟩
  | .previous => ⟨.ok none, session.previous⟩
  | .cancel => ⟨.ok none, session.cancel⟩
  | .setWrapAround wrapAround => ⟨.ok none, session.setWrapAround wrapAround⟩

end Autocomplete.Session
