import Autocomplete.Proofs.Controller.SessionRun
import Autocomplete.Proofs.Session.Identity

namespace Autocomplete

structure View where
  status : Status
  input : String
  requestId : Int
  displayed : List Candidate
  index : Nat
  deriving DecidableEq, Repr

def Session.view (session : Session) : View :=
  ⟨session.status, session.input, session.requestId, session.displayed.candidates, session.index⟩

namespace Session

def change (session : Session) : Event :=
  .changed session.status session.input session.requestId session.displayed.candidates

/-- A displayed list with another stamp is another list, even with the same candidates. -/
def Differs (before after : Session) : Prop :=
  before.status ≠ after.status ∨ before.input ≠ after.input ∨
    before.requestId ≠ after.requestId ∨ before.displayed.stamp ≠ after.displayed.stamp

theorem not_differs_refl (session : Session) : ¬ session.Differs session := by simp [Differs]

end Session

namespace Controller

/-! ## Notifications -/

theorem notifications_of_not_differs {before after : Session} (same : ¬ before.Differs after) :
    notifications before after =
      if before.index ≠ after.index then [.selected after.index] else [] := by
  unfold Session.Differs at same
  rw [notifications, if_neg same]
  rfl

theorem notifications_eq_nil {before after : Session} (same : ¬ before.Differs after)
    (index : before.index = after.index) : notifications before after = [] := by
  simp [notifications_of_not_differs same, index]

def told (controller : Controller) : List Operation → List Event
  | [] => []
  | operation :: rest =>
    (controller.perform operation).events ++ (controller.perform operation).controller.told rest

/-! ## Messages -/

theorem receive_posted (controller : Controller) (mailbox : List Message) (requestId : Int)
    (input : String) (items : List Item) :
    let first := controller.receive requestId input items
    { controller with mailbox := mailbox }.receive requestId input items =
      ⟨first.result, { first.controller with mailbox := mailbox }, first.events, first.warnings⟩ := by
  unfold receive outcomeOf
  dsimp only
  split <;> rfl

theorem deliver_posted (controller : Controller) (messages : List Message)
    {mailbox : List Message} :
    { controller with mailbox := mailbox }.deliver messages = controller.deliver messages := by
  cases messages <;> rfl

theorem deliver_cons (controller : Controller) (message : Message) (rest : List Message) :
    let first := controller.receive message.requestId message.input message.items
    let others := first.controller.deliver rest
    controller.deliver (message :: rest) =
      match first.result with
      | .error failure =>
        ⟨.error failure, { first.controller with mailbox := rest }, first.events, []⟩
      | .ok taken =>
        ⟨others.result.map fun count => (if taken then 1 else 0) + count, others.controller,
          first.events ++ others.events, []⟩ := by
  intro first others
  have posted : { controller with mailbox := rest }.receive message.requestId message.input
      message.items =
        ⟨first.result, { first.controller with mailbox := rest }, first.events, first.warnings⟩ :=
    controller.receive_posted rest message.requestId message.input message.items
  rw [deliver, posted]
  dsimp only
  cases first.result with
  | error failure => rfl
  | ok taken =>
      dsimp only
      rw [deliver_posted]

section Mirror

variable {scorer : Scorer} (total : scorer.Total) {controller : Controller}
  (coherent : Session.Coherent scorer controller.session) (stamped : controller.session.Stamped)
include total coherent stamped

end Mirror

/-! ## Operations that change nothing -/

theorem receive_of_discarded {controller : Controller} {requestId : Int} {input : String}
    {items : List Item} (discarded : (controller.receive requestId input items).result = .ok false) :
    controller.receive requestId input items = ⟨.ok false, controller, [], []⟩ := by
  rcases controller.session.receive_cases requestId input items with
    ⟨_, _, _, taken⟩ | ⟨_, same⟩
  · unfold receive outcomeOf at discarded
    split at discarded
    · next value result =>
      cases discarded
      exact absurd result taken
    · cases discarded
  · have silent := notifications_eq_nil controller.session.not_differs_refl rfl
    simp only [receive, outcomeOf, same, silent]

theorem receive_of_other {controller : Controller} {requestId : Int}
    (other : controller.session.requestId ≠ requestId) (input : String) (items : List Item) :
    (controller.receive requestId input items).result = .ok false := by
  rcases controller.session.receive_cases requestId input items with ⟨_, current, _⟩ | ⟨_, same⟩
  · exact absurd current other
  · rw [receive, same]
    rfl

theorem warnings_deliver (controller : Controller) (messages : List Message) :
    (controller.deliver messages).warnings = [] := by
  cases messages with
  | nil => rfl
  | cons message rest =>
      unfold deliver
      dsimp only
      split <;> rfl

theorem deliver_of_discarded {controller : Controller} {message : Message} {rest : List Message}
    (discarded : (controller.receive message.requestId message.input message.items).result =
      .ok false) :
    controller.deliver (message :: rest) = controller.deliver rest := by
  have unlogged := controller.warnings_deliver rest
  rw [deliver_cons, receive_of_discarded discarded]
  dsimp only
  generalize controller.deliver rest = others at unlogged ⊢
  obtain ⟨result, after, events, warnings⟩ := others
  obtain rfl : warnings = [] := unlogged
  cases result with
  | error failure => rfl
  | ok count => simp [Except.map]

end Controller

end Autocomplete
