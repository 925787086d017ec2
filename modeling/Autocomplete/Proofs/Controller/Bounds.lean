import Autocomplete.Proofs.Controller.SessionRun

namespace Autocomplete.Controller

structure Bounded (controller : Controller) : Prop where
  natural : 0 ≤ controller.session.requestId
  mailbox : ∀ message ∈ controller.mailbox, message.requestId ≤ controller.session.requestId
  tickets : ∀ id ticket, Entries.find? id controller.tickets = some ticket →
    id ≤ controller.session.requestId
  wrapAround : controller.session.wrapAround = controller.settings.wrapAround

theorem bounded_new (scorer : Scorer) (settings : Settings) (decodeAll : ListDecoder) :
    Bounded (new scorer settings decodeAll) :=
  ⟨Int.le_refl 0, nofun, nofun, rfl⟩

namespace Bounded

variable {controller : Controller} (bounded : controller.Bounded)
include bounded

theorem framed {after : Session} (continues : controller.session.Continues after) :
    Bounded { controller with session := after } := by
  obtain ⟨requestId, wrapAround⟩ := continues
  refine ⟨?_, ?_, ?_, wrapAround.trans bounded.wrapAround⟩ <;> dsimp only <;> rw [requestId]
  · exact bounded.natural
  · exact bounded.mailbox
  · exact bounded.tickets

theorem outcomeOf {outcome : Session.Outcome α}
    (continues : controller.session.Continues outcome.session) :
    Bounded (controller.outcomeOf outcome).controller := by
  rw [controller_outcomeOf]
  exact bounded.framed continues

theorem posted {mailbox : List Message}
    (known : ∀ message ∈ mailbox, message.requestId ≤ controller.session.requestId) :
    Bounded { controller with mailbox := mailbox } :=
  ⟨bounded.natural, known, bounded.tickets, bounded.wrapAround⟩

theorem ticketed {id : Int} (known : id ≤ controller.session.requestId) (ticket : Ticket) :
    Bounded { controller with tickets := Entries.insert id ticket controller.tickets } := by
  refine ⟨bounded.natural, bounded.mailbox, ?_, bounded.wrapAround⟩
  intro id' ticket' found
  rw [Entries.find?_insert] at found
  split at found
  · next same => exact same ▸ known
  · exact bounded.tickets id' ticket' found

theorem keep (requestId : Int) : Bounded (controller.keep requestId) := by
  unfold Controller.keep
  cases found : Entries.find? requestId controller.tickets with
  | none => exact bounded
  | some ticket => exact bounded.ticketed (bounded.tickets requestId ticket found) _

theorem respond (requestId : Int) (response : Response) :
    Bounded (controller.respond requestId response).1 := by
  rcases controller.respond_cases requestId response with
    same | ⟨ticket, found, failed⟩ | ⟨ticket, items, found, _, posted⟩
  · rwa [same]
  · rw [failed]
    exact bounded.ticketed (bounded.tickets requestId ticket found) _
  · have known := bounded.tickets requestId ticket found
    have waiting : Bounded { controller with
        mailbox := controller.mailbox ++ [⟨requestId, ticket.input, items⟩] } := by
      apply bounded.posted
      intro message member
      rcases List.mem_append.1 member with waiting | new
      · exact bounded.mailbox message waiting
      · rwa [List.mem_singleton.1 new]
    rw [posted]
    exact waiting.ticketed known _

theorem ask (request : Request) (providers : List Provider) :
    Bounded (controller.ask request providers).2.1 :=
  ask_induction (fun _ response known => known.respond request.id response)
    (fun _ known => known.keep request.id) bounded providers

theorem begun {request : Request} (above : controller.session.requestId < request.id) :
    Bounded (controller.begun request) := by
  refine ⟨Int.le_of_lt (Int.lt_of_le_of_lt bounded.natural above), ?_, ?_, ?_⟩
  · intro message member
    exact Int.le_of_lt (Int.lt_of_le_of_lt (bounded.mailbox message member) above)
  · intro id ticket found
    rw [Controller.begun, Entries.find?_insert] at found
    split at found
    · next same => exact Int.le_of_eq same.symm
    · exact Int.le_of_lt (Int.lt_of_le_of_lt (bounded.tickets id ticket found) above)
  · exact (controller.session.wrapAround_start _ _ _).trans bounded.wrapAround

theorem trigger (providers : List Provider) (buffer : BufferId) (position : Position)
    (requestId : Option Int) :
    Bounded (controller.trigger providers buffer position requestId).controller := by
  rcases controller.trigger_cases providers buffer position requestId with
    ⟨id, refused⟩ | ⟨id, above, _, after⟩
  · rwa [refused]
  · rw [after]
    exact (bounded.begun above).ask _ _

theorem receive (requestId : Int) (input : String) (items : List Item) :
    Bounded (controller.receive requestId input items).controller :=
  bounded.outcomeOf (controller.session.continues_receive requestId input items)

omit bounded in
theorem deliver {messages : List Message}
    (bounded : Bounded { controller with mailbox := messages }) :
    Bounded (controller.deliver messages).controller := by
  induction messages generalizing controller with
  | nil => exact bounded
  | cons message rest ih =>
      have others : Bounded { controller with mailbox := rest } :=
        bounded.posted fun other member => bounded.mailbox other (List.mem_cons_of_mem _ member)
      have received := others.receive message.requestId message.input message.items
      have waiting : ({ controller with mailbox := rest }.receive message.requestId message.input
          message.items).controller.mailbox = rest := by
        rw [Controller.receive, controller_outcomeOf]
      unfold Controller.deliver
      dsimp only at received waiting ⊢
      generalize Controller.receive _ _ _ _ = first at received waiting ⊢
      cases first.result with
      | error failure => exact received
      | ok taken =>
          apply ih
          rwa [← waiting]

theorem cancel : Bounded controller.cancel.controller :=
  bounded.framed controller.session.continues_cancel

theorem perform (operation : Operation) : Bounded (controller.perform operation).controller := by
  cases operation with
  | trigger providers buffer position requestId =>
      exact bounded.trigger providers buffer position requestId
  | answer requestId response =>
      change Bounded (controller.answer requestId response).controller
      unfold Controller.answer
      split
      · exact bounded.respond requestId response
      · exact bounded
  | deliverAll => exact Bounded.deliver bounded
  | receive requestId input items => exact bounded.receive requestId input items
  | enter input => exact bounded.outcomeOf (controller.session.continues_enter input)
  | next | previous => exact bounded.framed ⟨rfl, rfl⟩
  | cancel => exact bounded.cancel
  | withdraw requestId =>
      change Bounded (controller.withdraw requestId).controller
      unfold Controller.withdraw
      split
      · exact bounded.cancel
      · exact bounded
  | configure config =>
      change Bounded (controller.configure config).controller
      unfold Controller.configure
      split
      · exact bounded
      · exact ⟨bounded.natural, bounded.mailbox, bounded.tickets, rfl⟩

theorem performAll (operations : List Operation) : Bounded (controller.performAll operations) := by
  induction operations generalizing controller with
  | nil => exact bounded
  | cons operation rest ih => exact ih (bounded.perform operation)

end Bounded

end Autocomplete.Controller
