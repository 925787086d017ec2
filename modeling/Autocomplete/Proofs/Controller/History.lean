import Autocomplete.Controller.Operation
import Autocomplete.Proofs.Session.Frame
import Mathlib.Data.List.Basic

namespace Autocomplete.Controller

inductive Happening where
  | requested (request : Request) (input : String)
  | answered (requestId : Int) (response : Response)
  | delivered (message : Message) (taken : Bool)
  | cancelled

/-- After this no answer to an earlier request counts. -/
def Happening.Closes : Happening → Prop
  | requested .. | cancelled => True
  | answered .. | delivered .. => False

def answersAtOnce (request : Request) : List Provider → List Response
  | [] => []
  | provider :: rest =>
    (provider request).answers ++
      match (provider request).verdict with
      | some _ => []
      | none => answersAtOnce request rest

def deliveries (controller : Controller) : List Message → List Happening
  | [] => []
  | message :: rest =>
    let first := { controller with mailbox := rest }.receive message.requestId message.input
      message.items
    match first.result with
    | .error _ => []
    | .ok taken => .delivered message taken :: first.controller.deliveries rest

def happenings (controller : Controller) : Operation → List Happening
  | .trigger providers buffer position requestId =>
    match (controller.trigger providers buffer position requestId).result with
    | .error _ => []
    | .ok id =>
      .requested ⟨id, buffer, position⟩ controller.session.input ::
        (answersAtOnce ⟨id, buffer, position⟩ providers.reverse).map (.answered id)
  | .answer requestId response =>
    if controller.isKept requestId then [.answered requestId response] else []
  | .deliverAll => controller.deliveries controller.mailbox
  | .cancel => [.cancelled]
  | .withdraw requestId => if controller.session.requestId = requestId then [.cancelled] else []
  | .receive .. | .enter .. | .next | .previous | .configure .. => []

def begun (controller : Controller) (request : Request) : Controller :=
  { controller with
    session := controller.session.start request.id request.buffer request.position
    tickets := Entries.insert request.id { input := controller.session.input } controller.tickets }

def performAll (controller : Controller) : List Operation → Controller
  | [] => controller
  | operation :: rest => (controller.perform operation).controller.performAll rest

def history (controller : Controller) : List Operation → List Happening
  | [] => []
  | operation :: rest =>
    controller.happenings operation ++ (controller.perform operation).controller.history rest

def Operation.IsMediated : Operation → Prop
  | .receive .. => False
  | _ => True

/-- The settings that an operation puts in force. -/
def Operation.settings? : Operation → Option Settings
  | .configure config => (Settings.ofJson config).toOption
  | _ => none

def requestIds (history : List Happening) : List Int :=
  history.filterMap fun
    | .requested request _ => some request.id
    | _ => none

/-- The request was made under the input; `later` is what has happened since. -/
def Made (history : List Happening) (request : Request) (input : String)
    (later : List Happening) : Prop :=
  ∃ earlier, history = earlier ++ .requested request input :: later

theorem trigger_cases (controller : Controller) (providers : List Provider) (buffer : BufferId)
    (position : Position) (requestId : Option Int) :
    (∃ id, controller.trigger providers buffer position requestId =
      ⟨.error (.staleRequest id controller.session.requestId), controller, [], []⟩) ∨
    ∃ id, controller.session.requestId < id ∧
      (controller.trigger providers buffer position requestId).result = .ok id ∧
      (controller.trigger providers buffer position requestId).controller =
        ((controller.begun ⟨id, buffer, position⟩).ask ⟨id, buffer, position⟩
          providers.reverse).2.1 := by
  by_cases stale :
      requestId.getD (controller.session.requestId + 1) ≤ controller.session.requestId
  · refine .inl ⟨requestId.getD (controller.session.requestId + 1), ?_⟩
    rw [trigger, if_pos stale]
  · refine .inr ⟨requestId.getD (controller.session.requestId + 1), Int.not_le.1 stale, ?_⟩
    rw [trigger, if_neg stale]
    refine ⟨rfl, ?_⟩
    rw [begun]
    simp only [Session.input_start]

theorem requestIds_append (a b : List Happening) :
    requestIds (a ++ b) = requestIds a ++ requestIds b := List.filterMap_append

theorem requestIds_requested (request : Request) (input : String) (later : List Happening) :
    requestIds (.requested request input :: later) = request.id :: requestIds later := rfl

theorem Made.append {history : List Happening} {request : Request} {input : String}
    {later : List Happening} (made : Made history request input later) (more : List Happening) :
    Made (history ++ more) request input (later ++ more) := by
  obtain ⟨earlier, rfl⟩ := made
  exact ⟨earlier, by rw [List.append_assoc, List.cons_append]⟩

theorem Made.unique {history : List Happening} {request request' : Request}
    {input input' : String} {later later' : List Happening}
    (increasing : (requestIds history).Pairwise (· < ·)) (made : Made history request input later)
    (made' : Made history request' input' later') (same : request.id = request'.id) :
    request = request' ∧ input = input' ∧ later = later' := by
  obtain ⟨earlier, rfl⟩ := made
  obtain ⟨earlier', split⟩ := made'
  induction earlier generalizing earlier' with
  | nil =>
      cases earlier' with
      | nil =>
          obtain ⟨sameEvent, sameLater⟩ := List.cons.inj split
          obtain ⟨sameRequest, sameInput⟩ := Happening.requested.inj sameEvent
          exact ⟨sameRequest, sameInput, sameLater⟩
      | cons first earlier' =>
          obtain ⟨_, rfl⟩ := List.cons.inj split
          rw [List.nil_append, requestIds_requested, List.append_eq, requestIds_append,
            requestIds_requested] at increasing
          have below := (List.pairwise_cons.1 increasing).1 request'.id (by simp)
          omega
  | cons first earlier ih =>
      rw [List.cons_append] at split
      cases earlier' with
      | nil =>
          obtain ⟨rfl, rfl⟩ := List.cons.inj split
          rw [List.cons_append, requestIds_requested, requestIds_append, requestIds_requested]
            at increasing
          have below := (List.pairwise_cons.1 increasing).1 request.id (by simp)
          omega
      | cons first' earlier' =>
          obtain ⟨rfl, rest⟩ := List.cons.inj split
          refine ih ?_ earlier' rest
          have tail : (requestIds (earlier ++ .requested request input :: later)).Sublist
              (requestIds (first :: earlier ++ .requested request input :: later)) :=
            List.Sublist.filterMap _ (List.sublist_cons_self _ _)
          exact increasing.sublist tail

theorem split_concat {history earlier later : List Happening} {event last : Happening}
    (split : history ++ [last] = earlier ++ event :: later) :
    (later = [] ∧ event = last ∧ earlier = history) ∨
      ∃ before, later = before ++ [last] ∧ history = earlier ++ event :: before := by
  rcases List.eq_nil_or_concat' later with rfl | ⟨before, final, rfl⟩
  · obtain ⟨rfl, same⟩ := List.append_inj' split rfl
    exact .inl ⟨rfl, (List.cons.inj same).1.symm, rfl⟩
  · rw [← List.cons_append, ← List.append_assoc] at split
    obtain ⟨rfl, same⟩ := List.append_inj' split rfl
    obtain rfl := (List.cons.inj same).1
    exact .inr ⟨before, rfl, rfl⟩

theorem made_of_mem_requestIds {history : List Happening} {id : Int}
    (member : id ∈ requestIds history) :
    ∃ request input later, Made history request input later ∧ request.id = id := by
  obtain ⟨event, inside, own⟩ := List.mem_filterMap.1 member
  obtain ⟨earlier, later, rfl⟩ := List.append_of_mem inside
  cases event with
  | requested request input => exact ⟨request, input, later, ⟨earlier, rfl⟩, Option.some.inj own⟩
  | answered | delivered | cancelled => cases own

end Autocomplete.Controller
