import Autocomplete.Proofs.Controller.SessionRun

/-!
# No stale answer reaches the session

`Fresh` relates a controller to the history of its run: which request is the latest, and which
requests the tickets, the waiting messages and the answers in the cache belong to. Every kind of
happening keeps it, and so does every run.
-/

namespace Autocomplete.Controller

def IsAt (request : Request) (session : Session) : Prop :=
  request.buffer = session.buffer ∧ some request.position = session.position

def IsCurrent (history : List Happening) (message : Message) : Prop :=
  ∃ request later, Made history request message.input later ∧ request.id = message.requestId ∧
    ∀ event ∈ later, ¬ event.Closes

def IsAnswer (decodeAll : ListDecoder) (history : List Happening) (message : Message) : Prop :=
  ∃ request later response, Made history request message.input later ∧
    request.id = message.requestId ∧ .answered message.requestId response ∈ later ∧
      response.decodeBy decodeAll = .ok message.items

/-- The candidates are the answer to a request that was made at the session's place under the input,
with no cancellation since. -/
def IsKept (decodeAll : ListDecoder) (history : List Happening) (session : Session)
    (input : String) (candidates : List Candidate) : Prop :=
  ∃ request later response items, Made history request input later ∧ .cancelled ∉ later ∧
    IsAt request session ∧ .answered request.id response ∈ later ∧
      response.decodeBy decodeAll = .ok items ∧ candidates = items.map fun item => { item := item }

structure Fresh (history : List Happening) (controller : Controller) : Prop where
  increasing : (requestIds history).Pairwise (· < ·)
  latest : ∀ id ∈ requestIds history, id ≤ controller.session.requestId
  live : controller.session.status = .started →
    ∃ request input later, Made history request input later ∧
      request.id = controller.session.requestId ∧ IsAt request controller.session ∧
        ∀ event ∈ later, ¬ event.Closes
  blank : controller.session.status = .inactive → controller.session.cache = []
  cached : ∀ entry ∈ controller.session.cache,
    IsKept controller.decodeAll history controller.session entry.1 entry.2.candidates
  waiting : ∀ message ∈ controller.mailbox, IsAnswer controller.decodeAll history message
  tickets : ∀ id ticket, Entries.find? id controller.tickets = some ticket →
    ∃ request later, Made history request ticket.input later ∧ request.id = id
  taken : ∀ earlier message later, history = earlier ++ .delivered message true :: later →
    IsCurrent earlier message

theorem IsAnswer.append {decodeAll : ListDecoder} {history : List Happening} {message : Message}
    (answer : IsAnswer decodeAll history message) (more : List Happening) :
    IsAnswer decodeAll (history ++ more) message := by
  obtain ⟨request, later, response, made, same, given, decoded⟩ := answer
  exact ⟨request, later ++ more, response, made.append more, same, List.mem_append_left more given,
    decoded⟩

theorem IsKept.append {decodeAll : ListDecoder} {history more : List Happening} {session : Session}
    {input : String} {candidates : List Candidate}
    (kept : IsKept decodeAll history session input candidates) (uncancelled : .cancelled ∉ more) :
    IsKept decodeAll (history ++ more) session input candidates := by
  obtain ⟨request, later, response, items, made, since, place, given, decoded, rfl⟩ := kept
  refine ⟨request, later ++ more, response, items, made.append more, ?_, place,
    List.mem_append_left more given, decoded, rfl⟩
  intro member
  rcases List.mem_append.1 member with before | after
  · exact since before
  · exact uncancelled after

theorem IsKept.moved {decodeAll : ListDecoder} {history : List Happening}
    {session after : Session} {input : String} {candidates : List Candidate}
    (kept : IsKept decodeAll history session input candidates)
    (buffer : after.buffer = session.buffer) (position : after.position = session.position) :
    IsKept decodeAll history after input candidates := by
  obtain ⟨request, later, response, items, made, since, place, rest⟩ := kept
  exact ⟨request, later, response, items, made, since,
    ⟨place.1.trans buffer.symm, place.2.trans position.symm⟩, rest⟩

section Steps

variable {history : List Happening} {controller : Controller} (fresh : Fresh history controller)
include fresh

theorem Fresh.taken_concat {event : Happening}
    (accepted : ∀ message, event = .delivered message true → IsCurrent history message)
    {earlier : List Happening} {message : Message} {later : List Happening}
    (split : history ++ [event] = earlier ++ .delivered message true :: later) :
    IsCurrent earlier message := by
  rcases split_concat split with ⟨_, last, rfl⟩ | ⟨before, _, inside⟩
  · exact accepted message last.symm
  · exact fresh.taken earlier message before inside

theorem Fresh.concat {event : Happening} (quiet : ¬ event.Closes)
    (accepted : ∀ message, event = .delivered message true → IsCurrent history message) :
    Fresh (history ++ [event]) controller := by
  have ids : requestIds (history ++ [event]) = requestIds history := by
    rw [requestIds_append]
    cases event with
    | requested | cancelled => exact absurd trivial quiet
    | answered | delivered => exact List.append_nil _
  refine ⟨ids ▸ fresh.increasing, ids ▸ fresh.latest, ?_, fresh.blank, ?_, ?_, ?_, ?_⟩
  · intro started
    obtain ⟨request, input, later, made, same, place, since⟩ := fresh.live started
    refine ⟨request, input, later ++ [event], made.append _, same, place, ?_⟩
    intro other member
    rcases List.mem_append.1 member with before | last
    · exact since other before
    · rwa [List.mem_singleton.1 last]
  · intro entry member
    refine (fresh.cached entry member).append fun cancelled => ?_
    rw [← List.mem_singleton.1 cancelled] at quiet
    exact quiet trivial
  · exact fun message member => (fresh.waiting message member).append _
  · intro id ticket found
    obtain ⟨request, later, made, same⟩ := fresh.tickets id ticket found
    exact ⟨request, later ++ [event], made.append _, same⟩
  · exact fun _ _ _ split => fresh.taken_concat accepted split

theorem Fresh.frame {after : Session} (same : Session.SameAnswers controller.session after) :
    Fresh history { controller with session := after } := by
  refine ⟨fresh.increasing, ?_, ?_, ?_, ?_, fresh.waiting, fresh.tickets, fresh.taken⟩
  · exact fun id member => same.requestId ▸ fresh.latest id member
  · intro started
    obtain ⟨request, input, later, made, id, place, since⟩ :=
      fresh.live (same.status.symm.trans started)
    exact ⟨request, input, later, made, id.trans same.requestId.symm,
      ⟨place.1.trans same.buffer.symm, place.2.trans same.position.symm⟩, since⟩
  · exact fun inactive => same.cache.trans (fresh.blank (same.status.symm.trans inactive))
  · intro entry member
    exact (fresh.cached entry (same.cache ▸ member)).moved same.buffer same.position

theorem Fresh.reticketed {id : Int} {before ticket : Ticket}
    (old : Entries.find? id controller.tickets = some before) (same : ticket.input = before.input) :
    Fresh history { controller with tickets := Entries.insert id ticket controller.tickets } := by
  refine ⟨fresh.increasing, fresh.latest, fresh.live, fresh.blank, fresh.cached, fresh.waiting, ?_,
    fresh.taken⟩
  intro id' ticket' found
  rw [Entries.find?_insert] at found
  split at found
  · next here =>
    subst here
    obtain rfl := Option.some.inj found
    rw [same]
    exact fresh.tickets id before old
  · exact fresh.tickets id' ticket' found

theorem Fresh.posted {mailbox : List Message}
    (answers : ∀ message ∈ mailbox, IsAnswer controller.decodeAll history message) :
    Fresh history { controller with mailbox := mailbox } :=
  ⟨fresh.increasing, fresh.latest, fresh.live, fresh.blank, fresh.cached, answers, fresh.tickets,
    fresh.taken⟩

theorem Fresh.keep (requestId : Int) : Fresh history (controller.keep requestId) := by
  unfold Controller.keep
  cases old : Entries.find? requestId controller.tickets with
  | none => exact fresh
  | some before => exact fresh.reticketed old rfl

theorem Fresh.respond (requestId : Int) (response : Response) :
    Fresh (history ++ [.answered requestId response])
      (controller.respond requestId response).1 := by
  have longer : Fresh (history ++ [.answered requestId response]) controller :=
    fresh.concat id nofun
  rcases controller.respond_cases requestId response with
    same | ⟨ticket, old, failed⟩ | ⟨ticket, items, old, decoded, posted⟩
  · rwa [same]
  · rw [failed]
    exact longer.reticketed old rfl
  · have waiting : Fresh (history ++ [.answered requestId response]) { controller with
        mailbox := controller.mailbox ++ [⟨requestId, ticket.input, items⟩] } := by
      apply longer.posted
      intro message member
      rcases List.mem_append.1 member with waiting | new
      · exact longer.waiting message waiting
      · obtain rfl := List.mem_singleton.1 new
        -- The input may have changed since the request; the ticket still knows it.
        obtain ⟨request, later, made, same⟩ := fresh.tickets requestId ticket old
        exact ⟨request, later ++ [.answered requestId response], response, made.append _, same,
          List.mem_append_right _ (List.mem_singleton.2 rfl), decoded⟩
    rw [posted]
    exact waiting.reticketed old rfl

theorem Fresh.ask (request : Request) (providers : List Provider) :
    Fresh (history ++ (answersAtOnce request providers).map (.answered request.id))
      (controller.ask request providers).2.1 :=
  ask_history (fun _ _ response before => before.respond request.id response)
    (fun _ _ before => before.keep request.id) fresh providers

theorem Fresh.requested {request : Request} (above : controller.session.requestId < request.id) :
    Fresh (history ++ [.requested request controller.session.input])
      (controller.begun request) := by
  have made : Made (history ++ [.requested request controller.session.input]) request
      controller.session.input [] := ⟨history, rfl⟩
  refine ⟨?_, ?_, ?_, nofun, ?_, ?_, ?_, ?_⟩
  -- The new id is above all earlier ones, so the request is the latest.
  · rw [requestIds_append, requestIds_requested, List.pairwise_append]
    refine ⟨fresh.increasing, List.pairwise_singleton _ _, ?_⟩
    intro id member id' last
    obtain rfl := List.mem_singleton.1 last
    exact Int.lt_of_le_of_lt (fresh.latest id member) above
  · intro id member
    rw [requestIds_append, requestIds_requested] at member
    rcases List.mem_append.1 member with before | last
    · exact Int.le_of_lt (Int.lt_of_le_of_lt (fresh.latest id before) above)
    · exact Int.le_of_eq (List.mem_singleton.1 last)
  · exact fun _ => ⟨request, _, [], made, rfl, ⟨rfl, rfl⟩, nofun⟩
  · intro entry member
    obtain ⟨old, place⟩ := Session.cache_start member
    have kept : IsKept controller.decodeAll
        (history ++ [.requested request controller.session.input]) controller.session entry.1
        entry.2.candidates := (fresh.cached entry old).append (by simp)
    cases status : controller.session.status with
    | inactive =>
        rw [fresh.blank status] at old
        cases old
    | started =>
        obtain ⟨buffer, position⟩ := place status
        exact kept.moved buffer.symm position.symm
  · exact fun message member => (fresh.waiting message member).append _
  · intro id ticket found
    rw [begun, Entries.find?_insert] at found
    split at found
    · next same =>
      obtain rfl := Option.some.inj found
      exact ⟨request, [], made, same⟩
    · obtain ⟨before, later, earlier, same⟩ := fresh.tickets id ticket found
      exact ⟨before, _, earlier.append _, same⟩
  · exact fun _ _ _ split => fresh.taken_concat (fun _ same => by cases same) split

theorem Fresh.cancelled : Fresh (history ++ [.cancelled])
    { controller with session := controller.session.cancel } := by
  have ids : requestIds (history ++ [.cancelled]) = requestIds history := by
    rw [requestIds_append]
    exact List.append_nil _
  obtain ⟨inactive, blank⟩ := Session.cache_cancel fresh.blank
  refine ⟨ids ▸ fresh.increasing, ?_, ?_, fun _ => blank, ?_, ?_, ?_, ?_⟩
  · intro id member
    rw [ids] at member
    rw [Session.requestId_cancel]
    exact fresh.latest id member
  · intro started
    rw [inactive] at started
    cases started
  · intro entry member
    rw [blank] at member
    cases member
  · exact fun message member => (fresh.waiting message member).append _
  · intro id ticket found
    obtain ⟨request, later, made, same⟩ := fresh.tickets id ticket found
    exact ⟨request, _, made.append _, same⟩
  · exact fun _ _ _ split => fresh.taken_concat (fun _ same => by cases same) split

theorem Fresh.current {message : Message}
    (answer : IsAnswer controller.decodeAll history message)
    (started : controller.session.status = .started)
    (same : controller.session.requestId = message.requestId) :
    IsCurrent history message ∧
      IsKept controller.decodeAll history controller.session message.input
        (message.items.map fun item => { item := item }) := by
  obtain ⟨request, input, later, made, id, place, since⟩ := fresh.live started
  obtain ⟨request', later', response, made', id', given, decoded⟩ := answer
  obtain ⟨rfl, rfl, rfl⟩ := made.unique fresh.increasing made' (id.trans (same.trans id'.symm))
  refine ⟨⟨request, later, made, id', since⟩, request, later, response, message.items, made, ?_,
    place, id' ▸ given, decoded, rfl⟩
  exact fun cancelled => since _ cancelled trivial

theorem Fresh.stored {message : Message}
    (kept : IsKept controller.decodeAll history controller.session message.input
      (message.items.map fun item => { item := item }))
    (started : controller.session.status = .started) :
    Fresh history { controller with
      session := controller.session.store message.input message.items } := by
  refine ⟨fresh.increasing, fresh.latest, fresh.live, ?_, ?_, fresh.waiting, fresh.tickets,
    fresh.taken⟩
  · intro inactive
    cases started.symm.trans inactive
  · intro entry member
    rcases Entries.mem_insert member with rfl | old
    · rw [Listing.candidates_make]
      exact kept.moved rfl rfl
    · exact (fresh.cached entry old).moved rfl rfl

theorem Fresh.receive {message : Message}
    (answer : IsAnswer controller.decodeAll history message) :
    let first := controller.receive message.requestId message.input message.items
    Fresh history first.controller ∧ first.controller.mailbox = controller.mailbox ∧
      (first.result = .ok true → IsCurrent history message) := by
  intro first
  have after : first.controller = { controller with
      session := (controller.session.receive message.requestId message.input
        message.items).session } := by
    unfold first Controller.receive outcomeOf
    split <;> rfl
  refine ⟨?_, by rw [after], ?_⟩
  · rw [after]
    rcases controller.session.receive_cases message.requestId message.input message.items with
      ⟨started, same, stored, _⟩ | ⟨_, discarded⟩
    · exact (fresh.stored (fresh.current answer started same).2 started).frame stored
    · rw [discarded]
      exact fresh
  · intro taken
    rcases controller.session.receive_cases message.requestId message.input message.items with
      ⟨started, same, _⟩ | ⟨_, discarded⟩
    · exact (fresh.current answer started same).1
    · unfold first Controller.receive at taken
      rw [discarded] at taken
      cases taken

end Steps

theorem Fresh.deliver {history : List Happening} {controller : Controller}
    {messages : List Message} (fresh : Fresh history { controller with mailbox := messages }) :
    Fresh (history ++ controller.deliveries messages) (controller.deliver messages).controller := by
  induction messages generalizing history controller with
  | nil =>
      rw [deliveries, List.append_nil]
      exact fresh
  | cons message rest ih =>
      have answer := fresh.waiting message List.mem_cons_self
      have others : Fresh history { controller with mailbox := rest } :=
        fresh.posted fun other member => fresh.waiting other (List.mem_cons_of_mem _ member)
      have delivered := others.receive answer
      unfold deliveries Controller.deliver
      dsimp only at delivered ⊢
      generalize Controller.receive _ _ _ _ = first at delivered ⊢
      obtain ⟨after, waiting, accepted⟩ := delivered
      obtain ⟨result, session, events, warnings⟩ := first
      cases result with
      | error failure =>
          dsimp only
          rw [List.append_nil]
          exact after
      | ok taken =>
          have recorded : Fresh (history ++ [.delivered message taken]) session := by
            refine after.concat id ?_
            intro other same
            obtain ⟨rfl, rfl⟩ := Happening.delivered.inj same
            exact accepted rfl
          have same : { session with mailbox := rest } = session := by
            rw [← waiting]
          have more := ih (same.symm ▸ recorded)
          rwa [List.append_assoc] at more

section Operations

variable {history : List Happening} {controller : Controller} (fresh : Fresh history controller)
include fresh

theorem Fresh.trigger (providers : List Provider) (buffer : BufferId) (position : Position)
    (requestId : Option Int) :
    Fresh (history ++ controller.happenings (.trigger providers buffer position requestId))
      (controller.trigger providers buffer position requestId).controller := by
  rw [happenings]
  rcases controller.trigger_cases providers buffer position requestId with
    ⟨id, refused⟩ | ⟨id, above, made, after⟩
  · rw [refused]
    dsimp only
    rwa [List.append_nil]
  · rw [made, after]
    let request : Request := ⟨id, buffer, position⟩
    have requested : Fresh (history ++ [.requested request controller.session.input])
      (controller.begun request) := fresh.requested above
    have asked := requested.ask request providers.reverse
    rwa [List.append_assoc] at asked

theorem Fresh.answer (requestId : Int) (response : Response) :
    Fresh (history ++ controller.happenings (.answer requestId response))
      (controller.answer requestId response).controller := by
  unfold happenings Controller.answer
  dsimp only
  split
  · exact fresh.respond requestId response
  · rwa [List.append_nil]

theorem Fresh.enter (input : String) : Fresh history (controller.enter input).controller := by
  have framed := fresh.frame (controller.session.sameAnswers_enter input)
  unfold Controller.enter outcomeOf
  split <;> exact framed

theorem Fresh.withdraw (requestId : Int) :
    Fresh (history ++ controller.happenings (.withdraw requestId))
      (controller.withdraw requestId).controller := by
  unfold happenings Controller.withdraw
  dsimp only
  split
  · exact fresh.cancelled
  · rwa [List.append_nil]

theorem Fresh.configure (config : Json) : Fresh history (controller.configure config).controller := by
  unfold Controller.configure
  split
  · exact fresh
  · next settings _ =>
    have framed : Fresh history { controller with
        session := controller.session.setWrapAround settings.wrapAround } :=
      fresh.frame ⟨rfl, rfl, rfl, rfl, rfl⟩
    exact ⟨framed.increasing, framed.latest, framed.live, framed.blank, framed.cached,
      framed.waiting, framed.tickets, framed.taken⟩

theorem Fresh.perform {operation : Operation} (mediated : operation.IsMediated) :
    Fresh (history ++ controller.happenings operation)
      (controller.perform operation).controller := by
  cases operation with
  | trigger providers buffer position requestId =>
      exact fresh.trigger providers buffer position requestId
  | answer requestId response => exact fresh.answer requestId response
  | deliverAll => exact Fresh.deliver fresh
  | receive requestId input items => exact mediated.elim
  | enter input =>
      rw [happenings, List.append_nil]
      exact fresh.enter input
  | next =>
      rw [happenings, List.append_nil]
      exact fresh.frame ⟨rfl, rfl, rfl, rfl, rfl⟩
  | previous =>
      rw [happenings, List.append_nil]
      exact fresh.frame ⟨rfl, rfl, rfl, rfl, rfl⟩
  | cancel => exact fresh.cancelled
  | withdraw requestId => exact fresh.withdraw requestId
  | configure config =>
      rw [happenings, List.append_nil]
      exact fresh.configure config

theorem Fresh.performAll {operations : List Operation}
    (mediated : ∀ operation ∈ operations, operation.IsMediated) :
    Fresh (history ++ controller.history operations) (controller.performAll operations) := by
  induction operations generalizing history controller with
  | nil =>
      rw [Controller.history, List.append_nil]
      exact fresh
  | cons operation rest ih =>
      rw [Controller.history, ← List.append_assoc]
      exact ih (fresh.perform (mediated operation List.mem_cons_self))
        fun other member => mediated other (List.mem_cons_of_mem _ member)

end Operations

end Autocomplete.Controller
