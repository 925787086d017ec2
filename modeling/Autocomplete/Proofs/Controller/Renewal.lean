import Autocomplete.Proofs.Controller.Bounds
import Autocomplete.Proofs.Controller.Mirror
import Autocomplete.Proofs.Session.Shift

/-!
# A new completion has no memory of earlier ones

A completion that begins after a cancellation, or at another place, goes on as if the controller
were new. The controller may hold messages and tickets of earlier requests and it has made more
lists; `Resembles` says that this is all the difference, and every operation keeps it so.
-/

namespace Autocomplete

def Session.renewed (session : Session) : Session :=
  { scorer := session.scorer, wrapAround := session.wrapAround, input := session.input }

theorem Session.start_renewed {session : Session} {buffer : BufferId} {position : Position}
    (blank : session.status = .inactive → session.IsBlank)
    (apart : session.status = .inactive ∨
      (session.buffer, session.position) ≠ (buffer, some position)) (requestId : Int) :
    session.start requestId buffer position =
      (session.renewed.start requestId buffer position).shifted session.made := by
  cases status : session.status with
  | inactive =>
      obtain ⟨cache, ranked, index⟩ := blank status
      simp [start, renewed, shifted, isActive, status, cache, ranked, index]
      rfl
  | started =>
      have moved : session.isActive ∧
          (session.buffer, session.position) ≠ (buffer, some position) :=
        ⟨isActive_iff.2 status, by simpa [status] using apart⟩
      rw [start, if_pos moved]
      simp [start, renewed, shifted, isActive, cleared]
      rfl

namespace Controller

theorem notifications_shifted (d : Nat) (before after : Session) :
    notifications (before.shifted d) (after.shifted d) = notifications before after := by
  simp only [notifications, Session.displayed_shifted, ne_eq, Listing.stamp_shifted_eq_iff,
    Listing.candidates_shifted]
  rfl

/-! ## What can be seen -/

structure Observation where
  status : Status
  requestId : Int
  buffer : BufferId
  position : Option Position
  input : String
  index : Nat
  cache : List (String × List Candidate)
  ranked : List Candidate
  displayed : List Candidate
  settings : Settings
  deriving DecidableEq, Repr

def observed (controller : Controller) : Observation where
  status := controller.session.status
  requestId := controller.session.requestId
  buffer := controller.session.buffer
  position := controller.session.position
  input := controller.session.input
  index := controller.session.index
  cache := controller.session.cache.map (Prod.map id Listing.candidates)
  ranked := controller.session.ranked.candidates
  displayed := controller.session.displayed.candidates
  settings := controller.settings

structure Sight where
  result : Except Failure Reply
  events : List Event
  observed : Observation

def sights (controller : Controller) : List Operation → List (Operation × Sight)
  | [] => []
  | operation :: rest =>
    let outcome := controller.perform operation
    (operation, ⟨outcome.result, outcome.events, outcome.controller.observed⟩) ::
      outcome.controller.sights rest

def Operation.isLate (r : Int) : Operation → Bool
  | .answer requestId _ => requestId < r
  | .trigger .. | .deliverAll | .receive .. | .enter _ | .next | .previous | .cancel | .withdraw _
  | .configure _ => false

/-! ## Two runs -/

structure Resembles (r : Int) (d : Nat) (older younger : Controller) : Prop where
  session : older.session = younger.session.shifted d
  settings : older.settings = younger.settings
  mailbox : older.mailbox.filter (fun message => r ≤ message.requestId) = younger.mailbox
  tickets : ∀ id, r ≤ id →
    Entries.find? id older.tickets = Entries.find? id younger.tickets
  current : r ≤ younger.session.requestId
  decodes : older.decodeAll = younger.decodeAll

structure Agrees (r : Int) (d : Nat) (older younger : Outcome α) : Prop where
  result : older.result = younger.result
  events : older.events = younger.events
  after : Resembles r d older.controller younger.controller

theorem Agrees.map {r : Int} {d : Nat} {older younger : Outcome α}
    (agrees : Agrees r d older younger) (f : α → β) :
    Agrees r d (older.map f) (younger.map f) :=
  ⟨congrArg (Except.map f) agrees.result, agrees.events, agrees.after⟩

namespace Resembles

variable {r : Int} {d : Nat} {older younger : Controller} (resembles : Resembles r d older younger)
include resembles

theorem observed : older.observed = younger.observed := by
  have displayed : older.session.displayed.candidates = younger.session.displayed.candidates := by
    rw [resembles.session, Session.displayed_shifted, Listing.candidates_shifted]
  have cache : older.session.cache.map (Prod.map id Listing.candidates) =
      younger.session.cache.map (Prod.map id Listing.candidates) := by
    rw [resembles.session, Session.shifted, List.map_map]
    rfl
  rw [Controller.observed, displayed, cache, resembles.settings, resembles.session]
  rfl

theorem posted {old new : List Message}
    (same : old.filter (fun message => r ≤ message.requestId) = new) :
    Resembles r d { older with mailbox := old } { younger with mailbox := new } :=
  ⟨resembles.session, resembles.settings, same, resembles.tickets, resembles.current,
    resembles.decodes⟩

theorem ticketed (id : Int) (ticket : Ticket) :
    Resembles r d { older with tickets := Entries.insert id ticket older.tickets }
      { younger with tickets := Entries.insert id ticket younger.tickets } := by
  refine ⟨resembles.session, resembles.settings, resembles.mailbox, ?_, resembles.current,
    resembles.decodes⟩
  intro id' since
  dsimp only
  rw [Entries.find?_insert, Entries.find?_insert, resembles.tickets id' since]

theorem framed {after : Session} (current : r ≤ after.requestId) :
    Resembles r d { older with session := after.shifted d } { younger with session := after } :=
  ⟨rfl, resembles.settings, resembles.mailbox, resembles.tickets, current, resembles.decodes⟩

/-! ### Requests and their answers -/

theorem keep {id : Int} (since : r ≤ id) : Resembles r d (older.keep id) (younger.keep id) := by
  unfold Controller.keep
  rw [resembles.tickets id since]
  cases Entries.find? id younger.tickets with
  | none => exact resembles
  | some ticket => exact resembles.ticketed id _

theorem respond {id : Int} (since : r ≤ id) (response : Response) :
    Resembles r d (older.respond id response).1 (younger.respond id response).1 := by
  have decoded : response.decodeBy older.decodeAll = response.decodeBy younger.decodeAll := by
    rw [resembles.decodes]
  unfold Controller.respond
  rw [resembles.tickets id since, decoded]
  cases Entries.find? id younger.tickets with
  | none => exact resembles
  | some ticket =>
      dsimp only
      split
      · exact resembles
      · cases response.decodeBy younger.decodeAll with
        | error warning => exact resembles.ticketed id _
        | ok items =>
            have posted : Resembles r d
                { older with mailbox := older.mailbox ++ [⟨id, ticket.input, items⟩] }
                { younger with mailbox := younger.mailbox ++ [⟨id, ticket.input, items⟩] } := by
              apply resembles.posted
              rw [List.filter_append, resembles.mailbox]
              simp [since]
            exact posted.ticketed id _

theorem respond_late {id : Int} (late : id < r) (response : Response) :
    Resembles r d (older.respond id response).1 younger := by
  -- The answer may wait in the mailbox, and a ticket of before may change.
  have other (ticket : Ticket) : ∀ id', r ≤ id' →
      Entries.find? id' (Entries.insert id ticket older.tickets) =
        Entries.find? id' younger.tickets := by
    intro id' since
    rw [Entries.find?_insert_of_ne (by omega), resembles.tickets id' since]
  rcases older.respond_cases id response with
    same | ⟨ticket, _, failed⟩ | ⟨ticket, items, _, _, posted⟩
  · rwa [same]
  · rw [failed]
    exact ⟨resembles.session, resembles.settings, resembles.mailbox, other _, resembles.current,
      resembles.decodes⟩
  · rw [posted]
    refine ⟨resembles.session, resembles.settings, ?_, other _, resembles.current,
      resembles.decodes⟩
    dsimp only
    rw [List.filter_append, resembles.mailbox]
    simp [late]

theorem respondAll {id : Int} (since : r ≤ id) (responses : List Response) :
    Resembles r d (older.respondAll id responses).1 (younger.respondAll id responses).1 := by
  induction responses generalizing older younger with
  | nil => exact resembles
  | cons response rest ih => exact ih (resembles.respond since response)

theorem ask {request : Request} (since : r ≤ request.id) (providers : List Provider) :
    Resembles r d (older.ask request providers).2.1 (younger.ask request providers).2.1 := by
  induction providers generalizing older younger with
  | nil => exact resembles
  | cons provider rest ih =>
      have answered := resembles.respondAll since (provider request).answers
      unfold Controller.ask
      dsimp only
      cases (provider request).keeps with
      | false =>
          cases (provider request).verdict with
          | some accepted => exact answered
          | none => exact ih answered
      | true =>
          cases (provider request).verdict with
          | some accepted => exact answered.keep since
          | none => exact ih (answered.keep since)

theorem trigger (providers : List Provider) (buffer : BufferId) (position : Position)
    (requestId : Option Int) :
    Agrees r d (older.trigger providers buffer position requestId)
      (younger.trigger providers buffer position requestId) := by
  have current : older.session.requestId = younger.session.requestId := by
    rw [resembles.session]
    rfl
  unfold Controller.trigger
  rw [current]
  dsimp only
  generalize requestId.getD (younger.session.requestId + 1) = id
  split
  · exact ⟨rfl, rfl, resembles⟩
  · next above =>
    have since : r ≤ id := by
      have before := resembles.current
      omega
    rw [resembles.session, Session.start_shifted, notifications_shifted]
    exact ⟨rfl, rfl, ((resembles.framed since).ticketed id _).ask since _⟩

theorem answer {requestId : Int} (since : r ≤ requestId) (response : Response) :
    Agrees r d (older.answer requestId response) (younger.answer requestId response) := by
  unfold Controller.answer isKept
  rw [resembles.tickets requestId since]
  split
  · exact ⟨rfl, rfl, resembles.respond since response⟩
  · exact ⟨rfl, rfl, resembles⟩

/-! ### Operations on the session -/

theorem outcomeOf (outcome : Session.Outcome α)
    (continues : younger.session.Continues outcome.session) :
    Agrees r d (older.outcomeOf (outcome.shifted d)) (younger.outcomeOf outcome) := by
  have after : Resembles r d { older with session := outcome.session.shifted d }
      { younger with session := outcome.session } :=
    resembles.framed (continues.requestId ▸ resembles.current)
  obtain ⟨result, session⟩ := outcome
  cases result with
  | error failure => exact ⟨rfl, rfl, after⟩
  | ok value =>
      refine ⟨rfl, ?_, after⟩
      change notifications older.session (session.shifted d) = notifications younger.session session
      rw [resembles.session, notifications_shifted]

theorem receive (requestId : Int) (input : String) (items : List Item) :
    Agrees r d (older.receive requestId input items) (younger.receive requestId input items) := by
  unfold Controller.receive
  rw [resembles.session, Session.receive_shifted]
  exact resembles.outcomeOf _ (younger.session.continues_receive requestId input items)

theorem deliver (messages : List Message) :
    Agrees r d (older.deliver messages)
      (younger.deliver (messages.filter fun message => r ≤ message.requestId)) := by
  -- Along the messages of the older controller, which delivers some that the younger one lacks. The
  -- request of either session is `r` or a later one, so those are discarded.
  induction messages generalizing older younger with
  | nil => exact ⟨rfl, rfl, resembles.posted rfl⟩
  | cons message rest ih =>
      by_cases since : r ≤ message.requestId
      · rw [List.filter_cons_of_pos (by simpa using since)]
        have posted : Resembles r d { older with mailbox := rest }
            { younger with mailbox := rest.filter fun message => r ≤ message.requestId } :=
          resembles.posted rfl
        obtain ⟨result, events, after⟩ :=
          posted.receive message.requestId message.input message.items
        unfold Controller.deliver
        dsimp only
        rw [result]
        split
        · exact ⟨rfl, events, after⟩
        · obtain ⟨others, more, final⟩ := ih after
          refine ⟨?_, ?_, final⟩
          · dsimp only
            rw [others]
          · dsimp only
            rw [events, more]
      · rw [List.filter_cons_of_neg (by simpa using since)]
        have other : older.session.requestId ≠ message.requestId := by
          have before := resembles.current
          rw [resembles.session]
          change younger.session.requestId ≠ message.requestId
          omega
        rw [deliver_of_discarded (receive_of_other other _ _)]
        exact ih resembles

theorem enter (input : String) : Agrees r d (older.enter input) (younger.enter input) := by
  unfold Controller.enter
  rw [resembles.session, Session.enter_shifted]
  exact resembles.outcomeOf _ (younger.session.continues_enter input)

theorem next : Agrees r d older.next younger.next := by
  unfold Controller.next
  rw [resembles.session, Session.next_shifted]
  exact resembles.outcomeOf ⟨.ok (), younger.session.next⟩ ⟨rfl, rfl⟩

theorem previous : Agrees r d older.previous younger.previous := by
  unfold Controller.previous
  rw [resembles.session, Session.previous_shifted]
  exact resembles.outcomeOf ⟨.ok (), younger.session.previous⟩ ⟨rfl, rfl⟩

theorem cancel : Agrees r d older.cancel younger.cancel := by
  unfold Controller.cancel
  rw [resembles.session, Session.cancel_shifted]
  exact resembles.outcomeOf ⟨.ok (), younger.session.cancel⟩ younger.session.continues_cancel

theorem withdraw (requestId : Int) :
    Agrees r d (older.withdraw requestId) (younger.withdraw requestId) := by
  have current : older.session.requestId = younger.session.requestId := by
    rw [resembles.session]
    rfl
  unfold Controller.withdraw
  rw [current]
  split
  · exact resembles.cancel
  · exact ⟨rfl, rfl, resembles⟩

theorem configure (config : Json) :
    Agrees r d (older.configure config) (younger.configure config) := by
  unfold Controller.configure
  cases Settings.ofJson config with
  | error error => exact ⟨rfl, rfl, resembles⟩
  | ok settings =>
      have session : older.session.setWrapAround settings.wrapAround =
          (younger.session.setWrapAround settings.wrapAround).shifted d := by
        rw [resembles.session]
        rfl
      exact ⟨rfl, rfl, session, rfl, resembles.mailbox, resembles.tickets, resembles.current,
        resembles.decodes⟩

/-! ### Runs -/

theorem perform {operation : Operation} (timely : operation.isLate r = false) :
    Agrees r d (older.perform operation) (younger.perform operation) := by
  cases operation with
  | trigger providers buffer position requestId =>
      exact (resembles.trigger providers buffer position requestId).map _
  | answer requestId response =>
      exact (resembles.answer (by simpa [Operation.isLate] using timely) response).map _
  | deliverAll =>
      have delivered := resembles.deliver older.mailbox
      rw [resembles.mailbox] at delivered
      exact delivered.map _
  | receive requestId input items => exact (resembles.receive requestId input items).map _
  | enter input => exact (resembles.enter input).map _
  | next => exact resembles.next.map _
  | previous => exact resembles.previous.map _
  | cancel => exact resembles.cancel.map _
  | withdraw requestId => exact (resembles.withdraw requestId).map _
  | configure config => exact (resembles.configure config).map _

theorem perform_late {operation : Operation} (late : operation.isLate r) :
    (older.perform operation).events = [] ∧
      Resembles r d (older.perform operation).controller younger := by
  cases operation with
  | answer requestId response =>
      have late : requestId < r := by simpa [Operation.isLate] using late
      change (older.answer requestId response).events = [] ∧
        Resembles r d (older.answer requestId response).controller younger
      unfold Controller.answer
      split
      · exact ⟨rfl, resembles.respond_late late response⟩
      · exact ⟨rfl, resembles⟩
  | trigger | deliverAll | receive | enter | next | previous | cancel | withdraw | configure =>
      cases late

theorem performAll (operations : List Operation) :
    let timely := operations.filter (!·.isLate r)
    (older.sights operations).filter (fun sight => !sight.1.isLate r) = younger.sights timely ∧
      older.told operations = younger.told timely ∧
      Resembles r d (older.performAll operations) (younger.performAll timely) := by
  dsimp only
  induction operations generalizing older younger with
  | nil => exact ⟨rfl, rfl, resembles⟩
  | cons operation rest ih =>
      cases kind : operation.isLate r with
      | true =>
          obtain ⟨silent, after⟩ := resembles.perform_late kind
          obtain ⟨sights, told, final⟩ := ih after
          rw [List.filter_cons_of_neg (by simp [kind])]
          refine ⟨?_, ?_, final⟩
          · rw [Controller.sights, List.filter_cons_of_neg (by simp [kind]), sights]
          · rw [Controller.told, silent, List.nil_append, told]
      | false =>
          obtain ⟨result, events, after⟩ := resembles.perform kind
          obtain ⟨sights, told, final⟩ := ih after
          rw [List.filter_cons_of_pos (by simp [kind])]
          refine ⟨?_, ?_, final⟩
          · rw [Controller.sights, Controller.sights, List.filter_cons_of_pos (by simp [kind]),
              sights, result, events, after.observed]
          · rw [Controller.told, Controller.told, events, told]

end Resembles

/-! ## The beginning of a completion -/

theorem trigger_of_above {controller : Controller} {id : Int}
    (above : controller.session.requestId < id) (providers : List Provider) (buffer : BufferId)
    (position : Position) :
    (controller.trigger providers buffer position (some id)).result = .ok id ∧
      (controller.trigger providers buffer position (some id)).controller =
        ((controller.begun ⟨id, buffer, position⟩).ask ⟨id, buffer, position⟩
          providers.reverse).2.1 := by
  have newer : ¬ (some id).getD (controller.session.requestId + 1) ≤ controller.session.requestId :=
    Int.not_le.2 above
  rw [trigger, if_neg newer, begun]
  simp only [Session.input_start, Option.getD_some, and_self]

def renewed (controller : Controller) : Controller :=
  { session := controller.session.renewed
    settings := controller.settings
    decodeAll := controller.decodeAll }

theorem resembles_begun {controller : Controller} (bounded : controller.Bounded)
    (blank : controller.session.status = .inactive → controller.session.IsBlank)
    (request : Request) (above : controller.session.requestId < request.id)
    (apart : controller.session.status = .inactive ∨
      (controller.session.buffer, controller.session.position) ≠
        (request.buffer, some request.position)) :
    Resembles request.id controller.session.made (controller.begun request)
      (controller.renewed.begun request) := by
  refine ⟨Session.start_renewed blank apart request.id, rfl, ?_, ?_, Int.le_refl _, rfl⟩
  · apply List.filter_eq_nil_iff.2
    intro message member
    have known := bounded.mailbox message member
    simp
    omega
  -- Both have the ticket of the new request, and no other one from then on.
  · intro id since
    dsimp only [begun]
    rw [Entries.find?_insert, Entries.find?_insert]
    split
    · rfl
    · cases found : Entries.find? id controller.tickets with
      | none => rfl
      | some ticket =>
          have known := bounded.tickets id ticket found
          omega

/-- After a request that begins a completion, or moves it elsewhere, everything that can be seen is
as after the same request to a new controller with the same settings, decoder and input, whatever is
done then. Answers to earlier requests, in the mailbox or still to come, make no difference. -/
theorem sights_renewed {scorer : Scorer} (total : scorer.Total) {settings : Settings}
    {decodeAll : ListDecoder} {past : List Operation} {controller : Controller}
    (reached : controller = (new scorer settings decodeAll).performAll past)
    {providers : List Provider} {buffer : BufferId} {position : Position} {requestId : Option Int}
    {id : Int} (made : (controller.trigger providers buffer position requestId).result = .ok id)
    (apart : controller.session.status = .inactive ∨
      (controller.session.buffer, controller.session.position) ≠ (buffer, some position))
    (operations : List Operation) :
    let older := (controller.trigger providers buffer position requestId).controller
    let fresh :=
      (new scorer controller.settings decodeAll).performAll [.enter controller.session.input]
    let younger := (fresh.trigger providers buffer position (some id)).controller
    let timely := operations.filter (!·.isLate id)
    (fresh.trigger providers buffer position (some id)).result = .ok id ∧
      (older.sights operations).filter (fun sight => !sight.1.isLate id) = younger.sights timely ∧
      older.told operations = younger.told timely ∧
      (older.performAll operations).observed = (younger.performAll timely).observed := by
  intro older fresh younger timely
  have coherent := coherent_performAll total settings decodeAll past
  have bounded := (bounded_new scorer settings decodeAll).performAll past
  have decodes := (new scorer settings decodeAll).decodeAll_performAll past
  rw [← reached] at coherent bounded decodes
  have renewed : fresh = controller.renewed := by
    simp only [Controller.renewed, Session.renewed, coherent.rates, bounded.wrapAround, decodes]
    rfl
  rcases controller.trigger_cases providers buffer position requestId with
    ⟨_, refused⟩ | ⟨id', above, made', after⟩
  · rw [refused] at made
    cases made
  · obtain rfl : id' = id := Except.ok.inj (made'.symm.trans made)
    obtain ⟨accepted, begun⟩ := trigger_of_above
      (Int.lt_of_le_of_lt bounded.natural above : controller.renewed.session.requestId < id')
      providers buffer position
    have resembles : Resembles id' controller.session.made older younger := by
      unfold older younger
      rw [after, renewed, begun]
      have resembles := resembles_begun bounded coherent.blank ⟨id', buffer, position⟩ above apart
      exact resembles.ask (Int.le_refl id') _
    obtain ⟨sights, told, final⟩ := resembles.performAll operations
    exact ⟨renewed ▸ accepted, sights, told, final.observed⟩

theorem sights_renewed_elsewhere :
    let item (label : String) : Item := ⟨label, none, none, none, none⟩
    let later : Provider := .deferred none (some true)
    let past : List Operation := [.trigger [later] .unnamed ⟨0, 0⟩ none,
      .trigger [later] .unnamed ⟨0, 0⟩ none, .answer 1 (.itemList [item "one"])]
    let operations : List Operation := [.answer 2 (.itemList [item "two"]),
      .answer 3 (.itemList [item "three", item "four"]), .deliverAll, .next]
    let older := (((new .fuzzy {}).performAll past).trigger [later] .unnamed ⟨0, 1⟩ none).controller
    let fresh := (new .fuzzy {}).performAll [.enter ""]
    let younger := (fresh.trigger [later] .unnamed ⟨0, 1⟩ (some 3)).controller
    Scorer.fuzzy.Total ∧ older.mailbox.length = 1 ∧ younger.mailbox.length = 0 ∧
      (older.performAll operations).observed.displayed.map (fun candidate => candidate.item.label) =
        ["three", "four"] ∧
      (older.performAll operations).observed =
        (younger.performAll (operations.filter (!·.isLate 3))).observed := by
  intro item later past operations older fresh younger
  have made : (((new .fuzzy {}).performAll past).trigger [later] .unnamed ⟨0, 1⟩ none).result =
      .ok 3 := by decide +kernel
  have apart : (((new .fuzzy {}).performAll past).session.buffer,
      ((new .fuzzy {}).performAll past).session.position) ≠
        (BufferId.unnamed, some (⟨0, 1⟩ : Position)) := by decide +kernel
  have labels : (older.performAll operations).observed.displayed.map
      (fun candidate => candidate.item.label) = ["three", "four"] := by
    decide +kernel
  obtain ⟨_, _, _, same⟩ := sights_renewed Scorer.total_fuzzy rfl made (.inr apart) operations
  exact ⟨Scorer.total_fuzzy, by decide +kernel, by decide +kernel, labels, same⟩

end Controller

end Autocomplete
