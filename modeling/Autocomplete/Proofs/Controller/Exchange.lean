import Autocomplete.Proofs.Controller.Accounts
import Autocomplete.Proofs.Controller.Bounds

namespace Autocomplete

theorem Entries.insert_comm {κ α : Type} [DecidableEq κ] {key key' : κ} {value : α}
    {entries : List (κ × α)} (found : find? key entries = some value) (apart : key ≠ key')
    (new new' : α) :
    insert key' new' (insert key new entries) = insert key new (insert key' new' entries) := by
  induction entries with
  | nil => cases found
  | cons entry rest ih =>
      obtain ⟨k, v⟩ := entry
      unfold find? at found
      split at found
      · next same =>
        subst same
        simp [insert, apart]
      · next other =>
        by_cases here : k = key'
        · simp [insert, here, apart.symm]
        · simp [insert, other, here, ih found]

namespace Controller

/-! ## Controllers that differ in the order of their messages -/

structure Rearranged (c d : Controller) : Prop where
  session : c.session = d.session
  settings : c.settings = d.settings
  tickets : c.tickets = d.tickets
  mailbox : c.mailbox.Perm d.mailbox
  decodes : c.decodeAll = d.decodeAll

namespace Rearranged

theorem refl (controller : Controller) : Rearranged controller controller :=
  ⟨rfl, rfl, rfl, .refl _, rfl⟩

variable {c d e : Controller} (rearranged : Rearranged c d)
include rearranged

theorem symm : Rearranged d c :=
  ⟨rearranged.session.symm, rearranged.settings.symm, rearranged.tickets.symm,
    rearranged.mailbox.symm, rearranged.decodes.symm⟩

theorem trans (other : Rearranged d e) : Rearranged c e :=
  ⟨rearranged.session.trans other.session, rearranged.settings.trans other.settings,
    rearranged.tickets.trans other.tickets, rearranged.mailbox.trans other.mailbox,
    rearranged.decodes.trans other.decodes⟩

theorem eq : c = { d with mailbox := c.mailbox } := by
  obtain ⟨session, settings, tickets, _, decodes⟩ := rearranged
  cases c
  cases d
  simp_all

theorem respond (requestId : Int) (response : Response) :
    Rearranged (c.respond requestId response).1 (d.respond requestId response).1 := by
  rw [rearranged.eq]
  unfold Controller.respond
  cases Entries.find? requestId d.tickets with
  | none => exact ⟨rfl, rfl, rfl, rearranged.mailbox, rfl⟩
  | some ticket =>
      dsimp only
      split
      · exact ⟨rfl, rfl, rfl, rearranged.mailbox, rfl⟩
      · cases response.decodeBy d.decodeAll with
        | error warning => exact ⟨rfl, rfl, rfl, rearranged.mailbox, rfl⟩
        | ok items => exact ⟨rfl, rfl, rfl, rearranged.mailbox.append_right _, rfl⟩

theorem keep (requestId : Int) : Rearranged (c.keep requestId) (d.keep requestId) := by
  rw [rearranged.eq]
  unfold Controller.keep
  cases Entries.find? requestId d.tickets with
  | none => exact ⟨rfl, rfl, rfl, rearranged.mailbox, rfl⟩
  | some ticket => exact ⟨rfl, rfl, rfl, rearranged.mailbox, rfl⟩

theorem begun (request : Request) : Rearranged (c.begun request) (d.begun request) := by
  rw [rearranged.eq]
  exact ⟨rfl, rfl, rfl, rearranged.mailbox, rfl⟩

end Rearranged

/-! ## Operations on two controllers -/

theorem controller_trigger (controller : Controller) (providers : List Provider)
    (buffer : BufferId) (position : Position) (requestId : Option Int) :
    (controller.trigger providers buffer position requestId).controller =
      let id := requestId.getD (controller.session.requestId + 1)
      if id ≤ controller.session.requestId then controller
      else ((controller.begun ⟨id, buffer, position⟩).ask ⟨id, buffer, position⟩
        providers.reverse).2.1 := by
  unfold trigger
  dsimp only
  split
  · rfl
  · simp only [begun, Session.input_start]

/-- What relates two controllers that are asked, answered and configured in the same way, as far as
requests with a fair id are concerned. -/
structure Simulates (fair : Int → Prop) (rel : Controller → Controller → Prop) : Prop where
  session : ∀ {c d}, rel c d → c.session = d.session
  settings : ∀ {c d}, rel c d → c.settings = d.settings
  kept : ∀ {c d}, rel c d → ∀ id, c.isKept id = d.isKept id
  configured : ∀ {c d}, rel c d → ∀ session settings,
    rel { c with session := session, settings := settings }
      { d with session := session, settings := settings }
  begun : ∀ {c d}, rel c d → ∀ request, fair request.id → rel (c.begun request) (d.begun request)
  respond : ∀ {c d}, rel c d → ∀ id, fair id → ∀ response,
    rel (c.respond id response).1 (d.respond id response).1
  keep : ∀ {c d}, rel c d → ∀ id, fair id → rel (c.keep id) (d.keep id)

namespace Simulates

variable {fair : Int → Prop} {rel : Controller → Controller → Prop} (simulates : Simulates fair rel)
include simulates

theorem respondAll {c d : Controller} (related : rel c d) {id : Int} (timely : fair id)
    (responses : List Response) :
    rel (c.respondAll id responses).1 (d.respondAll id responses).1 := by
  induction responses generalizing c d with
  | nil => exact related
  | cons response rest ih => exact ih (simulates.respond related id timely response)

theorem ask {c d : Controller} (related : rel c d) {request : Request} (timely : fair request.id)
    (providers : List Provider) :
    rel (c.ask request providers).2.1 (d.ask request providers).2.1 := by
  induction providers generalizing c d with
  | nil => exact related
  | cons provider rest ih =>
      have answered := simulates.respondAll related timely (provider request).answers
      have kept := simulates.keep answered request.id timely
      unfold Controller.ask
      dsimp only
      cases (provider request).keeps with
      | false =>
          cases (provider request).verdict with
          | some accepted => exact answered
          | none => exact ih answered
      | true =>
          cases (provider request).verdict with
          | some accepted => exact kept
          | none => exact ih kept

theorem framed {c d : Controller} (related : rel c d) (session : Session) :
    rel { c with session := session } { d with session := session } := by
  have same := simulates.configured related session c.settings
  rw [simulates.settings related] at same
  have settings := simulates.settings related
  cases c
  cases settings
  exact same

theorem outcomeOf {c d : Controller} (related : rel c d) (outcome : Session.Outcome α) :
    rel (c.outcomeOf outcome).controller (d.outcomeOf outcome).controller := by
  rw [controller_outcomeOf, controller_outcomeOf]
  exact simulates.framed related outcome.session

theorem perform {c d : Controller} (related : rel c d) {operation : Operation}
    (single : operation ≠ .deliverAll)
    (newer : ∀ id, c.session.requestId < id → fair id)
    (timely : ∀ id response, operation = .answer id response → fair id) :
    rel (c.perform operation).controller (d.perform operation).controller := by
  have session := simulates.session related
  cases operation with
  | trigger providers buffer position requestId =>
      change rel (c.trigger providers buffer position requestId).controller
        (d.trigger providers buffer position requestId).controller
      rw [controller_trigger, controller_trigger, ← session]
      dsimp only
      split
      · exact related
      · next above =>
        have timely := newer _ (Int.not_le.1 above)
        exact simulates.ask (simulates.begun related _ timely) timely providers.reverse
  | answer requestId response =>
      change rel (c.answer requestId response).controller (d.answer requestId response).controller
      unfold answer
      rw [simulates.kept related requestId]
      split
      · exact simulates.respond related requestId (timely _ _ rfl) response
      · exact related
  | deliverAll => exact absurd rfl single
  | receive requestId input items =>
      change rel (c.receive requestId input items).controller
        (d.receive requestId input items).controller
      rw [receive, receive, session]
      exact simulates.outcomeOf related _
  | enter input =>
      change rel (c.enter input).controller (d.enter input).controller
      rw [enter, enter, session]
      exact simulates.outcomeOf related _
  | next =>
      change rel c.next.controller d.next.controller
      rw [next, next, session]
      exact simulates.outcomeOf related _
  | previous =>
      change rel c.previous.controller d.previous.controller
      rw [previous, previous, session]
      exact simulates.outcomeOf related _
  | cancel =>
      change rel c.cancel.controller d.cancel.controller
      rw [cancel, cancel, session]
      exact simulates.outcomeOf related _
  | withdraw requestId =>
      change rel (c.withdraw requestId).controller (d.withdraw requestId).controller
      unfold withdraw cancel
      rw [session]
      split
      · exact simulates.outcomeOf related _
      · exact related
  | configure config =>
      change rel (c.configure config).controller (d.configure config).controller
      unfold configure
      rw [session]
      cases Settings.ofJson config with
      | error error => exact related
      | ok settings => exact simulates.configured related _ _

end Simulates

theorem simulates_rearranged : Simulates (fun _ => True) Rearranged where
  session rearranged := rearranged.session
  settings rearranged := rearranged.settings
  kept rearranged id := by rw [isKept, isKept, rearranged.tickets]
  configured rearranged _ _ :=
    ⟨rfl, rfl, rearranged.tickets, rearranged.mailbox, rearranged.decodes⟩
  begun rearranged request _ := rearranged.begun request
  respond rearranged id _ response := rearranged.respond id response
  keep rearranged id _ := rearranged.keep id

/-! ## An answer changes places with another operation -/

theorem find?_respond_of_ne (controller : Controller) {id id' : Int} (apart : id ≠ id')
    (response : Response) :
    Entries.find? id' (controller.respond id response).1.tickets =
      Entries.find? id' controller.tickets := by
  by_cases answered : controller.Answered id
  · rw [respond_of_answered answered]
  · obtain ⟨ticket, found, unanswered⟩ := not_answered_iff.1 answered
    rw [respond_of_unanswered found unanswered]
    exact Entries.find?_insert_of_ne apart _ _

theorem isKept_respond (controller : Controller) (requestId : Int) (response : Response) (id : Int) :
    (controller.respond requestId response).1.isKept id = controller.isKept id := by
  by_cases answered : controller.Answered requestId
  · rw [respond_of_answered answered]
  · obtain ⟨ticket, found, unanswered⟩ := not_answered_iff.1 answered
    rw [respond_of_unanswered found unanswered, isKept, Entries.find?_insert]
    split
    · next same => simp [isKept, ← same, found]
    · rfl

theorem isKept_keep {controller : Controller} {id : Int} (kept : controller.isKept id)
    (requestId : Int) : (controller.keep requestId).isKept id := by
  unfold keep
  cases found : Entries.find? requestId controller.tickets with
  | none => exact kept
  | some ticket =>
      rw [isKept, Entries.find?_insert]
      split
      · rfl
      · exact kept

theorem known_of_isKept {controller : Controller} (bounded : controller.Bounded) {id : Int}
    (kept : controller.isKept id) : id ≤ controller.session.requestId := by
  cases found : Entries.find? id controller.tickets with
  | none => simp [isKept, found] at kept
  | some ticket => exact bounded.tickets id ticket found

theorem isKept_perform {controller : Controller} (bounded : controller.Bounded) {id : Int}
    (kept : controller.isKept id) {operation : Operation} (single : operation ≠ .deliverAll) :
    (controller.perform operation).controller.isKept id := by
  have known := known_of_isKept bounded kept
  cases operation with
  | trigger providers buffer position requestId =>
      change (controller.trigger providers buffer position requestId).controller.isKept id
      rw [controller_trigger]
      dsimp only
      split
      · exact kept
      · next above =>
        have begun (new : Int) (later : controller.session.requestId < new) :
            (controller.begun ⟨new, buffer, position⟩).isKept id := by
          rw [isKept, Controller.begun, Entries.find?_insert_of_ne (by dsimp only; omega)]
          exact kept
        exact ask_induction (motive := fun asked => asked.isKept id)
          (fun asked response before => (asked.isKept_respond _ response id).trans before)
          (fun asked before => isKept_keep before _) (begun _ (Int.not_le.1 above)) _
  | answer requestId response =>
      change (controller.answer requestId response).controller.isKept id
      unfold answer
      split
      · exact (controller.isKept_respond requestId response id).trans kept
      · exact kept
  | deliverAll => exact absurd rfl single
  | receive requestId input items =>
      change (controller.receive requestId input items).controller.isKept id
      rwa [receive, controller_outcomeOf]
  | enter input =>
      change (controller.enter input).controller.isKept id
      rwa [enter, controller_outcomeOf]
  | next | previous | cancel => exact kept
  | withdraw requestId =>
      change (controller.withdraw requestId).controller.isKept id
      unfold withdraw
      split <;> exact kept
  | configure config =>
      change (controller.configure config).controller.isKept id
      unfold configure
      split <;> exact kept

section Answer

variable (controller : Controller) (id : Int) (response : Response)

theorem respond_comm {id' : Int} (apart : id ≠ id') (response' : Response) :
    Rearranged ((controller.respond id response).1.respond id' response').1
      ((controller.respond id' response').1.respond id response).1 := by
  by_cases answered : controller.Answered id
  · have still : (controller.respond id' response').1.Answered id := by
      rwa [Answered, find?_respond_of_ne _ apart.symm]
    rw [respond_of_answered answered, respond_of_answered still]
    exact .refl _
  by_cases answered' : controller.Answered id'
  · have still : (controller.respond id response).1.Answered id' := by
      rwa [Answered, find?_respond_of_ne _ apart]
    rw [respond_of_answered answered', respond_of_answered still]
    exact .refl _
  obtain ⟨ticket, found, unanswered⟩ := not_answered_iff.1 answered
  obtain ⟨ticket', found', unanswered'⟩ := not_answered_iff.1 answered'
  have still : Entries.find? id (controller.respond id' response').1.tickets = some ticket := by
    rw [find?_respond_of_ne _ apart.symm, found]
  have still' : Entries.find? id' (controller.respond id response).1.tickets = some ticket' := by
    rw [find?_respond_of_ne _ apart, found']
  rw [respond_of_unanswered still unanswered, respond_of_unanswered still' unanswered',
    respond_of_unanswered found unanswered, respond_of_unanswered found' unanswered']
  refine ⟨rfl, rfl, Entries.insert_comm found apart _ _, ?_, rfl⟩
  simp only [List.append_assoc]
  exact List.perm_append_comm.append_left _

theorem respond_ticketed (session : Session) {id' : Int} (apart : id ≠ id') (ticket : Ticket) :
    ({ controller with
      session := session
      tickets := Entries.insert id' ticket controller.tickets }.respond id response).1 =
      { (controller.respond id response).1 with
        session := session
        tickets := Entries.insert id' ticket (controller.respond id response).1.tickets } := by
  let ticketed : Controller := { controller with
    session := session
    tickets := Entries.insert id' ticket controller.tickets }
  have same : Entries.find? id ticketed.tickets = Entries.find? id controller.tickets :=
    Entries.find?_insert_of_ne apart.symm _ _
  by_cases answered : controller.Answered id
  · have still : ticketed.Answered id := by
      rwa [Answered, same]
    rw [respond_of_answered answered]
    exact respond_of_answered still response
  · obtain ⟨before, found, unanswered⟩ := not_answered_iff.1 answered
    rw [respond_of_unanswered found unanswered]
    refine (respond_of_unanswered (same.trans found) unanswered response).trans ?_
    simp only [ticketed, Entries.insert_comm found apart]

theorem respond_configured (session : Session) (settings : Settings) :
    ({ controller with session := session, settings := settings }.respond id response).1 =
      { (controller.respond id response).1 with session := session, settings := settings } := by
  let configured : Controller := { controller with session := session, settings := settings }
  by_cases answered : controller.Answered id
  · have still : configured.Answered id := answered
    rw [respond_of_answered answered]
    exact respond_of_answered still response
  · obtain ⟨before, found, unanswered⟩ := not_answered_iff.1 answered
    have still : Entries.find? id configured.tickets = some before := found
    rw [respond_of_unanswered found unanswered]
    exact respond_of_unanswered still unanswered response

theorem respond_keep {id' : Int} (apart : id ≠ id') :
    ((controller.keep id').respond id response).1 = (controller.respond id response).1.keep id' := by
  unfold keep
  rw [find?_respond_of_ne _ apart]
  cases Entries.find? id' controller.tickets with
  | none => rfl
  | some ticket =>
      have session := controller.session_respond id response
      refine (respond_ticketed controller id response controller.session apart _).trans ?_
      rw [← session]

theorem respond_begun {request : Request} (apart : id ≠ request.id) :
    ((controller.begun request).respond id response).1 =
      (controller.respond id response).1.begun request := by
  rw [begun, begun, session_respond]
  exact respond_ticketed controller id response _ apart _

end Answer

def Ahead (id : Int) (response : Response) (c d : Controller) : Prop :=
  Rearranged c (d.respond id response).1

theorem simulates_ahead (id : Int) (response : Response) :
    Simulates (id ≠ ·) (Ahead id response) where
  session ahead := ahead.session.trans (session_respond _ _ _)
  settings {c d} ahead := by
    obtain ⟨_, _, same⟩ := d.respond_frame id response
    rw [ahead.settings, same]
  kept {c d} ahead other := by
    rw [simulates_rearranged.kept ahead, isKept_respond]
  configured ahead session settings := by
    rw [Ahead, respond_configured]
    exact simulates_rearranged.configured ahead session settings
  begun ahead request apart := by
    rw [Ahead, respond_begun _ _ _ apart]
    exact ahead.begun request
  respond {c d} ahead other apart response' := by
    exact (ahead.respond other response').trans (d.respond_comm id response apart response')
  keep ahead other apart := by
    rw [Ahead, respond_keep _ _ _ apart]
    exact ahead.keep other

def Operation.request? : Operation → Option Int
  | .answer requestId _ => some requestId
  | .trigger .. | .deliverAll | .receive .. | .enter _ | .next | .previous | .cancel | .withdraw _
  | .configure _ => none

theorem answer_of_request? {operation : Operation} {id : Int}
    (asked : operation.request? = some id) : ∃ response, operation = .answer id response := by
  cases operation with
  | answer requestId response =>
      obtain rfl := Option.some.inj asked
      exact ⟨response, rfl⟩
  | trigger | deliverAll | receive | enter | next | previous | cancel | withdraw | configure =>
      cases asked

theorem perform_swap {controller : Controller} (bounded : controller.Bounded) {id : Int}
    (kept : controller.isKept id) (response : Response) {operation : Operation}
    (single : operation ≠ .deliverAll) (other : operation.request? ≠ some id) :
    Rearranged (((controller.perform (.answer id response)).controller).perform operation).controller
      ((controller.perform operation).controller.perform (.answer id response)).controller := by
  have answered {c : Controller} (kept : c.isKept id) :
      (c.perform (.answer id response)).controller = (c.respond id response).1 := by
    change (c.answer id response).controller = _
    rw [answer, if_pos kept]
  have known := known_of_isKept bounded kept
  have ahead : Ahead id response (controller.perform (.answer id response)).controller controller := by
    rw [answered kept]
    exact .refl _
  rw [answered (isKept_perform bounded kept single)]
  refine (simulates_ahead id response).perform ahead single ?_ ?_
  · intro new above
    rw [answered kept, session_respond] at above
    omega
  · rintro id' response' rfl rfl
    exact other rfl

theorem perform_comm {controller : Controller} (bounded : controller.Bounded)
    {first second : Operation} (single : first ≠ .deliverAll) (single' : second ≠ .deliverAll)
    (apart : first.request? ≠ second.request?)
    (kept : ∀ id ∈ first.request?, controller.isKept id)
    (kept' : ∀ id ∈ second.request?, controller.isKept id) :
    Rearranged ((controller.perform first).controller.perform second).controller
      ((controller.perform second).controller.perform first).controller := by
  cases asked : first.request? with
  | some id =>
      obtain ⟨response, rfl⟩ := answer_of_request? asked
      rw [asked] at apart
      exact perform_swap bounded (kept id asked) response single' apart.symm
  | none =>
      cases asked' : second.request? with
      | some id =>
          obtain ⟨response, rfl⟩ := answer_of_request? asked'
          rw [asked'] at apart
          exact (perform_swap bounded (kept' id asked') response single apart).symm
      | none => exact absurd (asked.trans asked'.symm) apart

end Controller

end Autocomplete
