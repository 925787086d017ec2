import Autocomplete.Proofs.Controller.SessionRun
import Mathlib.Data.List.Induction
import Mathlib.Data.List.Nodup

namespace Autocomplete

namespace Session

def awaits (session : Session) (message : Message) : Bool :=
  session.isActive && session.requestId == message.requestId

theorem awaits_receive (session : Session) (requestId : Int) (input : String) (items : List Item) :
    (session.receive requestId input items).session.awaits = session.awaits := by
  rcases session.receive_cases requestId input items with ⟨_, _, same, _⟩ | ⟨_, discarded⟩
  · have status : (session.receive requestId input items).session.status = session.status :=
      same.status
    have current : (session.receive requestId input items).session.requestId = session.requestId :=
      same.requestId
    funext message
    simp [awaits, isActive, status, current]
  · rw [discarded]

theorem scorer_receive (session : Session) (requestId : Int) (input : String) (items : List Item) :
    (session.receive requestId input items).session.scorer = session.scorer := by
  unfold receive rerank
  repeat' split
  all_goals rfl

theorem taken_receive {session : Session} (total : session.scorer.Total) (message : Message) :
    (session.receive message.requestId message.input message.items).result =
      .ok (session.awaits message) := by
  have stored : (session.store message.input message.items).scorer.Total := total
  by_cases current : session.isActive ∧ session.requestId = message.requestId
  · simp [receive, awaits, current, result_rerank stored, Except.map]
  · simp only [receive, if_neg current, awaits]
    simpa using current

end Session

namespace Controller

def posts (controller : Controller) : Operation → List Message
  | .deliverAll => []
  | operation => (controller.perform operation).controller.mailbox.drop controller.mailbox.length

def posted (controller : Controller) : List Operation → List Message
  | [] => []
  | operation :: rest =>
    controller.posts operation ++ (controller.perform operation).controller.posted rest

def delivered (history : List Happening) : List Message :=
  history.filterMap fun
    | .delivered message _ => some message
    | _ => none

theorem delivered_append (a b : List Happening) : delivered (a ++ b) = delivered a ++ delivered b :=
  List.filterMap_append

theorem mailbox_respond (controller : Controller) (requestId : Int) (response : Response) :
    controller.mailbox <+: (controller.respond requestId response).1.mailbox := by
  rcases controller.respond_cases requestId response with
    same | ⟨_, _, failed⟩ | ⟨_, _, _, _, posted⟩
  · simp only [same, List.prefix_refl]
  · simp only [failed, List.prefix_refl]
  · simp only [posted, List.prefix_append]

theorem mailbox_keep (controller : Controller) (requestId : Int) :
    (controller.keep requestId).mailbox = controller.mailbox := by
  unfold keep
  split <;> rfl

theorem mailbox_ask (controller : Controller) (request : Request) (providers : List Provider) :
    controller.mailbox <+: (controller.ask request providers).2.1.mailbox := by
  apply ask_induction (motive := fun asked => controller.mailbox <+: asked.mailbox)
  · exact fun asked response before => before.trans (asked.mailbox_respond request.id response)
  · intro asked before
    rwa [mailbox_keep]
  · exact List.prefix_refl _

theorem mailbox_perform (controller : Controller) {operation : Operation}
    (single : operation ≠ .deliverAll) :
    (controller.perform operation).controller.mailbox =
      controller.mailbox ++ controller.posts operation := by
  have before : controller.mailbox <+: (controller.perform operation).controller.mailbox := by
    cases operation with
    | trigger providers buffer position requestId =>
        change _ <+: (controller.trigger providers buffer position requestId).controller.mailbox
        rcases controller.trigger_cases providers buffer position requestId with
          ⟨id, refused⟩ | ⟨id, _, _, after⟩
        · simp [refused]
        · rw [after]
          exact (controller.begun _).mailbox_ask _ _
    | answer requestId response =>
        change _ <+: (controller.answer requestId response).controller.mailbox
        unfold answer
        split
        · exact controller.mailbox_respond requestId response
        · exact List.prefix_refl _
    | deliverAll => exact absurd rfl single
    | receive requestId input items =>
        change _ <+: (controller.receive requestId input items).controller.mailbox
        simp [receive, controller_outcomeOf]
    | enter input =>
        change _ <+: (controller.enter input).controller.mailbox
        simp [enter, controller_outcomeOf]
    | next | previous | cancel => exact List.prefix_refl _
    | withdraw requestId =>
        change _ <+: (controller.withdraw requestId).controller.mailbox
        unfold withdraw
        split <;> exact List.prefix_refl _
    | configure config =>
        change _ <+: (controller.configure config).controller.mailbox
        unfold configure
        split <;> exact List.prefix_refl _
  rw [List.prefix_iff_eq_append] at before
  cases operation with
  | deliverAll => exact absurd rfl single
  | trigger | answer | receive | enter | next | previous | cancel | withdraw | configure =>
      exact before.symm

theorem delivered_happenings (controller : Controller) {operation : Operation}
    (single : operation ≠ .deliverAll) : delivered (controller.happenings operation) = [] := by
  cases operation with
  | trigger providers buffer position requestId =>
      rw [happenings]
      split
      · rfl
      · simp [delivered]
  | answer requestId response =>
      rw [happenings]
      split <;> rfl
  | deliverAll => exact absurd rfl single
  | withdraw requestId =>
      rw [happenings]
      split <;> rfl
  | receive | enter | next | previous | cancel | configure => rfl

theorem deliver_of_total {controller : Controller} (total : controller.session.scorer.Total)
    (messages : List Message) :
    (controller.deliver messages).result = .ok (messages.countP controller.session.awaits) ∧
      controller.deliveries messages =
        messages.map (fun message => .delivered message (controller.session.awaits message)) ∧
      ∃ after : Session,
        (controller.deliver messages).controller =
          { controller with session := after, mailbox := [] } ∧
        after.requestId = controller.session.requestId := by
  induction messages generalizing controller with
  | nil => exact ⟨rfl, rfl, controller.session, rfl, rfl⟩
  | cons message rest ih =>
      let received := controller.session.receive message.requestId message.input message.items
      let next : Controller := { controller with session := received.session, mailbox := rest }
      have taken : received.result = .ok (controller.session.awaits message) :=
        Session.taken_receive total message
      have first : { controller with mailbox := rest }.receive message.requestId message.input
          message.items = ⟨.ok (controller.session.awaits message), next,
            notifications controller.session received.session, []⟩ := by
        simp only [receive, outcomeOf, received, taken, next]
      have rates : next.session.scorer.Total := by
        change received.session.scorer.Total
        rwa [Session.scorer_receive]
      have same : next.session.awaits = controller.session.awaits :=
        controller.session.awaits_receive _ _ _
      have current : next.session.requestId = controller.session.requestId :=
        (controller.session.continues_receive _ _ _).requestId
      obtain ⟨count, others, after, final, still⟩ := ih rates
      rw [same] at count others
      unfold deliver deliveries
      rw [first]
      dsimp only
      refine ⟨?_, ?_, after, final, still.trans current⟩
      · rw [count, List.countP_cons, Nat.add_comm]
        rfl
      · rw [others, List.map_cons]

theorem posted_eq {scorer : Scorer} (total : scorer.Total) {controller : Controller}
    (coherent : Session.Coherent scorer controller.session) (operations : List Operation) :
    controller.mailbox ++ controller.posted operations =
      delivered (controller.history operations) ++ (controller.performAll operations).mailbox := by
  induction operations generalizing controller with
  | nil => exact List.append_nil _
  | cons operation rest ih =>
      obtain ⟨own, run⟩ := controller.session_perform operation
      have others := ih (run ▸ Session.coherent_performAll coherent total own)
      rw [posted, history, performAll, delivered_append, List.append_assoc, ← others]
      by_cases single : operation = .deliverAll
      · subst single
        obtain ⟨_, taken, _, emptied, _⟩ :=
          deliver_of_total (coherent.rates ▸ total) controller.mailbox
        have empty : (controller.perform .deliverAll).controller.mailbox = [] :=
          congrArg Controller.mailbox emptied
        rw [empty, happenings, taken]
        simp [posts, delivered]
      · rw [controller.mailbox_perform single, controller.delivered_happenings single,
          List.append_assoc, List.nil_append]

def firstAnswer? (requestId : Int) (history : List Happening) : Option Response :=
  history.findSome? fun
    | .answered id response => if id = requestId then some response else none
    | _ => none

def messageOf? (decodeAll : ListDecoder) (requestId : Int) (input : String)
    (response : Response) : Option Message :=
  (response.decodeBy decodeAll).toOption.map fun items => ⟨requestId, input, items⟩

def dueMessage? (decodeAll : ListDecoder) (requestId : Int) (input : String)
    (later : List Happening) : Option Message :=
  (firstAnswer? requestId later).bind (messageOf? decodeAll requestId input)

theorem firstAnswer?_append (requestId : Int) (a b : List Happening) :
    firstAnswer? requestId (a ++ b) = (firstAnswer? requestId a).or (firstAnswer? requestId b) :=
  List.findSome?_append

theorem firstAnswer?_answered (requestId id : Int) (response : Response) :
    firstAnswer? requestId [.answered id response] =
      if id = requestId then some response else none := by
  simp [firstAnswer?]

def Answered (controller : Controller) (requestId : Int) : Prop :=
  ∀ ticket, Entries.find? requestId controller.tickets = some ticket → ticket.answered = true

theorem not_answered_iff {controller : Controller} {requestId : Int} :
    ¬ controller.Answered requestId ↔
      ∃ ticket, Entries.find? requestId controller.tickets = some ticket ∧
        ticket.answered = false := by
  simp [Answered]

theorem requestId_messageOf? {decodeAll : ListDecoder} {requestId : Int} {input : String}
    {response : Response} {message : Message}
    (member : message ∈ (messageOf? decodeAll requestId input response).toList) :
    message.requestId = requestId := by
  simp only [messageOf?, Option.mem_toList, Option.map_eq_some_iff] at member
  obtain ⟨items, _, rfl⟩ := member
  rfl

theorem respond_of_unanswered {controller : Controller} {requestId : Int} {ticket : Ticket}
    (found : Entries.find? requestId controller.tickets = some ticket)
    (unanswered : ticket.answered = false) (response : Response) :
    (controller.respond requestId response).1 = { controller with
      tickets := Entries.insert requestId { ticket with answered := true } controller.tickets
      mailbox := controller.mailbox ++
        (messageOf? controller.decodeAll requestId ticket.input response).toList } := by
  simp only [respond, found, unanswered, messageOf?, Bool.false_eq_true, if_false]
  cases response.decodeBy controller.decodeAll with
  | error warning => simp [Except.toOption]
  | ok items => simp [Except.toOption]

theorem respond_of_answered {controller : Controller} {requestId : Int}
    (answered : controller.Answered requestId) (response : Response) :
    (controller.respond requestId response).1 = controller := by
  cases found : Entries.find? requestId controller.tickets with
  | none => simp only [respond, found]
  | some ticket => simp only [respond, found, answered ticket found, if_true]

theorem Made.of_append {history more : List Happening} {request : Request} {input : String}
    {later : List Happening} (made : Made (history ++ more) request input later)
    (requests : requestIds more = []) :
    ∃ before, later = before ++ more ∧ Made history request input before := by
  induction more using List.reverseRecOn generalizing later with
  | nil => exact ⟨later, (List.append_nil later).symm, by rwa [List.append_nil] at made⟩
  | append_singleton more event ih =>
      rw [requestIds_append, List.append_eq_nil_iff] at requests
      obtain ⟨earlier, split⟩ := made
      rw [← List.append_assoc] at split
      rcases split_concat split with ⟨_, rfl, _⟩ | ⟨before, rfl, inside⟩
      · cases requests.2
      · obtain ⟨since, rfl, made⟩ := ih ⟨earlier, inside⟩ requests.1
        exact ⟨since, List.append_assoc _ _ _, made⟩

theorem Made.mem_requestIds {history : List Happening} {request : Request} {input : String}
    {later : List Happening} (made : Made history request input later) :
    request.id ∈ requestIds history := by
  obtain ⟨earlier, rfl⟩ := made
  simp [requestIds_append, requestIds_requested]

def messages (history : List Happening) (controller : Controller) : List Message :=
  delivered history ++ controller.mailbox

structure Account (decodeAll : ListDecoder) (messages : List Message)
    (tickets : List (Int × Ticket)) (request : Request) (input : String) (later : List Happening)
    (ticket : Ticket) : Prop where
  found : Entries.find? request.id tickets = some ticket
  asked : ticket.input = input
  answered : ticket.answered = (firstAnswer? request.id later).isSome
  due : messages.filter (fun message => message.requestId = request.id) =
    (dueMessage? decodeAll request.id input later).toList

namespace Account

variable {decodeAll : ListDecoder} {messages : List Message} {tickets : List (Int × Ticket)}
  {request : Request} {input : String} {later : List Happening} {ticket : Ticket}
  (account : Account decodeAll messages tickets request input later ticket)
include account

theorem frame {more : List Happening} {new : List Message} {tickets' : List (Int × Ticket)}
    (found : Entries.find? request.id tickets' = some ticket)
    (first : firstAnswer? request.id (later ++ more) = firstAnswer? request.id later)
    (foreign : ∀ message ∈ new, message.requestId ≠ request.id) :
    Account decodeAll (messages ++ new) tickets' request input (later ++ more) ticket := by
  refine ⟨found, account.asked, ?_, ?_⟩
  · rw [first, account.answered]
  · have none : new.filter (fun message => message.requestId = request.id) = [] :=
      List.filter_eq_nil_iff.2 (by simpa using foreign)
    rw [List.filter_append, none, List.append_nil, account.due, dueMessage?, dueMessage?, first]

theorem settle (unanswered : ticket.answered = false) (response : Response) :
    Account decodeAll
      (messages ++ (messageOf? decodeAll request.id ticket.input response).toList)
      (Entries.insert request.id { ticket with answered := true } tickets) request input
      (later ++ [.answered request.id response]) { ticket with answered := true } := by
  have first : firstAnswer? request.id later = none := by
    rw [← Option.not_isSome_iff_eq_none, ← account.answered, unanswered]
    exact Bool.false_ne_true
  have none : messages.filter (fun message => message.requestId = request.id) = [] := by
    rw [account.due, dueMessage?, first]
    rfl
  have own : ∀ message ∈ (messageOf? decodeAll request.id ticket.input response).toList,
      message.requestId = request.id := fun _ => requestId_messageOf?
  refine ⟨Entries.find?_insert_self _ _ _, account.asked, ?_, ?_⟩
  · simp [firstAnswer?_append, first, firstAnswer?_answered]
  · rw [List.filter_append, none, List.filter_eq_self.2 (by simpa using own)]
    simp [dueMessage?, firstAnswer?_append, first, firstAnswer?_answered, account.asked]

end Account

theorem known_insert {ids : List Int} {tickets : List (Int × Ticket)}
    (known : ∀ id ticket, Entries.find? id tickets = some ticket → id ∈ ids) {requestId : Int}
    (own : requestId ∈ ids) (new : Ticket) :
    ∀ id ticket, Entries.find? id (Entries.insert requestId new tickets) = some ticket →
      id ∈ ids := by
  intro id ticket found
  rw [Entries.find?_insert] at found
  split at found
  · next same => exact same ▸ own
  · exact known id ticket found

structure Accounted (history : List Happening) (controller : Controller) : Prop where
  increasing : (requestIds history).Pairwise (· < ·)
  latest : ∀ id ∈ requestIds history, id ≤ controller.session.requestId
  tickets : ∀ id ticket, Entries.find? id controller.tickets = some ticket →
    id ∈ requestIds history
  senders : ∀ message ∈ messages history controller, message.requestId ∈ requestIds history
  accounts : ∀ request input later, Made history request input later →
    ∃ ticket, Account controller.decodeAll (messages history controller) controller.tickets request
      input later ticket

namespace Accounted

theorem new (scorer : Scorer) (settings : Settings) (decodeAll : ListDecoder) :
    Accounted [] (Controller.new scorer settings decodeAll) := by
  refine ⟨.nil, nofun, nofun, nofun, ?_⟩
  rintro request input later ⟨earlier, split⟩
  cases earlier <;> cases split

variable {history : List Happening} {controller : Controller}
  (accounted : Accounted history controller)
include accounted

theorem extend {more : List Happening} {after : Controller} (requests : requestIds more = [])
    (answers : ∀ id ticket, Entries.find? id controller.tickets = some ticket →
      ticket.answered = false → firstAnswer? id more = none)
    (queue : delivered more ++ after.mailbox = controller.mailbox)
    (tickets : after.tickets = controller.tickets)
    (current : after.session.requestId = controller.session.requestId)
    (decodes : after.decodeAll = controller.decodeAll) : Accounted (history ++ more) after := by
  have ids : requestIds (history ++ more) = requestIds history := by
    rw [requestIds_append, requests, List.append_nil]
  have same : messages (history ++ more) after = messages history controller := by
    rw [messages, delivered_append, List.append_assoc, queue, messages]
  refine ⟨ids ▸ accounted.increasing, ?_, ?_, ?_, ?_⟩
  · rw [ids, current]
    exact accounted.latest
  · rw [ids, tickets]
    exact accounted.tickets
  · rw [ids, same]
    exact accounted.senders
  · intro request input later made
    obtain ⟨before, rfl, asked⟩ := made.of_append requests
    obtain ⟨ticket, account⟩ := accounted.accounts request input before asked
    have first : firstAnswer? request.id (before ++ more) = firstAnswer? request.id before := by
      rw [firstAnswer?_append]
      cases known : firstAnswer? request.id before with
      | some response => rfl
      | none => exact answers _ ticket account.found (by rw [account.answered, known]; rfl)
    have framed := account.frame account.found first (List.forall_mem_nil _)
    rw [List.append_nil] at framed
    rw [same, tickets, decodes]
    exact ⟨ticket, framed⟩

theorem framed {after : Session} (current : after.requestId = controller.session.requestId) :
    Accounted history { controller with session := after } := by
  have same : Accounted (history ++ []) { controller with session := after } :=
    accounted.extend rfl (fun _ _ _ _ => rfl) rfl rfl current rfl
  rwa [List.append_nil] at same

theorem keep (requestId : Int) : Accounted history (controller.keep requestId) := by
  unfold Controller.keep
  cases old : Entries.find? requestId controller.tickets with
  | none => exact accounted
  | some before =>
      have known := known_insert accounted.tickets (accounted.tickets requestId before old)
      refine ⟨accounted.increasing, accounted.latest, known _, accounted.senders, ?_⟩
      intro request input later made
      obtain ⟨ticket, account⟩ := accounted.accounts request input later made
      by_cases own : requestId = request.id
      · subst own
        obtain rfl := Option.some.inj (old.symm.trans account.found)
        exact ⟨_, Entries.find?_insert_self _ _ _, account.asked, account.answered, account.due⟩
      · refine ⟨ticket, ?_, account.asked, account.answered, account.due⟩
        rw [Entries.find?_insert_of_ne own, account.found]

theorem settled {requestId : Int} {before : Ticket}
    (old : Entries.find? requestId controller.tickets = some before)
    (unanswered : before.answered = false) (response : Response) :
    Accounted (history ++ [.answered requestId response]) { controller with
      tickets := Entries.insert requestId { before with answered := true } controller.tickets
      mailbox := controller.mailbox ++
        (messageOf? controller.decodeAll requestId before.input response).toList } := by
  have requests : requestIds [.answered requestId response] = [] := rfl
  have ids : requestIds (history ++ [.answered requestId response]) = requestIds history := by
    rw [requestIds_append, requests, List.append_nil]
  have known := accounted.tickets requestId before old
  let new := (messageOf? controller.decodeAll requestId before.input response).toList
  have queue : delivered (history ++ [.answered requestId response]) ++
      (controller.mailbox ++ new) = messages history controller ++ new := by
    rw [delivered_append, messages, List.append_assoc, List.append_assoc]
    rfl
  refine ⟨ids ▸ accounted.increasing, ids ▸ accounted.latest,
    ids ▸ known_insert accounted.tickets known _, ?_, ?_⟩
  · rw [messages, queue, ids]
    intro message member
    rcases List.mem_append.1 member with earlier | last
    · exact accounted.senders message earlier
    · exact requestId_messageOf? last ▸ known
  · intro request input later made
    obtain ⟨since, rfl, asked⟩ := made.of_append requests
    obtain ⟨ticket, account⟩ := accounted.accounts request input since asked
    rw [messages, queue]
    by_cases own : requestId = request.id
    · subst own
      obtain rfl := Option.some.inj (old.symm.trans account.found)
      exact ⟨_, account.settle unanswered response⟩
    · refine ⟨ticket, account.frame ?_ ?_ ?_⟩
      · rw [Entries.find?_insert_of_ne own, account.found]
      · rw [firstAnswer?_append, firstAnswer?_answered, if_neg own, Option.or_none]
      · intro message member
        rwa [requestId_messageOf? member]

theorem respond (requestId : Int) (response : Response) :
    Accounted (history ++ [.answered requestId response])
      (controller.respond requestId response).1 := by
  by_cases answered : controller.Answered requestId
  · rw [respond_of_answered answered]
    refine accounted.extend rfl ?_ rfl rfl rfl rfl
    intro id ticket found unanswered
    rw [firstAnswer?_answered, if_neg]
    rintro rfl
    rw [answered ticket found] at unanswered
    cases unanswered
  · obtain ⟨before, old, unanswered⟩ := not_answered_iff.1 answered
    rw [respond_of_unanswered old unanswered]
    exact accounted.settled old unanswered response

theorem ask (request : Request) (providers : List Provider) :
    Accounted (history ++ (answersAtOnce request providers).map (.answered request.id))
      (controller.ask request providers).2.1 :=
  ask_history (fun _ _ response before => before.respond request.id response)
    (fun _ _ before => before.keep request.id) accounted providers

theorem requested {request : Request} (above : controller.session.requestId < request.id) :
    Accounted (history ++ [.requested request controller.session.input])
      (controller.begun request) := by
  let asked : List Happening := [.requested request controller.session.input]
  have ids : requestIds (history ++ asked) = requestIds history ++ [request.id] := by
    rw [requestIds_append]
    rfl
  have unmade : ∀ id ∈ requestIds history, id < request.id := fun id member =>
    Int.lt_of_le_of_lt (accounted.latest id member) above
  have same : messages (history ++ asked) (controller.begun request) =
      messages history controller := by
    rw [messages, delivered_append, List.append_assoc]
    rfl
  refine ⟨?_, ?_, ?_, ?_, ?_⟩
  · rw [ids, List.pairwise_append]
    refine ⟨accounted.increasing, List.pairwise_singleton _ _, ?_⟩
    intro id member id' last
    rw [List.mem_singleton.1 last]
    exact unmade id member
  · intro id member
    rw [ids, List.mem_append, List.mem_singleton] at member
    rcases member with before | rfl
    · exact Int.le_of_lt (unmade id before)
    · exact Int.le_refl _
  · rw [ids]
    apply known_insert
    · exact fun id ticket found => List.mem_append_left _ (accounted.tickets id ticket found)
    · exact List.mem_append_right _ (List.mem_singleton_self _)
  · intro message member
    rw [same] at member
    rw [ids]
    exact List.mem_append_left _ (accounted.senders message member)
  · intro request' input later made
    obtain ⟨earlier, split⟩ := made
    rw [same]
    rcases split_concat split with ⟨rfl, first, rfl⟩ | ⟨before, rfl, inside⟩
    · obtain ⟨rfl, rfl⟩ := Happening.requested.inj first
      refine ⟨_, Entries.find?_insert_self _ _ _, rfl, rfl, ?_⟩
      apply List.filter_eq_nil_iff.2
      intro message member
      have below := unmade _ (accounted.senders message member)
      simpa using Int.ne_of_lt below
    · have made : Made history request' input before := ⟨earlier, inside⟩
      obtain ⟨ticket, account⟩ := accounted.accounts request' input before made
      have apart : request.id ≠ request'.id := (Int.ne_of_lt (unmade _ made.mem_requestIds)).symm
      have quiet : firstAnswer? request'.id asked = none := rfl
      have first : firstAnswer? request'.id (before ++ asked) = firstAnswer? request'.id before := by
        rw [firstAnswer?_append, quiet, Option.or_none]
      have found : Entries.find? request'.id (controller.begun request).tickets = some ticket := by
        rw [begun, Entries.find?_insert_of_ne apart, account.found]
      have framed := account.frame found first (List.forall_mem_nil _)
      rw [List.append_nil] at framed
      exact ⟨ticket, framed⟩

theorem perform (total : controller.session.scorer.Total) (operation : Operation) :
    Accounted (history ++ controller.happenings operation)
      (controller.perform operation).controller := by
  cases operation with
  | trigger providers buffer position requestId =>
      change Accounted _ (controller.trigger providers buffer position requestId).controller
      rw [happenings]
      rcases controller.trigger_cases providers buffer position requestId with
        ⟨id, refused⟩ | ⟨id, above, made, after⟩
      · rw [refused]
        simpa using accounted
      · rw [made, after]
        let request : Request := ⟨id, buffer, position⟩
        have requested : Accounted (history ++ [.requested request controller.session.input])
          (controller.begun request) := accounted.requested above
        have asked := requested.ask request providers.reverse
        rwa [List.append_assoc] at asked
  | answer requestId response =>
      change Accounted _ (controller.answer requestId response).controller
      unfold happenings Controller.answer
      dsimp only
      split
      · exact accounted.respond requestId response
      · rwa [List.append_nil]
  | deliverAll =>
      change Accounted _ (controller.deliver controller.mailbox).controller
      obtain ⟨_, taken, after, final, current⟩ := deliver_of_total total controller.mailbox
      rw [happenings, taken, final]
      exact accounted.extend (by simp [requestIds]) (by simp [firstAnswer?])
        (by simp [delivered]) rfl current rfl
  | cancel =>
      exact accounted.extend rfl (fun _ _ _ _ => rfl) rfl rfl
        controller.session.requestId_cancel rfl
  | withdraw requestId =>
      change Accounted _ (controller.withdraw requestId).controller
      unfold happenings Controller.withdraw
      dsimp only
      split
      · exact accounted.extend rfl (fun _ _ _ _ => rfl) rfl rfl
          controller.session.requestId_cancel rfl
      · rwa [List.append_nil]
  | receive requestId input items =>
      change Accounted _ (controller.receive requestId input items).controller
      rw [happenings, List.append_nil, receive, controller_outcomeOf]
      exact accounted.framed (controller.session.continues_receive _ _ _).requestId
  | enter input =>
      change Accounted _ (controller.enter input).controller
      rw [happenings, List.append_nil, enter, controller_outcomeOf]
      exact accounted.framed (controller.session.continues_enter _).requestId
  | next | previous =>
      rw [happenings, List.append_nil]
      exact accounted.framed rfl
  | configure config =>
      change Accounted _ (controller.configure config).controller
      rw [happenings]
      unfold Controller.configure
      split
      · rwa [List.append_nil]
      · exact accounted.extend rfl (fun _ _ _ _ => rfl) rfl rfl rfl rfl

theorem performAll {scorer : Scorer} (total : scorer.Total)
    (coherent : Session.Coherent scorer controller.session) (operations : List Operation) :
    Accounted (history ++ controller.history operations) (controller.performAll operations) := by
  induction operations generalizing history controller with
  | nil => rwa [Controller.history, List.append_nil]
  | cons operation rest ih =>
      obtain ⟨own, run⟩ := controller.session_perform operation
      rw [Controller.history, ← List.append_assoc]
      exact ih (accounted.perform (coherent.rates ▸ total) operation)
        (run ▸ Session.coherent_performAll coherent total own)

theorem nodup : ((messages history controller).map Message.requestId).Nodup := by
  rw [List.nodup_iff_count_le_one]
  intro id
  by_cases known : id ∈ requestIds history
  · obtain ⟨request, input, later, made, rfl⟩ := made_of_mem_requestIds known
    obtain ⟨ticket, account⟩ := accounted.accounts request input later made
    rw [List.count, List.countP_map, List.countP_eq_length_filter]
    change ((messages history controller).filter
      fun message => message.requestId = request.id).length ≤ 1
    rw [account.due]
    cases dueMessage? controller.decodeAll request.id input later <;> simp
  · rw [List.count_eq_zero.2]
    · exact Nat.zero_le 1
    · intro member
      obtain ⟨message, inside, rfl⟩ := List.mem_map.1 member
      exact known (accounted.senders message inside)

end Accounted

/-- In any run, the posted messages are the delivered ones followed by those that wait. No two belong
to the same request, and a request has one exactly if its first answer can be decoded: with the items
of that answer, and the input at the time of the request. A delivery takes all that wait, one after
the other, and counts those that the session waits for; nothing else takes a message. -/
theorem posted_performAll {scorer : Scorer} (total : scorer.Total) (settings : Settings)
    (decodeAll : ListDecoder) (operations : List Operation) :
    let fresh := new scorer settings decodeAll
    let controller := fresh.performAll operations
    let history := fresh.history operations
    let posted := fresh.posted operations
    posted = delivered history ++ controller.mailbox ∧
      (posted.map Message.requestId).Nodup ∧
      (∀ message ∈ posted, message.requestId ∈ requestIds history) ∧
      (∀ request input later, Made history request input later →
        posted.filter (fun message => message.requestId = request.id) =
          (dueMessage? decodeAll request.id input later).toList) ∧
      controller.happenings .deliverAll =
        controller.mailbox.map
          (fun message => .delivered message (controller.session.awaits message)) ∧
      controller.deliverAll.result = .ok (controller.mailbox.countP controller.session.awaits) ∧
      controller.deliverAll.controller.mailbox = [] ∧
      ∀ operation, operation ≠ .deliverAll →
        (controller.perform operation).controller.mailbox =
          controller.mailbox ++ controller.posts operation := by
  intro fresh controller history posted
  have initial : Session.Coherent scorer fresh.session :=
    Session.coherent_initial scorer settings.wrapAround
  have queue : posted = messages history controller := posted_eq total initial operations
  have accounted : Accounted history controller :=
    (Accounted.new scorer settings decodeAll).performAll total initial operations
  have rates : controller.session.scorer = scorer :=
    (coherent_performAll total settings decodeAll operations).rates
  obtain ⟨count, taken, _, emptied, _⟩ := deliver_of_total (rates ▸ total) controller.mailbox
  refine ⟨queue, queue ▸ accounted.nodup, queue ▸ accounted.senders, ?_, taken, count, ?_,
    fun _ => controller.mailbox_perform⟩
  · intro request input later made
    obtain ⟨ticket, account⟩ := accounted.accounts request input later made
    rw [queue, account.due, fresh.decodeAll_performAll operations]
    rfl
  · exact congrArg Controller.mailbox emptied

theorem posted_performAll_failed :
    let item (label : String) : Item := ⟨label, none, none, none, none⟩
    let hasty : Provider := fun _ => {
      verdict := some true
      answers := [.failure ⟨.runtime, "crashed"⟩, .itemList [item "late"]] }
    let operations : List Operation := [.trigger [hasty] .unnamed ⟨0, 0⟩ none,
      .trigger [.deferred none (some true)] .unnamed ⟨0, 0⟩ none, .enter "n",
      .answer 2 (.itemList [item "next"]), .answer 2 (.itemList [item "none"])]
    let fresh := new .fuzzy {}
    let first : Request := ⟨1, .unnamed, ⟨0, 0⟩⟩
    Scorer.fuzzy.Total ∧ fresh.posted operations = [⟨2, "", [item "next"]⟩] ∧
      (∃ later, Made (fresh.history operations) first "" later ∧
        dueMessage? Item.decodeAll first.id "" later = none) ∧
      (fresh.posted operations).filter (fun message => message.requestId = first.id) = [] ∧
      (fresh.performAll operations).deliverAll.result = .ok 1 := by
  intro item hasty operations fresh first
  have made : Made (fresh.history operations) first "" (fresh.history operations).tail := ⟨[], rfl⟩
  obtain ⟨_, _, _, due, _, count, _⟩ :=
    posted_performAll Scorer.total_fuzzy {} Item.decodeAll operations
  have nothing : dueMessage? Item.decodeAll first.id "" (fresh.history operations).tail = none := rfl
  refine ⟨Scorer.total_fuzzy, by decide +kernel, ⟨_, made, nothing⟩, ?_, count.trans ?_⟩
  · rw [due first "" _ made, nothing]
    rfl
  · have waiting : (fresh.performAll operations).mailbox.countP
        (fresh.performAll operations).session.awaits = 1 := by decide +kernel
    rw [waiting]

end Controller

end Autocomplete
