import Autocomplete.Proofs.Controller.History
import Autocomplete.Proofs.Session.Coherence

namespace Autocomplete

theorem Session.performAll_append (session : Session) (operations more : List Session.Operation) :
    session.performAll (operations ++ more) = (session.performAll operations).performAll more := by
  induction operations generalizing session with
  | nil => rfl
  | cons operation rest ih => exact ih _

namespace Controller

theorem performAll_append (controller : Controller) (operations more : List Operation) :
    controller.performAll (operations ++ more) =
      (controller.performAll operations).performAll more := by
  induction operations generalizing controller with
  | nil => rfl
  | cons operation rest ih => exact ih _

theorem controller_outcomeOf (controller : Controller) (outcome : Session.Outcome α) :
    (controller.outcomeOf outcome).controller =
      { controller with session := outcome.session } := by
  unfold outcomeOf
  split <;> rfl

theorem respond_cases (controller : Controller) (requestId : Int) (response : Response) :
    (controller.respond requestId response).1 = controller ∨
    (∃ ticket, Entries.find? requestId controller.tickets = some ticket ∧
      (controller.respond requestId response).1 = { controller with
        tickets :=
          Entries.insert requestId { ticket with answered := true } controller.tickets }) ∨
    ∃ ticket items, Entries.find? requestId controller.tickets = some ticket ∧
      response.decodeBy controller.decodeAll = .ok items ∧
      (controller.respond requestId response).1 = { controller with
        tickets := Entries.insert requestId { ticket with answered := true } controller.tickets
        mailbox := controller.mailbox ++ [⟨requestId, ticket.input, items⟩] } := by
  unfold respond
  cases Entries.find? requestId controller.tickets with
  | none => exact .inl rfl
  | some ticket =>
      dsimp only
      split
      · exact .inl rfl
      · cases response.decodeBy controller.decodeAll with
        | error warning => exact .inr (.inl ⟨ticket, rfl, rfl⟩)
        | ok items => exact .inr (.inr ⟨ticket, items, rfl, rfl, rfl⟩)

theorem respond_frame (controller : Controller) (requestId : Int) (response : Response) :
    ∃ mailbox tickets, (controller.respond requestId response).1 =
      { controller with mailbox := mailbox, tickets := tickets } := by
  rcases controller.respond_cases requestId response with
    same | ⟨_, _, failed⟩ | ⟨_, _, _, _, posted⟩
  · exact ⟨_, _, same⟩
  · exact ⟨_, _, failed⟩
  · exact ⟨_, _, posted⟩

theorem session_respond (controller : Controller) (requestId : Int) (response : Response) :
    (controller.respond requestId response).1.session = controller.session := by
  obtain ⟨_, _, same⟩ := controller.respond_frame requestId response
  rw [same]

/-- What every answer and every promise to answer keeps, asking the providers keeps. -/
theorem ask_induction {motive : Controller → Prop} {request : Request}
    (respond : ∀ controller response, motive controller →
      motive (controller.respond request.id response).1)
    (keep : ∀ controller, motive controller → motive (controller.keep request.id))
    {controller : Controller} (start : motive controller) (providers : List Provider) :
    motive (controller.ask request providers).2.1 := by
  have respondAll (controller : Controller) (responses : List Response)
      (start : motive controller) : motive (controller.respondAll request.id responses).1 := by
    induction responses generalizing controller with
    | nil => exact start
    | cons response rest ih => exact ih _ (respond controller response start)
  induction providers generalizing controller with
  | nil => exact start
  | cons provider rest ih =>
      have answered := respondAll controller (provider request).answers start
      have kept : motive (if (provider request).keeps then
            (controller.respondAll request.id (provider request).answers).1.keep request.id
          else (controller.respondAll request.id (provider request).answers).1) := by
        split
        · exact keep _ answered
        · exact answered
      unfold ask
      dsimp only
      cases (provider request).verdict with
      | some accepted => exact kept
      | none => exact ih kept

theorem ask_history {motive : List Happening → Controller → Prop} {request : Request}
    (respond : ∀ history controller response, motive history controller →
      motive (history ++ [.answered request.id response])
        (controller.respond request.id response).1)
    (keep : ∀ history controller, motive history controller →
      motive history (controller.keep request.id))
    {history : List Happening} {controller : Controller} (start : motive history controller)
    (providers : List Provider) :
    motive (history ++ (answersAtOnce request providers).map (.answered request.id))
      (controller.ask request providers).2.1 := by
  have respondAll (history : List Happening) (controller : Controller) (responses : List Response)
      (start : motive history controller) :
      motive (history ++ responses.map (.answered request.id))
        (controller.respondAll request.id responses).1 := by
    induction responses generalizing history controller with
    | nil => rwa [List.map_nil, List.append_nil]
    | cons response rest ih =>
        have rest := ih _ _ (respond history controller response start)
        rwa [List.append_assoc, List.singleton_append, ← List.map_cons] at rest
  induction providers generalizing history controller with
  | nil => rwa [answersAtOnce, List.map_nil, List.append_nil]
  | cons provider rest ih =>
      have answered := respondAll history controller (provider request).answers start
      have kept : motive (history ++ (provider request).answers.map (.answered request.id))
          (if (provider request).keeps then
            (controller.respondAll request.id (provider request).answers).1.keep request.id
          else (controller.respondAll request.id (provider request).answers).1) := by
        split
        · exact keep _ _ answered
        · exact answered
      rw [answersAtOnce, List.map_append, ← List.append_assoc]
      unfold ask
      dsimp only
      cases (provider request).verdict with
      | some accepted => simpa using kept
      | none => exact ih kept

theorem ask_frame (controller : Controller) (request : Request) (providers : List Provider) :
    ∃ mailbox tickets, (controller.ask request providers).2.1 =
      { controller with mailbox := mailbox, tickets := tickets } := by
  apply ask_induction (motive := fun asked => ∃ mailbox tickets, asked =
    { controller with mailbox := mailbox, tickets := tickets })
  · rintro _ response ⟨mailbox, tickets, rfl⟩
    exact respond_frame _ request.id response
  · rintro _ ⟨mailbox, tickets, rfl⟩
    unfold keep
    split <;> exact ⟨_, _, rfl⟩
  · exact ⟨_, _, rfl⟩

theorem session_ask (controller : Controller) (request : Request) (providers : List Provider) :
    (controller.ask request providers).2.1.session = controller.session := by
  obtain ⟨_, _, same⟩ := controller.ask_frame request providers
  rw [same]

theorem session_trigger (controller : Controller) (providers : List Provider) (buffer : BufferId)
    (position : Position) (requestId : Option Int) :
    (∃ failure, controller.trigger providers buffer position requestId =
      ⟨.error failure, controller, [], []⟩) ∨
    ∃ id, (controller.trigger providers buffer position requestId).result = .ok id ∧
      (controller.trigger providers buffer position requestId).controller.session =
        controller.session.start id buffer position := by
  rcases controller.trigger_cases providers buffer position requestId with
    ⟨id, refused⟩ | ⟨id, _, made, after⟩
  · exact .inl ⟨_, refused⟩
  · refine .inr ⟨id, made, ?_⟩
    rw [after, session_ask]
    rfl

theorem session_deliver (controller : Controller) (messages : List Message) :
    ∃ operations, (controller.deliver messages).controller.session =
      controller.session.performAll operations := by
  induction messages generalizing controller with
  | nil => exact ⟨[], rfl⟩
  | cons message rest ih =>
      let first := { controller with mailbox := rest }.receive message.requestId message.input
        message.items
      let received : Session.Operation :=
        .receive message.requestId message.input message.items
      have after : first.controller.session = (controller.session.perform received).session := by
        simp only [first, Controller.receive, controller_outcomeOf]
        rfl
      unfold deliver
      dsimp only
      cases result : first.result with
      | error failure => exact ⟨[received], after⟩
      | ok taken =>
          obtain ⟨operations, others⟩ := ih first.controller
          exact ⟨received :: operations, by rw [others, after]; rfl⟩

theorem configure_cases (controller : Controller) (config : Json) :
    (∃ error, Settings.ofJson config = .error error ∧
      controller.configure config = ⟨.error (.settingsRefused error), controller, [], []⟩) ∨
    ∃ settings, Settings.ofJson config = .ok settings ∧
      controller.configure config = ⟨.ok (), { controller with
        settings := settings
        session := controller.session.setWrapAround settings.wrapAround }, [], []⟩ := by
  unfold configure
  cases Settings.ofJson config with
  | error error => exact .inl ⟨error, rfl, rfl⟩
  | ok settings => exact .inr ⟨settings, rfl, rfl⟩

theorem session_configure (controller : Controller) (config : Json) :
    (controller.configure config).controller.session = controller.session ∨
      ∃ wrapAround, (controller.configure config).controller.session =
        controller.session.setWrapAround wrapAround := by
  rcases controller.configure_cases config with ⟨_, _, refused⟩ | ⟨settings, _, applied⟩
  · exact .inl (by rw [refused])
  · exact .inr ⟨settings.wrapAround, by rw [applied]⟩

theorem session_perform (controller : Controller) (operation : Operation) :
    ∃ operations, (controller.perform operation).controller.session =
      controller.session.performAll operations := by
  cases operation with
  | trigger providers buffer position requestId =>
      rcases controller.session_trigger providers buffer position requestId with
        ⟨_, refused⟩ | ⟨id, _, started⟩
      · exact ⟨[], congrArg (fun outcome => outcome.controller.session) refused⟩
      · exact ⟨[.start id buffer position], started⟩
  | answer requestId response =>
      refine ⟨[], ?_⟩
      change (controller.answer requestId response).controller.session = _
      unfold answer
      split
      · exact controller.session_respond requestId response
      · rfl
  | deliverAll => exact controller.session_deliver controller.mailbox
  | receive requestId input items =>
      exact ⟨[.receive requestId input items],
        congrArg Controller.session (controller_outcomeOf controller _)⟩
  | enter input =>
      exact ⟨[.enter input], congrArg Controller.session (controller_outcomeOf controller _)⟩
  | next => exact ⟨[.next], rfl⟩
  | previous => exact ⟨[.previous], rfl⟩
  | cancel => exact ⟨[.cancel], rfl⟩
  | withdraw requestId =>
      change ∃ operations, (controller.withdraw requestId).controller.session = _
      unfold withdraw
      split
      · exact ⟨[.cancel], rfl⟩
      · exact ⟨[], rfl⟩
  | configure config =>
      rcases controller.session_configure config with same | ⟨wrapAround, set⟩
      · exact ⟨[], same⟩
      · exact ⟨[.setWrapAround wrapAround], set⟩

theorem deliver_frame (controller : Controller) (messages : List Message) :
    ∃ session mailbox, (controller.deliver messages).controller =
      { controller with session := session, mailbox := mailbox } := by
  induction messages generalizing controller with
  | nil => exact ⟨_, _, rfl⟩
  | cons message rest ih =>
      have first := { controller with mailbox := rest }.controller_outcomeOf
        (controller.session.receive message.requestId message.input message.items)
      unfold deliver
      dsimp only
      unfold receive
      generalize Controller.outcomeOf _ _ = outcome at first ⊢
      cases outcome.result with
      | error failure => exact ⟨_, _, first⟩
      | ok taken =>
          obtain ⟨session, mailbox, others⟩ := ih outcome.controller
          exact ⟨session, mailbox, by rw [others, first]⟩

theorem perform_frame (controller : Controller) (operation : Operation) :
    ∃ session mailbox tickets, (controller.perform operation).controller =
      { controller with
        session := session
        settings := operation.settings?.getD controller.settings
        mailbox := mailbox
        tickets := tickets } := by
  cases operation with
  | trigger providers buffer position requestId =>
      change ∃ session mailbox tickets,
        (controller.trigger providers buffer position requestId).controller = _
      rcases controller.trigger_cases providers buffer position requestId with
        ⟨_, refused⟩ | ⟨_, _, _, after⟩
      · exact ⟨_, _, _, congrArg Outcome.controller refused⟩
      · obtain ⟨_, _, same⟩ := (controller.begun _).ask_frame _ providers.reverse
        exact ⟨_, _, _, after.trans same⟩
  | answer requestId response =>
      change ∃ session mailbox tickets, (controller.answer requestId response).controller = _
      obtain ⟨_, _, same⟩ := controller.respond_frame requestId response
      unfold answer
      split
      · exact ⟨_, _, _, same⟩
      · exact ⟨_, _, _, rfl⟩
  | deliverAll =>
      obtain ⟨_, _, same⟩ := controller.deliver_frame controller.mailbox
      exact ⟨_, _, _, same⟩
  | receive requestId input items =>
      exact ⟨_, _, _, controller.controller_outcomeOf
        (controller.session.receive requestId input items)⟩
  | enter input =>
      exact ⟨_, _, _, controller.controller_outcomeOf (controller.session.enter input)⟩
  | next | previous | cancel => exact ⟨_, _, _, rfl⟩
  | withdraw requestId =>
      change ∃ session mailbox tickets, (controller.withdraw requestId).controller = _
      unfold withdraw
      split <;> exact ⟨_, _, _, rfl⟩
  | configure config =>
      change ∃ session mailbox tickets, (controller.configure config).controller = _
      rw [Operation.settings?]
      rcases controller.configure_cases config with ⟨_, bad, refused⟩ | ⟨_, good, applied⟩
      · rw [refused, bad]
        exact ⟨_, _, _, rfl⟩
      · rw [applied, good]
        exact ⟨_, _, _, rfl⟩

theorem decodeAll_perform (controller : Controller) (operation : Operation) :
    (controller.perform operation).controller.decodeAll = controller.decodeAll := by
  obtain ⟨_, _, _, same⟩ := controller.perform_frame operation
  rw [same]

theorem decodeAll_performAll (controller : Controller) (operations : List Operation) :
    (controller.performAll operations).decodeAll = controller.decodeAll := by
  induction operations generalizing controller with
  | nil => rfl
  | cons operation rest ih => exact (ih _).trans (controller.decodeAll_perform operation)

theorem session_performAll (controller : Controller) (operations : List Operation) :
    ∃ own, (controller.performAll operations).session = controller.session.performAll own := by
  induction operations generalizing controller with
  | nil => exact ⟨[], rfl⟩
  | cons operation rest ih =>
      obtain ⟨first, step⟩ := controller.session_perform operation
      obtain ⟨others, run⟩ := ih (controller.perform operation).controller
      refine ⟨first ++ others, ?_⟩
      rw [Session.performAll_append, ← step]
      exact run

theorem coherent_performAll {scorer : Scorer} (total : scorer.Total) (settings : Settings)
    (decodeAll : ListDecoder) (operations : List Operation) :
    Session.Coherent scorer ((new scorer settings decodeAll).performAll operations).session := by
  obtain ⟨own, run⟩ := (new scorer settings decodeAll).session_performAll operations
  rw [run]
  exact Session.coherent_performAll (Session.coherent_initial scorer settings.wrapAround) total own

end Controller

end Autocomplete
