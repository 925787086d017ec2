import Autocomplete.Proofs.Controller.Mirror

namespace Autocomplete

namespace Session

def scoredBy (session : Session) (scorer : Scorer) : Session := { session with scorer := scorer }

variable {session : Session} {failure : ScorerFailure}

theorem session_rerank_of_error (failed : session.rerank.result = .error failure) :
    session.rerank.session = session := by
  rcases session.rerank_cases with ⟨_, same⟩ | ⟨_, _, same⟩
  · rw [same]
  · rw [same] at failed
    cases failed

theorem session_enter_of_error {input : String}
    (failed : (session.enter input).result = .error failure) :
    (session.enter input).session = { session with input := input, index := 0 } := by
  unfold enter at failed ⊢
  dsimp only at failed ⊢
  split
  · next active =>
    rw [if_pos active] at failed
    exact session_rerank_of_error failed
  · rfl

theorem session_receive_of_error {requestId : Int} {input : String} {items : List Item}
    (failed : (session.receive requestId input items).result = .error failure) :
    session.status = .started ∧
      (session.receive requestId input items).session = session.store input items := by
  unfold receive at failed ⊢
  split
  · next current =>
    rw [if_pos current] at failed
    refine ⟨isActive_iff.1 current.1, ?_⟩
    dsimp only at failed ⊢
    cases ranking : (session.store input items).rerank.result with
    | error failure => exact session_rerank_of_error ranking
    | ok _ =>
        rw [ranking] at failed
        cases failed
  · next other =>
    rw [if_neg other] at failed
    cases failed

theorem shown_enter {input : String} (started : session.status = .started)
    (entered : (session.enter input).result = .ok ()) :
    (∃ ranked made, (input = "" → ranked = session.ranked) ∧ (session.enter input).session =
        { session with input := input, index := 0, ranked := ranked, made := made }) ∧
      shownFor session.scorer input session.cache =
        .ok (session.enter input).session.displayed.candidates := by
  let typed : Session := { session with input := input, index := 0 }
  have same : session.enter input = typed.rerank := if_pos (isActive_iff.2 started)
  rw [same] at entered ⊢
  have shown := (shown_rerank entered).2.2
  rcases typed.rerank_cases with ⟨_, failed⟩ | ⟨ranked, made, ranking⟩
  · rw [failed] at entered
    cases entered
  · rw [ranking] at shown ⊢
    refine ⟨⟨ranked, made, fun empty => ?_, rfl⟩, shown⟩
    have unranked : typed.rerank = ⟨.ok (), typed⟩ := if_pos empty
    exact congrArg (·.session.ranked) (ranking.symm.trans unranked)

end Session

namespace Controller

def scoredBy (controller : Controller) (scorer : Scorer) : Controller :=
  { controller with session := controller.session.scoredBy scorer }

variable {controller : Controller} {failure : Failure}

theorem outcomeOf_of_error {α : Type} {outcome : Session.Outcome α}
    (failed : (controller.outcomeOf outcome).result = .error failure) :
    (∃ cause, outcome.result = .error cause) ∧ (controller.outcomeOf outcome).events = [] := by
  unfold outcomeOf at failed ⊢
  split at failed
  · cases failed
  · next cause failing => exact ⟨⟨cause, failing⟩, rfl⟩

theorem enter_of_error {input : String}
    (failed : (controller.enter input).result = .error failure) :
    (controller.enter input).events = [] ∧ (controller.enter input).controller =
      { controller with session := { controller.session with input := input, index := 0 } } := by
  obtain ⟨⟨_, failing⟩, silent⟩ := outcomeOf_of_error failed
  refine ⟨silent, ?_⟩
  rw [enter, controller_outcomeOf, Session.session_enter_of_error failing]

theorem receive_of_error {requestId : Int} {input : String} {items : List Item}
    (failed : (controller.receive requestId input items).result = .error failure) :
    controller.session.status = .started ∧ (controller.receive requestId input items).events = [] ∧
      (controller.receive requestId input items).controller =
        { controller with session := controller.session.store input items } := by
  obtain ⟨⟨_, failing⟩, silent⟩ := outcomeOf_of_error failed
  obtain ⟨started, stored⟩ := Session.session_receive_of_error failing
  refine ⟨started, silent, ?_⟩
  rw [receive, controller_outcomeOf, stored]

theorem deliver_of_error {messages : List Message}
    (failed : (controller.deliver messages).result = .error failure) :
    ∃ delivered message rest count, messages = delivered ++ message :: rest ∧
      let before := controller.deliver delivered
      let last := before.controller.receive message.requestId message.input message.items
      before.result = .ok count ∧ last.result = .error failure ∧
        controller.deliver messages =
          ⟨.error failure, { last.controller with mailbox := rest }, before.events, []⟩ := by
  induction messages generalizing controller with
  | nil => cases failed
  | cons message rest ih =>
      cases first : (controller.receive message.requestId message.input message.items).result with
      | error cause =>
          simp only [deliver_cons, first, (receive_of_error first).2.1] at failed ⊢
          obtain rfl := Except.error.inj failed
          have alone := controller.receive_posted [] message.requestId message.input message.items
          refine ⟨[], message, rest, 0, rfl, rfl, ?_⟩
          dsimp only [deliver] at alone ⊢
          rw [alone]
          exact ⟨first, rfl⟩
      | ok taken =>
          simp only [deliver_cons, first] at failed ⊢
          cases others : ((controller.receive message.requestId message.input
              message.items).controller.deliver rest).result with
          | ok count =>
              rw [others] at failed
              cases failed
          | error cause =>
              rw [others] at failed
              obtain rfl := Except.error.inj failed
              obtain ⟨delivered, last, waiting, count, split, before, failing, same⟩ := ih others
              refine ⟨message :: delivered, last, waiting, (if taken then 1 else 0) + count,
                by rw [split]; rfl, ?_⟩
              simp only [deliver_cons, first, same, before]
              exact ⟨rfl, failing, rfl⟩

theorem outcomeOf_from (controller : Controller) (session : Session)
    (outcome : Session.Outcome α) :
    ({ controller with session := session }.outcomeOf outcome).result =
        (controller.outcomeOf outcome).result ∧
      ({ controller with session := session }.outcomeOf outcome).controller =
        (controller.outcomeOf outcome).controller := by
  unfold outcomeOf
  cases outcome.result <;> exact ⟨rfl, rfl⟩

theorem result_outcomeOf_ok {outcome : Session.Outcome α} {value : α}
    (succeeded : (controller.outcomeOf outcome).result = .ok value) :
    outcome.result = .ok value := by
  unfold outcomeOf at succeeded
  split at succeeded
  · next result =>
    cases succeeded
    exact result
  · cases succeeded

/-- When the scorer fails, the operation changes what it sets before it ranks, and nothing is told.
An input that is then entered with success leaves no trace of the failed one, and the list is shown
for it and the answers in the cache; the scorer may be another one by then. Of the messages, the one
that fails and those before it are gone. -/
theorem failures_contained (controller : Controller) :
    (∀ input failure, (controller.enter input).result = .error failure →
      let failed := (controller.enter input).controller
      (controller.enter input).events = [] ∧
      failed = { controller with
        session := { controller.session with input := input, index := 0 } } ∧
      ∀ scorer other,
        ((failed.scoredBy scorer).enter other).result =
          ((controller.scoredBy scorer).enter other).result ∧
        ((failed.scoredBy scorer).enter other).controller =
          ((controller.scoredBy scorer).enter other).controller) ∧
    (∀ requestId input items failure,
      (controller.receive requestId input items).result = .error failure →
      let failed := (controller.receive requestId input items).controller
      let session := controller.session
      let cache := Entries.insert input
        (.make session.made (items.map fun item => { item := item })) session.cache
      (controller.receive requestId input items).events = [] ∧
      failed = { controller with
        session := { session with cache := cache, made := session.made + 1 } } ∧
      ∀ scorer other, ((failed.scoredBy scorer).enter other).result = .ok () →
        let after := ((failed.scoredBy scorer).enter other).controller
        (∃ ranked made, (other = "" → ranked = session.ranked) ∧
          after = { controller with session := { session with
            scorer := scorer, input := other, index := 0, cache := cache, ranked := ranked
            made := made } }) ∧
        Session.shownFor scorer other cache = .ok after.session.displayed.candidates) ∧
    ∀ failure, controller.deliverAll.result = .error failure →
      ∃ delivered message rest count, controller.mailbox = delivered ++ message :: rest ∧
        let before := controller.deliver delivered
        let last := before.controller.receive message.requestId message.input message.items
        before.result = .ok count ∧ last.result = .error failure ∧
          controller.deliverAll =
            ⟨.error failure, { last.controller with mailbox := rest }, before.events, []⟩ := by
  refine ⟨?_, ?_, fun failure => deliver_of_error⟩
  · intro input failure failing failed
    obtain ⟨silent, same⟩ := enter_of_error failing
    refine ⟨silent, same, ?_⟩
    intro scorer other
    rw [show failed = _ from same]
    exact outcomeOf_from (controller.scoredBy scorer) _
      ((controller.session.scoredBy scorer).enter other)
  · intro requestId input items failure failing failed session cache
    obtain ⟨started, silent, same⟩ := receive_of_error failing
    refine ⟨silent, same, ?_⟩
    intro scorer other entered after
    let stored := (session.store input items).scoredBy scorer
    rw [show failed = _ from same] at entered
    have typed : (stored.enter other).result = .ok () := result_outcomeOf_ok entered
    have active : stored.status = .started := started
    obtain ⟨⟨ranked, made, blank, last⟩, shown⟩ := Session.shown_enter active typed
    have reached : after = { controller with session := (stored.enter other).session } := by
      rw [show after = _ from congrArg (fun failed : Controller =>
        ((failed.scoredBy scorer).enter other).controller) same]
      exact controller_outcomeOf _ _
    refine ⟨⟨ranked, made, blank, ?_⟩, ?_⟩
    · rw [reached, last]
      rfl
    · rw [reached]
      exact shown

theorem failures_contained_table :
    let scorer := Scorer.ofTable [("good", .rated ⟨1, [0]⟩), ("bad", .failing)]
    let mended := Scorer.ofTable [("bad", .rated ⟨1, [0]⟩)]
    let good : Item := { label := "good" }
    let bad : Item := { label := "bad" }
    let operations : List Operation := [.trigger [.fixed [good]] .unnamed ⟨0, 0⟩ none, .deliverAll,
      .enter "g", .trigger [.deferred none (some true)] .unnamed ⟨0, 0⟩ none,
      .trigger [.fixed [good, bad]] .unnamed ⟨0, 0⟩ none, .deliverAll,
      .trigger [.fixed [good, bad]] .unnamed ⟨0, 0⟩ none, .answer 2 (.completionList [good] false)]
    let controller := (new scorer {}).performAll operations
    let failure : Failure := .scorerFailed ⟨"scorer failed on bad"⟩
    let entered := controller.enter "g"
    let received := controller.receive 4 "g" [good, bad]
    let recovered := (received.controller.scoredBy mended).enter "g"
    entered.result = .error failure ∧ entered.events = [] ∧
      ((entered.controller.scoredBy mended).enter "x").controller =
        ((controller.scoredBy mended).enter "x").controller ∧
      received.result = .error failure ∧ received.events = [] ∧
      recovered.controller.session.displayed.candidates.map Candidate.item = [bad] ∧
      Session.shownFor mended "g" received.controller.session.cache =
        .ok recovered.controller.session.displayed.candidates ∧
      controller.deliverAll.result = .error failure ∧
      controller.deliverAll.controller.mailbox = [⟨2, "g", [good]⟩] ∧
      ∃ delivered message,
        controller.mailbox = delivered ++ message :: controller.deliverAll.controller.mailbox := by
  intro scorer mended good bad operations controller failure entered received recovered
  have entering : entered.result = .error failure := by decide +kernel
  have receiving : received.result = .error failure := by decide +kernel
  have recovering : recovered.result = .ok () := by decide +kernel
  have best : recovered.controller.session.displayed.candidates.map Candidate.item = [bad] := by
    decide +kernel
  have delivering : controller.deliverAll.result = .error failure := by decide +kernel
  have waiting : controller.deliverAll.controller.mailbox = [⟨2, "g", [good]⟩] := by
    decide +kernel
  -- No step from here on looks into the operations.
  clear_value controller
  obtain ⟨enter, receive, deliver⟩ := failures_contained controller
  obtain ⟨silent, _, recovery⟩ := enter "g" failure entering
  obtain ⟨unheard, stored, shown⟩ := receive 4 "g" [good, bad] failure receiving
  obtain ⟨delivered, message, rest, _, split, _, _, left⟩ := deliver failure delivering
  refine ⟨entering, silent, (recovery mended "x").2, receiving, unheard, best, ?_, delivering,
    waiting, delivered, message, ?_⟩
  · rw [show received.controller = _ from stored]
    exact (shown mended "g" recovering).2
  · rw [left]
    exact split

end Controller

end Autocomplete
