import Autocomplete.Proofs.Controller.SessionRun
import Autocomplete.Proofs.Session.Selection
import Mathlib.Data.List.Induction

namespace Autocomplete.Controller

def Operation.Delivers : Operation → Prop
  | .deliverAll | .receive .. => True
  | .trigger .. | .answer .. | .enter _ | .next | .previous | .cancel | .withdraw _
  | .configure _ => False

theorem selectedItem_eq_error_iff (controller : Controller) :
    controller.selectedItem = .error .nothingSelected ↔ controller.session.selected? = none := by
  unfold selectedItem
  cases controller.session.selected? <;> simp

theorem index_receive (controller : Controller) (requestId : Int) (input : String)
    (items : List Item) :
    (controller.receive requestId input items).controller.session.index =
      controller.session.index := by
  rw [receive, controller_outcomeOf]
  exact controller.session.index_receive requestId input items

theorem index_deliver (controller : Controller) (messages : List Message) :
    (controller.deliver messages).controller.session.index = controller.session.index := by
  induction messages generalizing controller with
  | nil => rfl
  | cons message rest ih =>
      have first := { controller with mailbox := rest }.index_receive message.requestId
        message.input message.items
      unfold deliver
      dsimp only at first ⊢
      generalize Controller.receive _ _ _ _ = outcome at first ⊢
      cases outcome.result with
      | error failure => exact first
      | ok taken => exact (ih _).trans first

theorem index_perform_of_delivers (controller : Controller) {operation : Operation}
    (delivers : operation.Delivers) :
    (controller.perform operation).controller.session.index = controller.session.index := by
  cases operation with
  | deliverAll => exact controller.index_deliver controller.mailbox
  | receive requestId input items => exact controller.index_receive requestId input items
  | trigger | answer | enter | next | previous | cancel | withdraw | configure =>
      exact delivers.elim

theorem selectsRow_perform {controller : Controller} {operation : Operation}
    (idle : controller.session.status = .inactive → controller.session.IsBlank)
    (row : controller.session.SelectsRow) (quiet : ¬ operation.Delivers) :
    (controller.perform operation).controller.session.SelectsRow := by
  cases operation with
  | trigger providers buffer position requestId =>
      change (controller.trigger providers buffer position requestId).controller.session.SelectsRow
      rcases controller.session_trigger providers buffer position requestId with
        ⟨_, refused⟩ | ⟨id, _, started⟩
      · rwa [refused]
      · rw [started]
        exact Session.selectsRow_start row id buffer position
  | answer requestId response =>
      change (controller.answer requestId response).controller.session.SelectsRow
      unfold answer
      split
      · rwa [session_respond]
      · exact row
  | enter input =>
      change (controller.enter input).controller.session.SelectsRow
      rw [enter, controller_outcomeOf]
      exact controller.session.selectsRow_enter input
  | next => exact controller.session.selectsRow_next
  | previous => exact controller.session.selectsRow_previous
  | cancel => exact Session.selectsRow_cancel idle
  | withdraw requestId =>
      change (controller.withdraw requestId).controller.session.SelectsRow
      unfold withdraw
      split
      · exact Session.selectsRow_cancel idle
      · exact row
  | configure config =>
      change (controller.configure config).controller.session.SelectsRow
      rcases controller.session_configure config with same | ⟨wrapAround, set⟩
      · rwa [same]
      · rw [set]
        exact row
  | deliverAll | receive => exact absurd trivial quiet

/-- The selection is a row of the displayed list at all times, and reading it fails only when the
list is empty, exactly if every delivery leaves a list that is empty or goes beyond the selection.
-/
theorem selectsRow_performAll_iff {scorer : Scorer} (total : scorer.Total) (settings : Settings)
    (decodeAll : ListDecoder) (operations : List Operation) :
    (∀ before after, operations = before ++ after →
      let controller := (new scorer settings decodeAll).performAll before
      (controller.session.displayed.candidates ≠ [] →
        controller.session.index < controller.session.length) ∧
      (controller.selectedItem = .error .nothingSelected →
        controller.session.displayed.candidates = [])) ↔
    ∀ before operation after, operations = before ++ operation :: after → operation.Delivers →
      let earlier := ((new scorer settings decodeAll).performAll before).session
      let later := ((new scorer settings decodeAll).performAll (before ++ [operation])).session
      later.displayed.candidates ≠ [] → earlier.index < later.length := by
  have index_delivered (before : List Operation) {operation : Operation}
      (delivers : operation.Delivers) :
      ((new scorer settings decodeAll).performAll (before ++ [operation])).session.index =
        ((new scorer settings decodeAll).performAll before).session.index := by
    rw [performAll_append]
    exact index_perform_of_delivers _ delivers
  constructor
  · intro always before operation after split delivers earlier later shown
    have row : later.index < later.length :=
      (always (before ++ [operation]) after (by simp [split])).1 shown
    exact index_delivered before delivers ▸ row
  · intro deliveries before after split
    have row : ((new scorer settings decodeAll).performAll before).session.SelectsRow := by
      -- By the last operation: a delivery leaves the selection alone, and every other operation
      -- looks after the row itself.
      induction before using List.reverseRecOn generalizing after with
      | nil => exact Session.selectsRow_of_first rfl
      | append_singleton before operation ih =>
          rw [List.append_assoc, List.singleton_append] at split
          by_cases delivers : operation.Delivers
          · intro shown
            rw [index_delivered before delivers]
            exact deliveries before operation after split delivers shown
          · rw [performAll_append]
            exact selectsRow_perform (coherent_performAll total settings decodeAll before).blank
              (ih _ split) delivers
    refine ⟨row, fun failed => ?_⟩
    rw [selectedItem_eq_error_iff] at failed
    exact Session.selectsRow_iff_selected.1 row failed

theorem selectsRow_performAll_iff_kept :
    let items (labels : List String) : List Item := labels.map fun label =>
      ⟨label, none, none, none, none⟩
    let operations : List Operation := [
      .trigger [.fixed (items ["a", "b", "c"])] .unnamed ⟨0, 0⟩ none, .deliverAll, .previous,
      .trigger [.fixed (items ["x", "y", "z"])] .unnamed ⟨0, 0⟩ none, .deliverAll]
    Scorer.fuzzy.Total ∧ ((new .fuzzy {}).performAll operations).session.index = 2 ∧
      ((new .fuzzy {}).performAll operations).session.SelectsRow := by
  intro items operations
  have deliveries : ∀ before operation after, operations = before ++ operation :: after →
      operation.Delivers →
      let earlier := ((new .fuzzy {}).performAll before).session
      let later := ((new .fuzzy {}).performAll (before ++ [operation])).session
      later.displayed.candidates ≠ [] → earlier.index < later.length := by
    intro before operation after split delivers
    rcases before with _ | ⟨_, _ | ⟨_, _ | ⟨_, _ | ⟨_, _ | ⟨_, before⟩⟩⟩⟩⟩ <;>
      simp only [operations, List.nil_append, List.cons_append, List.cons.injEq, List.nil_eq,
        List.append_eq_nil_iff, reduceCtorEq, and_false] at split
    · obtain ⟨rfl, -⟩ := split
      exact delivers.elim
    · obtain ⟨rfl, rfl, -⟩ := split
      intro earlier later _
      decide +kernel
    · obtain ⟨rfl, rfl, rfl, -⟩ := split
      exact delivers.elim
    · obtain ⟨rfl, rfl, rfl, rfl, -⟩ := split
      exact delivers.elim
    · obtain ⟨rfl, rfl, rfl, rfl, rfl, -⟩ := split
      intro earlier later _
      decide +kernel
  have always :=
    (selectsRow_performAll_iff Scorer.total_fuzzy {} Item.decodeAll operations).2 deliveries
  have index : ((new .fuzzy {}).performAll operations).session.index = 2 := by decide +kernel
  exact ⟨Scorer.total_fuzzy, index, (always operations [] (List.append_nil _).symm).1⟩

theorem selectsRow_performAll_shortened :
    ¬ ∀ operations : List Operation, ((new .fuzzy {}).performAll operations).session.SelectsRow := by
  intro always
  let items (labels : List String) : List Item := labels.map fun label =>
    ⟨label, none, none, none, none⟩
  let operations : List Operation := [
    .trigger [.fixed (items ["a", "b", "c"])] .unnamed ⟨0, 0⟩ none, .deliverAll, .previous,
    .trigger [.fixed (items ["x"])] .unnamed ⟨0, 0⟩ none, .deliverAll]
  have shown : ((new .fuzzy {}).performAll operations).session.displayed.candidates ≠ [] := by
    decide +kernel
  have outside : ¬ ((new .fuzzy {}).performAll operations).session.index <
      ((new .fuzzy {}).performAll operations).session.length := by decide +kernel
  have row := always operations shown
  exact outside row

end Autocomplete.Controller
