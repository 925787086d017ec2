import Autocomplete.Proofs.Controller.Exchange
import Autocomplete.Proofs.Controller.Mirror

namespace Autocomplete.Controller

theorem deliver_of_others {controller : Controller} {messages : List Message}
    (others : ∀ message ∈ messages, controller.session.requestId ≠ message.requestId) :
    controller.deliver messages = ⟨.ok 0, { controller with mailbox := [] }, [], []⟩ := by
  induction messages generalizing controller with
  | nil => rfl
  | cons message rest ih =>
      rw [List.forall_mem_cons] at others
      rw [deliver_of_discarded (receive_of_other others.1 _ _)]
      exact ih others.2

theorem deliver_split {controller : Controller} (total : controller.session.scorer.Total)
    {before after : List Message} {message : Message}
    (earlier : ∀ other ∈ before, controller.session.requestId ≠ other.requestId)
    (later : ∀ other ∈ after, controller.session.requestId ≠ other.requestId) :
    controller.deliver (before ++ message :: after) = controller.deliver [message] := by
  -- What comes before the message leaves the session as it is, and so does what comes after it.
  induction before generalizing controller with
  | nil =>
      let received := controller.session.receive message.requestId message.input message.items
      have taken : received.result = .ok (controller.session.awaits message) :=
        Session.taken_receive total message
      have first : controller.receive message.requestId message.input message.items =
          ⟨.ok (controller.session.awaits message), { controller with session := received.session },
            notifications controller.session received.session, []⟩ := by
        simp only [receive, outcomeOf, received, taken]
      have current : received.session.requestId = controller.session.requestId :=
        (controller.session.continues_receive _ _ _).requestId
      have others : ∀ other ∈ after, received.session.requestId ≠ other.requestId := by
        rwa [current]
      simp only [List.nil_append, deliver_cons, first]
      rw [deliver_of_others others]
      rfl
  | cons other rest ih =>
      rw [List.forall_mem_cons] at earlier
      rw [List.cons_append, deliver_of_discarded (receive_of_other earlier.1 _ _)]
      exact ih total earlier.2 later

theorem deliver_of_nodup {controller : Controller} (total : controller.session.scorer.Total)
    {messages : List Message} (nodup : (messages.map Message.requestId).Nodup) {message : Message}
    (member : message ∈ messages) (current : controller.session.requestId = message.requestId) :
    controller.deliver messages = controller.deliver [message] := by
  obtain ⟨before, after, rfl⟩ := List.append_of_mem member
  rw [List.map_append, List.map_cons, List.nodup_middle, List.nodup_cons, ← List.map_append] at nodup
  have others : ∀ other ∈ before ++ after, controller.session.requestId ≠ other.requestId := by
    intro other inside same
    exact nodup.1 (List.mem_map.2 ⟨other, inside, same.symm.trans current⟩)
  exact deliver_split total (fun other inside => others other (List.mem_append_left _ inside))
    fun other inside => others other (List.mem_append_right _ inside)

theorem deliver_perm {controller : Controller} (total : controller.session.scorer.Total)
    {messages messages' : List Message} (nodup : (messages.map Message.requestId).Nodup)
    (perm : messages'.Perm messages) :
    controller.deliver messages' = controller.deliver messages := by
  have nodup' : (messages'.map Message.requestId).Nodup :=
    (perm.map Message.requestId).nodup_iff.2 nodup
  by_cases awaited : ∃ message ∈ messages, controller.session.requestId = message.requestId
  · obtain ⟨message, member, current⟩ := awaited
    rw [deliver_of_nodup total nodup member current,
      deliver_of_nodup total nodup' (perm.mem_iff.2 member) current]
  · push Not at awaited
    have awaited' : ∀ message ∈ messages', controller.session.requestId ≠ message.requestId :=
      fun message member => awaited message (perm.mem_iff.1 member)
    rw [deliver_of_others awaited, deliver_of_others awaited']

def CallsKept (controller : Controller) : List Operation → Prop
  | [] => True
  | operation :: rest =>
    (∀ id ∈ operation.request?, controller.isKept id) ∧
      (controller.perform operation).controller.CallsKept rest

theorem Rearranged.performAll {c d : Controller} (rearranged : Rearranged c d)
    {operations : List Operation} (quiet : .deliverAll ∉ operations) :
    Rearranged (c.performAll operations) (d.performAll operations) ∧
      (c.CallsKept operations → d.CallsKept operations) := by
  induction operations generalizing c d with
  | nil => exact ⟨rearranged, id⟩
  | cons operation rest ih =>
      rw [List.mem_cons, not_or] at quiet
      have after := simulates_rearranged.perform rearranged (Ne.symm quiet.1)
        (fun _ _ => trivial) (fun _ _ _ => trivial)
      obtain ⟨final, calls⟩ := ih after quiet.2
      refine ⟨final, fun ⟨kept, others⟩ => ⟨?_, calls others⟩⟩
      intro id member
      rw [← simulates_rearranged.kept rearranged]
      exact kept id member

theorem performAll_move {controller : Controller} (bounded : controller.Bounded)
    {operation : Operation} {before after : List Operation}
    (quiet : .deliverAll ∉ before ++ operation :: after)
    (apart : ∀ other ∈ before, other.request? ≠ operation.request?)
    (kept : ∀ id ∈ operation.request?, controller.isKept id)
    (calls : controller.CallsKept (before ++ operation :: after)) :
    Rearranged (controller.performAll (before ++ operation :: after))
        (controller.performAll (operation :: (before ++ after))) ∧
      controller.CallsKept (operation :: (before ++ after)) := by
  induction before generalizing controller with
  | nil => exact ⟨.refl _, calls⟩
  | cons other before ih =>
      rw [List.cons_append] at quiet calls
      rw [List.mem_cons, not_or] at quiet
      rw [List.forall_mem_cons] at apart
      have single : operation ≠ .deliverAll := by
        rintro rfl
        simp at quiet
      have single' : other ≠ .deliverAll := Ne.symm quiet.1
      have rest : .deliverAll ∉ before ++ after := by
        intro member
        apply quiet.2
        rcases List.mem_append.1 member with inside | inside
        · exact List.mem_append_left _ inside
        · exact List.mem_append_right _ (List.mem_cons_of_mem _ inside)
      obtain ⟨moved, _, calls'⟩ := ih (bounded.perform other) quiet.2 apart.2
        (fun id member => isKept_perform bounded (kept id member) single') calls.2
      have swapped := perform_comm bounded single' single apart.1 calls.1 kept
      obtain ⟨final, callsSwapped⟩ := swapped.performAll rest
      refine ⟨moved.trans final, kept, ?_, callsSwapped calls'⟩
      exact fun id member => isKept_perform bounded (calls.1 id member) single

/-- The same operations, where those that answer the same request keep their order, and so do those
that answer none. -/
def Reordered (a b : List Operation) : Prop :=
  ∀ request, a.filter (·.request? = request) = b.filter (·.request? = request)

theorem performAll_reordered {controller : Controller} (bounded : controller.Bounded)
    {a b : List Operation} (quiet : .deliverAll ∉ a) (reordered : Reordered a b)
    (calls : controller.CallsKept a) (calls' : controller.CallsKept b) :
    Rearranged (controller.performAll a) (controller.performAll b) := by
  induction a generalizing controller b with
  | nil =>
      cases b with
      | nil => exact .refl _
      | cons operation rest => simpa using reordered operation.request?
  | cons operation rest ih =>
      have same := reordered operation.request?
      rw [List.filter_cons_of_pos (by simp)] at same
      obtain ⟨before, after, rfl, apart, _, later⟩ := List.filter_eq_cons_iff.1 same.symm
      have quiet' : .deliverAll ∉ before ++ operation :: after := by
        intro member
        have inside : Operation.deliverAll ∈
            (operation :: rest).filter (·.request? = none) := by
          rw [reordered none]
          exact List.mem_filter.2 ⟨member, by simp [Operation.request?]⟩
        exact quiet (List.mem_filter.1 inside).1
      have others : Reordered rest (before ++ after) := by
        intro request
        have same := reordered request
        by_cases own : operation.request? = request
        · subst own
          rw [List.filter_append, List.filter_eq_nil_iff.2 apart, later, List.nil_append]
        · simpa [own] using same
      rw [List.mem_cons, not_or] at quiet
      obtain ⟨moved, _, calls''⟩ := performAll_move bounded quiet'
        (fun other member => by simpa using apart other member) calls.1 calls'
      exact (ih (bounded.perform operation) quiet.2 others calls.2 calls'').trans moved.symm

theorem nodup_mailbox {scorer : Scorer} (total : scorer.Total) (settings : Settings)
    (decodeAll : ListDecoder) (operations : List Operation) :
    (((new scorer settings decodeAll).performAll operations).mailbox.map
      Message.requestId).Nodup := by
  have initial : Session.Coherent scorer (new scorer settings decodeAll).session :=
    Session.coherent_initial scorer settings.wrapAround
  have nodup := ((Accounted.new scorer settings decodeAll).performAll total initial operations).nodup
  rw [messages, List.map_append] at nodup
  exact nodup.of_append_right

theorem countP_awaits_le_one (session : Session) {messages : List Message}
    (nodup : (messages.map Message.requestId).Nodup) : messages.countP session.awaits ≤ 1 := by
  have once := List.nodup_iff_count_le_one.1 nodup session.requestId
  rw [List.count, List.countP_map] at once
  refine Nat.le_trans (List.countP_mono_left ?_) once
  intro message _ awaited
  simp only [Session.awaits, Bool.and_eq_true, beq_iff_eq] at awaited
  simp [awaited.2]

/-- After any operations a delivery takes one message at most, and the order in which they wait makes
no difference to it. So nothing is changed when, before the delivery, the answers to different
requests come in another order, among each other and among all else that is done. -/
theorem deliverAll_reordered {scorer : Scorer} (total : scorer.Total) (settings : Settings)
    (decodeAll : ListDecoder) (operations : List Operation) :
    let controller := (new scorer settings decodeAll).performAll operations
    (controller.deliverAll.result = .ok 0 ∨ controller.deliverAll.result = .ok 1) ∧
      (∀ messages : List Message, messages.Perm controller.mailbox →
        { controller with mailbox := messages }.deliverAll = controller.deliverAll) ∧
      ∀ a b : List Operation, .deliverAll ∉ a → Reordered a b → controller.CallsKept a →
        controller.CallsKept b →
          (controller.performAll a).deliverAll = (controller.performAll b).deliverAll ∧
            controller.performAll (a ++ [.deliverAll]) =
              controller.performAll (b ++ [.deliverAll]) := by
  intro controller
  have rates (operations : List Operation) :
      ((new scorer settings decodeAll).performAll operations).session.scorer.Total := by
    rw [(coherent_performAll total settings decodeAll operations).rates]
    exact total
  have any_order (operations : List Operation) {messages : List Message}
      (perm : messages.Perm ((new scorer settings decodeAll).performAll operations).mailbox) :
      { (new scorer settings decodeAll).performAll operations with mailbox := messages }.deliverAll =
        ((new scorer settings decodeAll).performAll operations).deliverAll := by
    rw [deliverAll, deliver_posted]
    exact deliver_perm (rates operations) (nodup_mailbox total settings decodeAll operations)
      perm
  refine ⟨?_, fun _ => any_order operations, ?_⟩
  · obtain ⟨result, _⟩ := deliver_of_total (rates operations) controller.mailbox
    have one := countP_awaits_le_one controller.session
      (nodup_mailbox total settings decodeAll operations)
    rcases Nat.le_one_iff_eq_zero_or_eq_one.1 one with none | one
    · exact .inl (result.trans (congrArg Except.ok none))
    · exact .inr (result.trans (congrArg Except.ok one))
  · intro a b quiet reordered calls calls'
    have bounded := (bounded_new scorer settings decodeAll).performAll operations
    have rearranged := performAll_reordered bounded quiet reordered calls calls'
    have same : (controller.performAll a).deliverAll = (controller.performAll b).deliverAll := by
      have perm := rearranged.mailbox
      rw [rearranged.eq]
      have split : controller.performAll b =
          (new scorer settings decodeAll).performAll (operations ++ b) :=
        (performAll_append _ _ _).symm
      rw [split] at perm ⊢
      exact any_order _ perm
    refine ⟨same, ?_⟩
    rw [performAll_append, performAll_append]
    change (controller.performAll a).deliverAll.controller =
      (controller.performAll b).deliverAll.controller
    rw [same]

theorem deliverAll_reordered_late :
    let item (label : String) : Item := ⟨label, none, none, none, none⟩
    let request : Operation := .trigger [.deferred none (some true)] .unnamed ⟨0, 0⟩ none
    let first : Operation := .answer 1 (.itemList [item "none"])
    let second : Operation := .answer 2 (.itemList [item "next"])
    let controller := (new .fuzzy {}).performAll [request]
    let a := [first, request, .enter "n", second]
    let b := [request, second, .enter "n", first]
    Scorer.fuzzy.Total ∧ .deliverAll ∉ a ∧ Reordered a b ∧ controller.CallsKept a ∧
      controller.CallsKept b ∧
      (controller.performAll a).mailbox.map Message.requestId = [1, 2] ∧
      (controller.performAll b).mailbox.map Message.requestId = [2, 1] ∧
      controller.performAll (a ++ [.deliverAll]) = controller.performAll (b ++ [.deliverAll]) := by
  intro item request first second controller a b
  have quiet : .deliverAll ∉ a := by simp [a, request, first, second]
  have reordered : Reordered a b := by
    rintro (_ | id)
    · simp [a, b, request, first, second, Operation.request?]
    · by_cases one : 1 = id
      · simp [a, b, request, first, second, Operation.request?, ← one]
      · simp [a, b, request, first, second, Operation.request?, List.filter_cons, one]
  have calls : controller.CallsKept a := by
    refine ⟨?_, nofun, nofun, ?_, trivial⟩
    · rintro _ ⟨⟩
      decide +kernel
    · rintro _ ⟨⟩
      decide +kernel
  have calls' : controller.CallsKept b := by
    refine ⟨nofun, ?_, nofun, ?_, trivial⟩
    · rintro _ ⟨⟩
      decide +kernel
    · rintro _ ⟨⟩
      decide +kernel
  obtain ⟨_, _, same⟩ := deliverAll_reordered Scorer.total_fuzzy {} Item.decodeAll [request]
  exact ⟨Scorer.total_fuzzy, quiet, reordered, calls, calls', by decide +kernel, by decide +kernel,
    (same a b quiet reordered calls calls').2⟩

end Autocomplete.Controller
