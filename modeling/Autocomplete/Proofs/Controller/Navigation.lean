import Autocomplete.Proofs.Controller.Bounds
import Autocomplete.Proofs.Controller.Exchange
import Autocomplete.Proofs.Session.Selection

namespace Autocomplete

namespace Session

theorem rowAfter_wrapped {length : Nat} (pos : 0 < length) (index : Nat) :
    (rowAfter true length index : Int) = (index + 1) % length := by
  rw [rowAfter, if_neg (Nat.ne_of_gt pos), if_pos rfl, Int.natCast_emod, Int.natCast_succ]

theorem rowBefore_wrapped {length : Nat} (pos : 0 < length) (index : Nat) :
    (rowBefore true length index : Int) = (index - 1) % length := by
  have around : ((index + (length - 1) : Nat) : Int) = index - 1 + length := by omega
  rw [rowBefore, if_neg (Nat.ne_of_gt pos), if_pos rfl, Int.natCast_emod, around,
    Int.add_emod_right]

theorem rowAfter_clamped {length index : Nat} (inside : index < length) :
    rowAfter false length index = min (index + 1) (length - 1) := by
  rw [rowAfter, if_neg (by omega), if_neg Bool.false_ne_true]

theorem rowBefore_clamped {length index : Nat} (inside : index < length) :
    rowBefore false length index = index - 1 := by
  rw [rowBefore, if_neg (by omega), if_neg Bool.false_ne_true]
  omega

theorem rowAfter_empty (wrapAround : Bool) (index : Nat) : rowAfter wrapAround 0 index = index :=
  if_pos rfl

theorem rowBefore_empty (wrapAround : Bool) (index : Nat) : rowBefore wrapAround 0 index = index :=
  if_pos rfl

end Session

namespace Controller

/-! ## The mode in force -/

/-- The settings of the last configuration that is applied, or else the given ones. -/
def lastSettings (settings : Settings) (operations : List Operation) : Settings :=
  (operations.filterMap Operation.settings?).getLastD settings

theorem settings_perform (controller : Controller) (operation : Operation) :
    (controller.perform operation).controller.settings =
      operation.settings?.getD controller.settings := by
  obtain ⟨_, _, _, same⟩ := controller.perform_frame operation
  rw [same]

theorem settings_performAll (controller : Controller) (operations : List Operation) :
    (controller.performAll operations).settings =
      lastSettings controller.settings operations := by
  induction operations generalizing controller with
  | nil => rfl
  | cons operation rest ih =>
      rw [performAll, ih, settings_perform, lastSettings, lastSettings, List.filterMap_cons]
      cases operation.settings? with
      | none => rfl
      | some settings => rw [List.getLastD_cons, Option.getD_some]

/-! ## Moves -/

def Operation.isNext : Operation → Bool
  | .next => true
  | _ => false

def Operation.isPrevious : Operation → Bool
  | .previous => true
  | _ => false

def Operation.IsMove (operation : Operation) : Prop := operation.isNext ∨ operation.isPrevious

inductive Operation.Navigates : Operation → Prop where
  | next : Navigates .next
  | previous : Navigates .previous
  | configure (config : Json) : Navigates (.configure config)

theorem Operation.IsMove.cases {operation : Operation} (move : operation.IsMove) :
    operation = .next ∨ operation = .previous := by
  cases operation with
  | next => exact .inl rfl
  | previous => exact .inr rfl
  | trigger | answer | deliverAll | receive | enter | cancel | withdraw | configure =>
      rcases move with wrong | wrong <;> cases wrong

def withIndex (controller : Controller) (index : Nat) : Controller :=
  { controller with session := { controller.session with index := index } }

variable {controller : Controller} {operations : List Operation}

theorem length_perform (controller : Controller) {operation : Operation}
    (navigates : operation.Navigates) :
    (controller.perform operation).controller.session.length = controller.session.length := by
  cases navigates with
  | next | previous => rfl
  | configure config =>
      change (controller.configure config).controller.session.length = _
      rcases controller.session_configure config with same | ⟨_, set⟩
      · rw [same]
      · rw [set]
        rfl

theorem index_configure (controller : Controller) (config : Json) :
    (controller.configure config).controller.session.index = controller.session.index := by
  rcases controller.session_configure config with same | ⟨_, set⟩
  · rw [same]
  · rw [set]
    rfl

theorem index_lt_of_move {operation : Operation} (move : operation.IsMove)
    (pos : 0 < controller.session.length) :
    (controller.perform operation).controller.session.index < controller.session.length := by
  rcases move.cases with rfl | rfl
  · exact Session.rowAfter_lt _ _ pos
  · exact Session.rowBefore_lt _ _ pos

theorem index_lt_performAll (navigates : ∀ operation ∈ operations, operation.Navigates)
    (inside : controller.session.index < controller.session.length) :
    (controller.performAll operations).session.index < controller.session.length := by
  induction operations generalizing controller with
  | nil => exact inside
  | cons operation rest ih =>
      obtain ⟨first, others⟩ := List.forall_mem_cons.1 navigates
      rw [← length_perform _ first]
      apply ih others
      rw [length_perform _ first]
      cases first with
      | next => exact index_lt_of_move (.inl rfl) (Nat.zero_lt_of_lt inside)
      | previous => exact index_lt_of_move (.inr rfl) (Nat.zero_lt_of_lt inside)
      | configure config => exact (index_configure controller config).symm ▸ inside

theorem length_performAll (controller : Controller)
    (navigates : ∀ operation ∈ operations, operation.Navigates) :
    (controller.performAll operations).session.length = controller.session.length := by
  induction operations generalizing controller with
  | nil => rfl
  | cons operation rest ih =>
      obtain ⟨first, others⟩ := List.forall_mem_cons.1 navigates
      exact (ih _ others).trans (length_perform _ first)

theorem index_lt_of_moved (navigates : ∀ operation ∈ operations, operation.Navigates)
    (moved : ∃ operation ∈ operations, operation.IsMove) (pos : 0 < controller.session.length) :
    (controller.performAll operations).session.index < controller.session.length := by
  obtain ⟨move, member, isMove⟩ := moved
  obtain ⟨before, after, rfl⟩ := List.append_of_mem member
  obtain ⟨earlier, rest⟩ := List.forall_mem_append.1 navigates
  obtain ⟨own, later⟩ := List.forall_mem_cons.1 rest
  have same := controller.length_performAll earlier
  rw [performAll_append, performAll, ← same, ← length_perform _ own]
  apply index_lt_performAll later
  rw [length_perform _ own]
  exact index_lt_of_move isMove (same ▸ pos)

theorem index_of_empty (navigates : ∀ operation ∈ operations, operation.Navigates)
    (empty : controller.session.length = 0) :
    (controller.performAll operations).session.index = controller.session.index := by
  induction operations generalizing controller with
  | nil => rfl
  | cons operation rest ih =>
      obtain ⟨first, others⟩ := List.forall_mem_cons.1 navigates
      refine (ih others ((length_perform _ first).trans empty)).trans ?_
      cases first with
      | next =>
          change Session.rowAfter _ controller.session.length _ = _
          rw [empty, Session.rowAfter_empty]
      | previous =>
          change Session.rowBefore _ controller.session.length _ = _
          rw [empty, Session.rowBefore_empty]
      | configure config => exact index_configure controller config

theorem performAll_of_moves (controller : Controller)
    (moves : ∀ operation ∈ operations, operation.IsMove) :
    ∃ index, controller.performAll operations = controller.withIndex index := by
  induction operations generalizing controller with
  | nil => exact ⟨controller.session.index, rfl⟩
  | cons operation rest ih =>
      obtain ⟨first, others⟩ := List.forall_mem_cons.1 moves
      obtain ⟨index, after⟩ := ih (controller.perform operation).controller others
      refine ⟨index, after.trans ?_⟩
      rcases first.cases with rfl | rfl <;> rfl

/-! ## Wrapping around -/

def WrapsAround (controller : Controller) (operations : List Operation) : Prop :=
  ∀ before operation after, operations = before ++ operation :: after → operation.IsMove →
    (controller.performAll before).session.wrapAround = true

theorem WrapsAround.of_moves (moves : ∀ operation ∈ operations, operation.IsMove)
    (around : controller.session.wrapAround = true) : controller.WrapsAround operations := by
  rintro before operation after rfl _
  obtain ⟨index, same⟩ := controller.performAll_of_moves (List.forall_mem_append.1 moves).1
  rw [same]
  exact around

theorem WrapsAround.rest {operation : Operation} {rest : List Operation}
    (wraps : controller.WrapsAround (operation :: rest)) :
    (controller.perform operation).controller.WrapsAround rest := by
  intro before move after split isMove
  exact wraps (operation :: before) move after (by rw [split, List.cons_append]) isMove

theorem emod_index_perform (controller : Controller) {operation : Operation}
    (navigates : operation.Navigates)
    (wraps : operation.IsMove → controller.session.wrapAround = true)
    (pos : 0 < controller.session.length) :
    ((controller.perform operation).controller.session.index : Int) % controller.session.length =
      (controller.session.index + ((if operation.isNext then 1 else 0 : Nat) -
        (if operation.isPrevious then 1 else 0 : Nat) : Int)) % controller.session.length := by
  cases navigates with
  | next =>
      change (Session.rowAfter controller.session.wrapAround _ _ : Int) % _ = _
      rw [wraps (.inl rfl), Session.rowAfter_wrapped pos, Int.emod_emod]
      rfl
  | previous =>
      change (Session.rowBefore controller.session.wrapAround _ _ : Int) % _ = _
      rw [wraps (.inr rfl), Session.rowBefore_wrapped pos, Int.emod_emod]
      rfl
  | configure config =>
      change ((controller.configure config).controller.session.index : Int) % _ = _
      rw [index_configure]
      simp [Operation.isNext, Operation.isPrevious]

theorem emod_index_performAll (navigates : ∀ operation ∈ operations, operation.Navigates)
    (wraps : controller.WrapsAround operations) (pos : 0 < controller.session.length) :
    ((controller.performAll operations).session.index : Int) % controller.session.length =
      (controller.session.index + (operations.countP Operation.isNext -
        operations.countP Operation.isPrevious : Int)) % controller.session.length := by
  induction operations generalizing controller with
  | nil => simp [performAll]
  | cons operation rest ih =>
      obtain ⟨first, others⟩ := List.forall_mem_cons.1 navigates
      have same := controller.length_perform first
      have run := ih others wraps.rest (same ▸ pos)
      have step := controller.emod_index_perform first (wraps [] operation rest rfl) pos
      rw [same] at run
      rw [performAll, run, ← Int.emod_add_emod, step, Int.emod_add_emod, List.countP_cons,
        List.countP_cons]
      congr 1
      omega

/-! ## Stopping at the ends -/

theorem index_replicate_next (clamps : controller.session.wrapAround = false)
    (inside : controller.session.index < controller.session.length) (k : Nat) :
    (controller.performAll (List.replicate k .next)).session.index =
      min (controller.session.index + k) (controller.session.length - 1) := by
  induction k generalizing controller with
  | zero =>
      change controller.session.index = _
      omega
  | succ k ih =>
      have row : controller.next.controller.session.index =
          min (controller.session.index + 1) (controller.session.length - 1) := by
        change Session.rowAfter controller.session.wrapAround _ _ = _
        rw [clamps, Session.rowAfter_clamped inside]
      have same : controller.next.controller.session.length = controller.session.length := rfl
      have run := @ih controller.next.controller clamps (by omega)
      rw [row, same] at run
      exact run.trans (by omega)

theorem index_replicate_previous (clamps : controller.session.wrapAround = false)
    (inside : controller.session.index < controller.session.length) (k : Nat) :
    (controller.performAll (List.replicate k .previous)).session.index =
      controller.session.index - k := by
  induction k generalizing controller with
  | zero => rfl
  | succ k ih =>
      have row : controller.previous.controller.session.index = controller.session.index - 1 := by
        change Session.rowBefore controller.session.wrapAround _ _ = _
        rw [clamps, Session.rowBefore_clamped inside]
      have same : controller.previous.controller.session.length = controller.session.length := rfl
      have run := @ih controller.previous.controller clamps (by omega)
      rw [row] at run
      exact run.trans (by omega)

/-! ## The selection after any number of moves -/

/-- The settings in force are those of the last configuration that was applied; one that fails
changes nothing. After a move the selection is a row of the list, if there is one. If it wraps
around at each move, its row is found by counting the moves modulo the length. If it does not wrap
around, moves in one direction stop at the end of the list. In an empty list it stays where it is,
and nothing else ever changes by a move. -/
theorem selection_performAll (scorer : Scorer) (settings : Settings)
    (decodeAll : ListDecoder) (operations : List Operation) :
    let reached := (new scorer settings decodeAll).performAll operations
    reached.settings = lastSettings settings operations ∧
    reached.session.wrapAround = (lastSettings settings operations).wrapAround ∧
    ∀ controller : Controller,
      let length := controller.session.length
      let index := controller.session.index
      (∀ config,
        let configured := controller.perform (.configure config)
        ((∃ failure, configured.result = .error failure) ↔
          (Operation.configure config).settings? = none) ∧
        ∀ failure, configured.result = .error failure → configured.controller = controller) ∧
      (∀ moves, (∀ operation ∈ moves, operation.Navigates) →
        (∃ operation ∈ moves, operation.IsMove) → 0 < length →
        let after := controller.performAll moves
        after.session.length = length ∧ after.session.index < length ∧
          (controller.WrapsAround moves → (after.session.index : Int) =
            (index + (moves.countP Operation.isNext - moves.countP Operation.isPrevious : Int)) %
              length)) ∧
      (controller.session.wrapAround = false → index < length → ∀ k : Nat,
        (controller.performAll (List.replicate k .next)).session.index =
          min (index + k) (length - 1) ∧
        ((controller.performAll (List.replicate k .previous)).session.index : Int) =
          max ((index : Int) - k) 0) ∧
      (length = 0 → ∀ moves, (∀ operation ∈ moves, operation.Navigates) →
        (controller.performAll moves).session.index = index) ∧
      ∀ moves, (∀ operation ∈ moves, operation.IsMove) →
        controller.performAll moves =
          controller.withIndex (controller.performAll moves).session.index := by
  intro reached
  have force := settings_performAll (new scorer settings decodeAll) operations
  refine ⟨force, ?_, fun controller => ⟨?_, ?_, ?_, ?_, ?_⟩⟩
  · exact ((bounded_new scorer settings decodeAll).performAll operations).wrapAround.trans
      (congrArg Settings.wrapAround force)
  · intro config
    have configured : controller.perform (.configure config) =
        (controller.configure config).map fun _ => .done := rfl
    rw [configured, Operation.settings?]
    rcases controller.configure_cases config with ⟨_, bad, refused⟩ | ⟨_, good, applied⟩
    · rw [refused, bad]
      exact ⟨iff_of_true ⟨_, rfl⟩ rfl, fun _ _ => rfl⟩
    · rw [applied, good]
      refine ⟨iff_of_false ?_ (Option.some_ne_none _), ?_⟩
      · rintro ⟨_, ⟨⟩⟩
      · rintro _ ⟨⟩
  · intro moves navigates moved pos after
    have inside := index_lt_of_moved navigates moved pos
    refine ⟨controller.length_performAll navigates, inside, fun wraps => ?_⟩
    rw [← emod_index_performAll navigates wraps pos]
    exact (Int.emod_eq_of_lt (Int.natCast_nonneg _) (Int.ofNat_lt.2 inside)).symm
  · intro clamps inside k
    refine ⟨index_replicate_next clamps inside k, ?_⟩
    rw [index_replicate_previous clamps inside k]
    omega
  · exact fun empty moves navigates => index_of_empty navigates empty
  · intro moves only
    obtain ⟨index, after⟩ := controller.performAll_of_moves only
    rw [after]
    rfl

theorem selection_performAll_beyond :
    let off : Json := .object [("wrapAround", .bool false)]
    let reached := (new .fuzzy {}).performAll [.configure off, .next, .configure (.list [.null])]
    let rows : Listing := ⟨1, [⟨⟨"a", none, none, none, none⟩, 0, 0, []⟩,
      ⟨⟨"b", none, none, none, none⟩, 0, 0, []⟩, ⟨⟨"c", none, none, none, none⟩, 0, 0, []⟩]⟩
    let beyond : Controller := { session := { scorer := .fuzzy, cache := [("", rows)], index := 5 } }
    let back : List Operation := [.previous, .previous, .previous, .next]
    reached.session.wrapAround = false ∧
      (reached.perform (.configure (.list [.null]))).controller = reached ∧
      (beyond.performAll (back ++ [.configure off, .next])).session.index < 3 ∧
      ((beyond.performAll back).session.index : Int) = (5 + (1 - 3)) % 3 ∧
      ((reached.performAll [.previous, .next]).session.index = 0) ∧
      (((beyond.withIndex 1).configure off).controller.performAll
        (List.replicate 7 .next)).session.index = 2 ∧
      beyond.performAll back = beyond.withIndex 0 := by
  intro off reached rows beyond back
  obtain ⟨_, mode, all⟩ := selection_performAll .fuzzy {} Item.decodeAll
    [.configure off, .next, .configure (.list [.null])]
  have moves : ∀ operation ∈ back, operation.IsMove := by
    simp [back, Operation.IsMove, Operation.isNext, Operation.isPrevious]
  have navigates : ∀ operation ∈ back, operation.Navigates := by
    simp [back, Operation.Navigates.next, Operation.Navigates.previous]
  have longer : ∀ operation ∈ back ++ [.configure off, .next], operation.Navigates := by
    simp [back, Operation.Navigates.next, Operation.Navigates.previous,
      Operation.Navigates.configure]
  obtain ⟨configured, _, _, empty, _⟩ := all reached
  obtain ⟨_, wander, _, _, only⟩ := all beyond
  obtain ⟨_, _, stops, _, _⟩ := all ((beyond.withIndex 1).configure off).controller
  obtain ⟨_, _, rounds⟩ := wander back navigates ⟨_, List.mem_cons_self, moves _ List.mem_cons_self⟩
    (by decide)
  obtain ⟨_, inside, _⟩ := wander _ longer ⟨.previous, by simp [back], .inr rfl⟩ (by decide)
  have row : (beyond.performAll back).session.index = 0 := by decide
  refine ⟨mode, (configured _).2 _ rfl, inside, rounds (.of_moves moves rfl), ?_,
    (stops rfl (by decide) 7).1, (only back moves).trans (congrArg beyond.withIndex row)⟩
  exact empty rfl _ (by simp [Operation.Navigates.next, Operation.Navigates.previous])

end Controller

end Autocomplete
