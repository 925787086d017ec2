import Autocomplete.Proofs.Controller.Accounts

namespace Autocomplete

namespace Response

/-- Each value of a list is decoded: if all of them decode the result is their items, and if some do
not it is the number of those. -/
structure DecodesEach (decodeAll : ListDecoder) (decode? : Json → Option Item) : Prop where
  whole : ∀ {jsons items}, jsons.map decode? = items.map some → decodeAll jsons = .ok items
  counts : ∀ {jsons k}, jsons.countP (fun json => decode? json = none) = k → 0 < k →
    decodeAll jsons = .error k

theorem decodesEach_decodeAll : DecodesEach Item.decodeAll Item.decode? where
  whole decoded := Item.decodeAll_eq_ok_iff.2 decoded
  counts := by
    rintro jsons k rfl some
    simp only [← Option.isNone_iff_eq_none, Bool.decide_eq_true] at some ⊢
    rw [Item.decodeAll, Item.undecodable, if_neg (Nat.ne_of_gt some)]

inductive IsListOf (values : List Json) : Json → Prop where
  | list : IsListOf values (.list values)
  | member {members : List (String × Json)}
      (found : Entries.find? "items" members = some (.list values)) :
      IsListOf values (.object members)

inductive IsBare : Json → Prop where
  | null : IsBare .null
  | object {members : List (String × Json)} (absent : Entries.find? "items" members = none) :
      IsBare (.object members)

variable {decodeAll : ListDecoder} {decode? : Json → Option Item}

theorem decodeBy_of_isListOf {values : List Json} {json : Json} (lists : IsListOf values json) :
    decodeBy decodeAll (.raw json) = itemsOfJson decodeAll (.list values) := by
  cases lists with
  | list => rfl
  | member found => simp only [decodeBy, Json.get?, found, Option.getD_some]

theorem decodeBy_of_isBare (each : DecodesEach decodeAll decode?) {json : Json}
    (bare : IsBare json) : decodeBy decodeAll (.raw json) = .ok [] := by
  have empty : decodeAll [] = .ok [] := each.whole rfl
  cases bare with
  | null => rfl
  | object absent => simp only [decodeBy, Json.get?, absent, Option.getD_none, itemsOfJson, empty]

theorem itemsOfJson_of_not_list {json : Json} (other : ∀ values, json ≠ .list values) :
    itemsOfJson decodeAll json = .error (.unexpectedType json.typeName) := by
  cases json with
  | list values => exact absurd rfl (other values)
  | null | bool | whole | decimal | string | object => rfl

theorem decodeBy_of_other {json : Json} (unlisted : ∀ values, ¬ IsListOf values json)
    (stated : ¬ IsBare json) :
    ∃ typeName, decodeBy decodeAll (.raw json) = .error (.unexpectedType typeName) := by
  cases json with
  | null => exact absurd .null stated
  | list values => exact absurd .list (unlisted values)
  | bool | whole | decimal | string => exact ⟨_, rfl⟩
  | object members =>
      cases found : Entries.find? "items" members with
      | none => exact absurd (.object found) stated
      | some member =>
          simp only [decodeBy, Json.get?, found, Option.getD_some]
          refine ⟨_, itemsOfJson_of_not_list fun values same => ?_⟩
          exact unlisted values (.member (same ▸ found))

end Response

namespace Controller

theorem respond_of_decoded {controller : Controller} {requestId : Int} {ticket : Ticket}
    (found : Entries.find? requestId controller.tickets = some ticket)
    (unanswered : ticket.answered = false) {response : Response} {items : List Item}
    (decoded : response.decodeBy controller.decodeAll = .ok items) :
    (controller.respond requestId response).1.mailbox =
        controller.mailbox ++ [⟨requestId, ticket.input, items⟩] ∧
      (controller.respond requestId response).2 = [] := by
  simp [respond, found, unanswered, decoded]

theorem respond_of_undecodable {controller : Controller} {requestId : Int} {ticket : Ticket}
    (found : Entries.find? requestId controller.tickets = some ticket)
    (unanswered : ticket.answered = false) {response : Response} {warning : Warning}
    (failed : response.decodeBy controller.decodeAll = .error warning) :
    (controller.respond requestId response).1.mailbox = controller.mailbox ∧
      (controller.respond requestId response).2 = [warning] := by
  simp [respond, found, unanswered, failed]

end Controller

/-- Values that all decode give their items in order, in every form of a response. If some of them
do not decode there are no items but a warning with their number. What lists no values is an empty
response, or there is a warning. The first answer to a request posts all its items or gives the
warning, and a later answer posts nothing. -/
theorem Response.decoded_whole {decodeAll : ListDecoder} {decode? : Json → Option Item}
    (each : DecodesEach decodeAll decode?) :
    let decode := decodeBy decodeAll
    (∀ jsons items, jsons.map decode? = items.map some →
      (∀ json, IsListOf jsons json → decode (.raw json) = .ok items) ∧
      (∀ incomplete, decode (.completionList items incomplete) = .ok items) ∧
      decode (.itemList items) = .ok items) ∧
    (∀ jsons k, jsons.countP (fun json => decode? json = none) = k → 0 < k →
      ∀ json, IsListOf jsons json → decode (.raw json) = .error (.undecodable k)) ∧
    decode .nothing = .ok [] ∧
    (∀ json, IsBare json → decode (.raw json) = .ok []) ∧
    (∀ error, decode (.failure error) = .error (.providerFailed error)) ∧
    (∀ json, (∀ jsons, ¬ IsListOf jsons json) → ¬ IsBare json →
      ∃ typeName, decode (.raw json) = .error (.unexpectedType typeName)) ∧
    ∀ (controller : Controller) (requestId : Int) (response : Response),
      let (after, warnings) := controller.respond requestId response
      (∀ ticket, Entries.find? requestId controller.tickets = some ticket →
        ticket.answered = false →
          (∀ items, response.decodeBy controller.decodeAll = .ok items →
            after.mailbox = controller.mailbox ++ [⟨requestId, ticket.input, items⟩] ∧
            warnings = []) ∧
          ∀ warning, response.decodeBy controller.decodeAll = .error warning →
            after.mailbox = controller.mailbox ∧ warnings = [warning]) ∧
      (controller.Answered requestId → after = controller) := by
  intro decode
  refine ⟨?_, ?_, rfl, fun _ => decodeBy_of_isBare each, fun _ => rfl,
    fun _ => decodeBy_of_other, ?_⟩
  · intro jsons items decoded
    refine ⟨fun json lists => ?_, fun _ => rfl, rfl⟩
    simp only [decode, decodeBy_of_isListOf lists, itemsOfJson, each.whole decoded]
  · intro jsons k count some json lists
    simp only [decode, decodeBy_of_isListOf lists, itemsOfJson, each.counts count some]
  · intro controller requestId response
    refine ⟨fun ticket found unanswered => ⟨?_, ?_⟩, fun answered => ?_⟩
    · exact fun items => Controller.respond_of_decoded found unanswered
    · exact fun warning => Controller.respond_of_undecodable found unanswered
    · exact Controller.respond_of_answered answered response

theorem Response.decoded_whole_partly :
    let value (label : String) : Json := .object [("label", .string label)]
    let item (label : String) : Item := ⟨label, none, none, none, none⟩
    let sound := [value "next", value "new"]
    let partly := [value "next", .null, .object []]
    let controller : Controller :=
      { Controller.new .fuzzy {} with tickets := [(1, { input := "n", kept := true })] }
    DecodesEach Item.decodeAll Item.decode? ∧
      decode (.raw (.object [("items", .list sound)])) = .ok [item "next", item "new"] ∧
      decode (.raw (.list partly)) = .error (.undecodable 2) ∧
      decode (.raw .null) = .ok [] ∧
      (∃ typeName, decode (.raw (.object [("items", .null)])) =
        .error (.unexpectedType typeName)) ∧
      (controller.respond 1 (.raw (.list sound))).1.mailbox =
        [⟨1, "n", [item "next", item "new"]⟩] ∧
      (controller.respond 1 (.raw (.list partly))).1.mailbox = [] := by
  intro value item sound partly controller
  obtain ⟨whole, counted, _, bare, _, other, posts⟩ := decoded_whole decodesEach_decodeAll
  obtain ⟨forms, _, _⟩ := whole sound [item "next", item "new"] (by decide +kernel)
  have failed := counted partly 2 (by decide +kernel) (by decide) _ .list
  have unlisted : ∀ values, ¬ IsListOf values (.object [("items", .null)]) := by
    rintro values (_ | found)
    simp [Entries.find?] at found
  have stated : ¬ IsBare (.object [("items", .null)]) := by
    rintro (_ | absent)
    simp [Entries.find?] at absent
  refine ⟨decodesEach_decodeAll, forms _ (.member rfl), failed, bare _ .null,
    other _ unlisted stated, ?_, ?_⟩
  · exact ((posts controller 1 (.raw (.list sound))).1 _ rfl rfl).1 _ (forms _ .list) |>.1
  · exact ((posts controller 1 (.raw (.list partly))).1 _ rfl rfl).2 _ failed |>.1

end Autocomplete
