import Autocomplete.Proofs.Session.Coherence

namespace Autocomplete.Session

def SelectsRow (session : Session) : Prop :=
  session.displayed.candidates ≠ [] → session.index < session.length

theorem selectsRow_of_first {session : Session} (first : session.index = 0) :
    session.SelectsRow := by
  intro shown
  rw [first, length]
  exact List.length_pos_iff.2 shown

theorem IsBlank.selectsRow {session : Session} (blank : session.IsBlank) : session.SelectsRow :=
  selectsRow_of_first blank.index

theorem selectsRow_iff_selected {session : Session} :
    session.SelectsRow ↔ (session.selected? = none → session.displayed.candidates = []) := by
  unfold SelectsRow selected? length
  rw [List.getElem?_eq_none_iff]
  constructor
  · intro row outside
    by_contra shown
    exact absurd (row shown) (Nat.not_lt.2 outside)
  · intro empty shown
    by_contra outside
    exact shown (empty (Nat.not_lt.1 outside))

theorem rowAfter_lt (wrapAround : Bool) {length : Nat} (index : Nat) (pos : 0 < length) :
    rowAfter wrapAround length index < length := by
  unfold rowAfter
  rw [if_neg (by omega)]
  split
  · exact Nat.mod_lt _ pos
  · omega

theorem rowBefore_lt (wrapAround : Bool) {length : Nat} (index : Nat) (pos : 0 < length) :
    rowBefore wrapAround length index < length := by
  unfold rowBefore
  rw [if_neg (by omega)]
  split
  · exact Nat.mod_lt _ pos
  · omega

theorem selectsRow_next (session : Session) : session.next.SelectsRow := fun shown =>
  rowAfter_lt _ _ (List.length_pos_iff.2 shown)

theorem selectsRow_previous (session : Session) : session.previous.SelectsRow := fun shown =>
  rowBefore_lt _ _ (List.length_pos_iff.2 shown)

theorem index_rerank (session : Session) : session.rerank.session.index = session.index := by
  rcases session.rerank_cases with ⟨_, same⟩ | ⟨_, _, same⟩ <;> rw [same]

theorem index_receive (session : Session) (requestId : Int) (input : String)
    (items : List Item) :
    (session.receive requestId input items).session.index = session.index := by
  unfold receive
  split
  · exact index_rerank _
  · rfl

theorem index_enter (session : Session) (input : String) :
    (session.enter input).session.index = 0 := by
  unfold enter
  dsimp only
  split
  · exact index_rerank _
  · rfl

theorem selectsRow_enter (session : Session) (input : String) :
    (session.enter input).session.SelectsRow :=
  selectsRow_of_first (session.index_enter input)

theorem selectsRow_start {session : Session} (row : session.SelectsRow) (requestId : Int)
    (buffer : BufferId) (position : Position) :
    (session.start requestId buffer position).SelectsRow := by
  unfold start
  dsimp only
  split
  · exact selectsRow_of_first rfl
  · exact row

theorem selectsRow_cancel {session : Session}
    (idle : session.status = .inactive → session.IsBlank) : session.cancel.SelectsRow := by
  unfold cancel
  split
  · exact selectsRow_of_first rfl
  · next inactive => exact (idle (not_isActive_iff.1 inactive)).selectsRow

end Autocomplete.Session
