import Autocomplete.Session.Operation
import Mathlib.Tactic.Common

namespace Autocomplete

namespace Entries

theorem mem_insert {κ α : Type} [DecidableEq κ] {key : κ} {value : α} {entries : List (κ × α)}
    {entry : κ × α} (member : entry ∈ insert key value entries) :
    entry = (key, value) ∨ entry ∈ entries := by
  induction entries with
  | nil => exact .inl (List.mem_singleton.1 member)
  | cons first rest ih =>
      obtain ⟨k, v⟩ := first
      unfold insert at member
      split at member
      · next same =>
        rcases List.mem_cons.1 member with rfl | inRest
        · exact .inl (by rw [same])
        · exact .inr (List.mem_cons_of_mem _ inRest)
      · rcases List.mem_cons.1 member with rfl | inRest
        · exact .inr List.mem_cons_self
        · rcases ih inRest with new | old
          · exact .inl new
          · exact .inr (List.mem_cons_of_mem _ old)

end Entries

namespace Session

structure SameAnswers (before after : Session) : Prop where
  requestId : after.requestId = before.requestId
  status : after.status = before.status
  buffer : after.buffer = before.buffer
  position : after.position = before.position
  cache : after.cache = before.cache

theorem SameAnswers.refl (session : Session) : SameAnswers session session :=
  ⟨rfl, rfl, rfl, rfl, rfl⟩

theorem isActive_iff {session : Session} : session.isActive ↔ session.status = .started := by
  unfold isActive
  cases session.status <;> decide

theorem not_isActive_iff {session : Session} :
    ¬ session.isActive ↔ session.status = .inactive := by
  unfold isActive
  cases session.status <;> decide

theorem rerank_cases (session : Session) :
    (∃ failure, session.rerank = ⟨.error failure, session⟩) ∨
      ∃ ranked made,
        session.rerank = ⟨.ok (), { session with ranked := ranked, made := made }⟩ := by
  unfold rerank
  split
  · exact .inr ⟨session.ranked, session.made, rfl⟩
  · split
    · next failure _ => exact .inl ⟨failure, rfl⟩
    · exact .inr ⟨_, _, rfl⟩

theorem sameAnswers_rerank (session : Session) : SameAnswers session session.rerank.session := by
  rcases session.rerank_cases with ⟨_, same⟩ | ⟨_, _, same⟩
  · exact same ▸ .refl session
  · exact same ▸ ⟨rfl, rfl, rfl, rfl, rfl⟩

theorem sameAnswers_enter (session : Session) (input : String) :
    SameAnswers session (session.enter input).session := by
  unfold enter
  dsimp only
  split
  · obtain ⟨requestId, status, buffer, position, cache⟩ :=
      sameAnswers_rerank { session with input := input, index := 0 }
    exact ⟨requestId, status, buffer, position, cache⟩
  · exact ⟨rfl, rfl, rfl, rfl, rfl⟩

/-- An answer is stored if it answers the request of an active session, and discarded if not. -/
theorem receive_cases (session : Session) (requestId : Int) (input : String)
    (items : List Item) :
    (session.status = .started ∧ session.requestId = requestId ∧
      SameAnswers (session.store input items) (session.receive requestId input items).session ∧
      (session.receive requestId input items).result ≠ .ok false) ∨
    (¬ (session.status = .started ∧ session.requestId = requestId) ∧
      session.receive requestId input items = ⟨.ok false, session⟩) := by
  unfold receive
  split
  · next current =>
    have started := isActive_iff.1 current.1
    refine .inl ⟨started, current.2, sameAnswers_rerank (session.store input items), ?_⟩
    dsimp only
    cases (session.store input items).rerank.result with
    | error failure => exact nofun
    | ok _ => exact nofun
  · next other =>
    refine .inr ⟨?_, rfl⟩
    rintro ⟨started, same⟩
    exact other ⟨isActive_iff.2 started, same⟩

theorem cache_start {session : Session} {requestId : Int} {buffer : BufferId}
    {position : Position} {entry : String × Listing}
    (member : entry ∈ (session.start requestId buffer position).cache) :
    entry ∈ session.cache ∧
      (session.status = .started → session.buffer = buffer ∧ session.position = some position) := by
  unfold start at member
  dsimp only at member
  split at member
  · cases member
  · next kept =>
    refine ⟨member, fun started => ?_⟩
    by_contra elsewhere
    exact kept ⟨isActive_iff.2 started, fun same => elsewhere (Prod.mk.inj same)⟩

theorem input_start (session : Session) (requestId : Int) (buffer : BufferId)
    (position : Position) : (session.start requestId buffer position).input = session.input := by
  unfold start
  dsimp only
  split <;> rfl

theorem cache_cancel {session : Session} (blank : session.status = .inactive → session.cache = []) :
    session.cancel.status = .inactive ∧ session.cancel.cache = [] := by
  unfold cancel
  split
  · exact ⟨rfl, rfl⟩
  · next inactive =>
    have inactive := not_isActive_iff.1 inactive
    exact ⟨inactive, blank inactive⟩

theorem requestId_cancel (session : Session) : session.cancel.requestId = session.requestId := by
  unfold cancel
  split <;> rfl

structure Continues (before after : Session) : Prop where
  requestId : after.requestId = before.requestId
  wrapAround : after.wrapAround = before.wrapAround

theorem continues_rerank (session : Session) : session.Continues session.rerank.session := by
  rcases session.rerank_cases with ⟨_, same⟩ | ⟨_, _, same⟩ <;> exact same ▸ ⟨rfl, rfl⟩

theorem continues_enter (session : Session) (input : String) :
    session.Continues (session.enter input).session := by
  unfold enter
  dsimp only
  split
  · obtain ⟨requestId, wrapAround⟩ :=
      continues_rerank { session with input := input, index := 0 }
    exact ⟨requestId, wrapAround⟩
  · exact ⟨rfl, rfl⟩

theorem continues_receive (session : Session) (requestId : Int) (input : String)
    (items : List Item) : session.Continues (session.receive requestId input items).session := by
  unfold receive
  split
  · obtain ⟨requestId, wrapAround⟩ := continues_rerank (session.store input items)
    exact ⟨requestId, wrapAround⟩
  · exact ⟨rfl, rfl⟩

theorem continues_cancel (session : Session) : session.Continues session.cancel := by
  unfold cancel
  split <;> exact ⟨rfl, rfl⟩

theorem wrapAround_start (session : Session) (requestId : Int) (buffer : BufferId)
    (position : Position) :
    (session.start requestId buffer position).wrapAround = session.wrapAround := by
  unfold start
  dsimp only
  split <;> rfl

end Session

end Autocomplete
