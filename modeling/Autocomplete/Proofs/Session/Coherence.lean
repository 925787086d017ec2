import Autocomplete.Proofs.Ranking
import Autocomplete.Proofs.Session.Frame

namespace Autocomplete.Session

/-- The answer for an input, or else the one for the empty input, or else none. -/
def answerFor (input : String) (cache : List (String × Listing)) : List Candidate :=
  match Entries.find? input cache with
  | some answer => answer.candidates
  | none =>
    match Entries.find? "" cache with
    | some answer => answer.candidates
    | none => []

def shownFor (scorer : Scorer) (input : String) (cache : List (String × Listing)) :
    Except ScorerFailure (List Candidate) :=
  if input = "" then .ok (answerFor input cache)
  else scorer.rank input ((answerFor input cache).map Candidate.item)

def initial (scorer : Scorer) (wrapAround : Bool) : Session :=
  { scorer := scorer, wrapAround := wrapAround }

def performAll (session : Session) : List Operation → Session
  | [] => session
  | operation :: rest => (session.perform operation).session.performAll rest

structure IsBlank (session : Session) : Prop where
  cache : session.cache = []
  ranked : session.ranked = .empty
  index : session.index = 0

structure Coherent (scorer : Scorer) (session : Session) : Prop where
  rates : session.scorer = scorer
  shown : shownFor scorer session.input session.cache = .ok session.displayed.candidates
  blank : session.status = .inactive → session.IsBlank

theorem candidates_pool (session : Session) :
    session.pool.candidates = answerFor session.input session.cache := by
  unfold pool answerFor
  cases Entries.find? session.input session.cache with
  | some answer => rfl
  | none => cases Entries.find? "" session.cache <;> rfl

theorem IsBlank.displayed {session : Session} (blank : session.IsBlank) :
    session.displayed = .empty := by
  unfold Session.displayed pool
  rw [blank.cache, blank.ranked]
  exact ite_self _

theorem IsBlank.shown {session : Session} (blank : session.IsBlank) (scorer : Scorer) :
    shownFor scorer session.input session.cache = .ok session.displayed.candidates := by
  rw [blank.displayed, blank.cache]
  unfold shownFor
  split
  · rfl
  · exact scorer.rank_nil session.input

theorem isBlank_cleared (session : Session) : session.cleared.IsBlank := ⟨rfl, rfl, rfl⟩

theorem shown_rerank {session : Session} (ranked : session.rerank.result = .ok ()) :
    let after := session.rerank.session
    after.scorer = session.scorer ∧ after.status = session.status ∧
      shownFor session.scorer after.input after.cache = .ok after.displayed.candidates := by
  unfold rerank at ranked ⊢
  by_cases empty : session.input = ""
  · rw [if_pos empty]
    refine ⟨rfl, rfl, ?_⟩
    rw [shownFor, if_pos empty, displayed, if_pos empty, candidates_pool]
  · rw [if_neg empty] at ranked ⊢
    cases ranking : session.scorer.rank session.input
        (session.pool.candidates.map Candidate.item) with
    | error failure =>
        rw [ranking] at ranked
        cases ranked
    | ok candidates =>
        have shown : shownFor session.scorer session.input session.cache = .ok candidates := by
          rw [shownFor, if_neg empty, ← candidates_pool, ranking]
        refine ⟨rfl, rfl, ?_⟩
        dsimp only
        rw [displayed, if_neg empty, Listing.candidates_make, shown]

section Total

variable {session : Session} (total : session.scorer.Total)
include total

theorem result_rerank : session.rerank.result = .ok () := by
  unfold rerank
  split
  · rfl
  · obtain ⟨candidates, ranking⟩ :=
      total.rank session.input (session.pool.candidates.map Candidate.item)
    rw [ranking]

end Total

section Operations

variable {scorer : Scorer} {session : Session} (coherent : Coherent scorer session)
include coherent

theorem coherent_start (requestId : Int) (buffer : BufferId) (position : Position) :
    Coherent scorer (session.start requestId buffer position) := by
  unfold start
  dsimp only
  split
  · exact ⟨coherent.rates, (isBlank_cleared session).shown scorer, nofun⟩
  · exact ⟨coherent.rates, coherent.shown, nofun⟩

theorem coherent_cancel : Coherent scorer session.cancel := by
  unfold cancel
  split
  · have blank : IsBlank { session.cleared with status := .inactive, input := "" } :=
      ⟨rfl, rfl, rfl⟩
    exact ⟨coherent.rates, blank.shown scorer, fun _ => blank⟩
  · exact coherent

theorem coherent_enter (total : scorer.Total) (input : String) :
    Coherent scorer (session.enter input).session := by
  unfold enter
  dsimp only
  split
  · next active =>
    have total : session.scorer.Total := coherent.rates ▸ total
    let entered : Session := { session with input := input, index := 0 }
    have ranked : entered.rerank.result = .ok () := result_rerank total
    obtain ⟨kept, status, shown⟩ := shown_rerank ranked
    refine ⟨kept.trans coherent.rates, coherent.rates ▸ shown, ?_⟩
    intro inactive
    rw [status] at inactive
    exact absurd active (not_isActive_iff.2 inactive)
  · next inactive =>
    have before := coherent.blank (not_isActive_iff.1 inactive)
    have blank : IsBlank { session with input := input, index := 0 } :=
      ⟨before.cache, before.ranked, rfl⟩
    exact ⟨coherent.rates, blank.shown scorer, fun _ => blank⟩

theorem coherent_receive (total : scorer.Total) (requestId : Int) (input : String)
    (items : List Item) : Coherent scorer (session.receive requestId input items).session := by
  unfold receive
  split
  · next current =>
    have total : session.scorer.Total := coherent.rates ▸ total
    let stored := session.store input items
    have ranked : stored.rerank.result = .ok () := result_rerank total
    obtain ⟨kept, status, shown⟩ := shown_rerank ranked
    refine ⟨kept.trans coherent.rates, coherent.rates ▸ shown, ?_⟩
    intro inactive
    exact absurd current.1 (not_isActive_iff.2 (status.symm.trans inactive))
  · exact coherent

theorem coherent_moved (move : (wrapAround : Bool) → (length index : Nat) → Nat)
    (still : ∀ wrapAround index, move wrapAround 0 index = index) :
    Coherent scorer
      { session with index := move session.wrapAround session.length session.index } := by
  refine ⟨coherent.rates, coherent.shown, ?_⟩
  intro inactive
  have blank := coherent.blank inactive
  refine ⟨blank.cache, blank.ranked, ?_⟩
  have nothing : session.length = 0 := by
    rw [Session.length, blank.displayed]
    rfl
  change move session.wrapAround session.length session.index = 0
  rw [nothing, still, blank.index]

theorem coherent_perform (total : scorer.Total) (operation : Operation) :
    Coherent scorer (session.perform operation).session := by
  cases operation with
  | start requestId buffer position => exact coherent_start coherent requestId buffer position
  | receive requestId input items => exact coherent_receive coherent total requestId input items
  | enter input => exact coherent_enter coherent total input
  | next => exact coherent_moved coherent rowAfter fun _ _ => if_pos rfl
  | previous => exact coherent_moved coherent rowBefore fun _ _ => if_pos rfl
  | cancel => exact coherent_cancel coherent
  | setWrapAround wrapAround =>
      exact ⟨coherent.rates, coherent.shown, fun inactive =>
        have blank := coherent.blank inactive
        ⟨blank.cache, blank.ranked, blank.index⟩⟩

theorem coherent_performAll (total : scorer.Total) (operations : List Operation) :
    Coherent scorer (session.performAll operations) := by
  induction operations generalizing session with
  | nil => exact coherent
  | cons operation rest ih => exact ih (coherent_perform coherent total operation)

end Operations

theorem coherent_initial (scorer : Scorer) (wrapAround : Bool) :
    Coherent scorer (initial scorer wrapAround) := by
  have blank : (initial scorer wrapAround).IsBlank := ⟨rfl, rfl, rfl⟩
  exact ⟨rfl, blank.shown scorer, fun _ => blank⟩

end Autocomplete.Session
