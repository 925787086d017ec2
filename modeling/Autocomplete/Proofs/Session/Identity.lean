import Autocomplete.Proofs.Session.Coherence

namespace Autocomplete

namespace Session

def listings (session : Session) : List Listing :=
  .empty :: session.ranked :: session.cache.map Prod.snd

structure Stamped (session : Session) : Prop where
  used : ∀ listing ∈ session.listings, listing.stamp ≤ session.made
  same : ∀ a ∈ session.listings, ∀ b ∈ session.listings, a.stamp = b.stamp → a = b
  empty : ∀ listing ∈ session.listings, listing.candidates = [] → listing = .empty

structure Succeeds (before after : Session) : Prop where
  stamped : after.Stamped
  made : before.made ≤ after.made
  listings : ∀ listing ∈ after.listings,
    listing ∈ before.listings ∨ before.made < listing.stamp

theorem Succeeds.trans {a b c : Session} (first : Succeeds a b) (second : Succeeds b c) :
    Succeeds a c := by
  refine ⟨second.stamped, Nat.le_trans first.made second.made, ?_⟩
  intro listing member
  rcases second.listings listing member with old | new
  · exact first.listings listing old
  · exact .inr (Nat.lt_of_le_of_lt first.made new)

namespace Stamped

variable {session : Session} (stamped : session.Stamped)
include stamped

theorem keep {after : Session} (made : after.made = session.made)
    (subset : after.listings ⊆ session.listings) : Succeeds session after where
  stamped := by
    refine ⟨?_, ?_, ?_⟩
    · intro listing member
      rw [made]
      exact stamped.used listing (subset member)
    · intro a inA b inB
      exact stamped.same a (subset inA) b (subset inB)
    · intro listing member
      exact stamped.empty listing (subset member)
  made := Nat.le_of_eq made.symm
  listings listing member := .inl (subset member)

theorem refl : Succeeds session session := stamped.keep rfl (List.Subset.refl _)

theorem make {after : Session} (candidates : List Candidate)
    (made : after.made = session.made + 1)
    (subset : after.listings ⊆ .make session.made candidates :: session.listings) :
    Succeeds session after := by
  -- Every list is an old one or the new one, and the new stamp is above all old ones.
  have cases : ∀ listing ∈ after.listings, listing ∈ session.listings ∨
      listing = ⟨session.made + 1, candidates⟩ ∧ candidates ≠ [] := by
    intro listing member
    rcases List.mem_cons.1 (subset member) with rfl | old
    · unfold Listing.make
      split
      · exact .inl List.mem_cons_self
      · next some => exact .inr ⟨rfl, by simpa using some⟩
    · exact .inl old
  refine ⟨⟨?_, ?_, ?_⟩, by omega, ?_⟩
  · intro listing member
    rcases cases listing member with old | ⟨rfl, _⟩
    · have used := stamped.used listing old
      omega
    · exact Nat.le_of_eq made.symm
  · intro a inA b inB same
    rcases cases a inA with oldA | ⟨rfl, _⟩ <;> rcases cases b inB with oldB | ⟨rfl, _⟩
    · exact stamped.same a oldA b oldB same
    · have used := stamped.used a oldA
      dsimp only at same
      omega
    · have used := stamped.used b oldB
      dsimp only at same
      omega
    · rfl
  · intro listing member none
    rcases cases listing member with old | ⟨rfl, some⟩
    · exact stamped.empty listing old none
    · exact absurd none some
  · intro listing member
    rcases cases listing member with old | ⟨rfl, _⟩
    · exact .inl old
    · exact .inr (Nat.lt_succ_self _)

theorem rerank : Succeeds session session.rerank.session := by
  unfold Session.rerank
  split
  · exact stamped.refl
  · split
    · exact stamped.refl
    · next candidates _ =>
      apply stamped.make candidates rfl
      intro listing member
      simp only [Session.listings, List.mem_cons] at member ⊢
      tauto

theorem store (input : String) (items : List Item) : Succeeds session (session.store input items) := by
  apply stamped.make (items.map fun item => { item := item }) rfl
  intro listing member
  simp only [Session.listings, List.mem_cons, List.mem_map, Prod.exists] at member ⊢
  rcases member with rfl | rfl | ⟨key, _, inCache, rfl⟩
  · exact .inr (.inl rfl)
  · exact .inr (.inr (.inl rfl))
  · rcases Entries.mem_insert inCache with new | old
    · exact .inl (Prod.mk.inj new).2
    · exact .inr (.inr (.inr ⟨key, _, old, rfl⟩))

theorem clear {after : Session} (made : after.made = session.made) (ranked : after.ranked = .empty)
    (cache : after.cache = []) : Succeeds session after := by
  apply stamped.keep made
  simp [Session.listings, ranked, cache]

theorem start (requestId : Int) (buffer : BufferId) (position : Position) :
    Succeeds session (session.start requestId buffer position) := by
  unfold Session.start
  dsimp only
  split
  · exact stamped.clear rfl rfl rfl
  · exact stamped.keep rfl (List.Subset.refl _)

theorem cancel : Succeeds session session.cancel := by
  unfold Session.cancel
  split
  · exact stamped.clear rfl rfl rfl
  · exact stamped.refl

theorem enter (input : String) : Succeeds session (session.enter input).session := by
  have entered : Succeeds session { session with input := input, index := 0 } :=
    stamped.keep rfl (List.Subset.refl _)
  unfold Session.enter
  dsimp only
  split
  · exact entered.trans entered.stamped.rerank
  · exact entered

theorem receive (requestId : Int) (input : String) (items : List Item) :
    Succeeds session (session.receive requestId input items).session := by
  unfold Session.receive
  split
  · have stored := stamped.store input items
    exact stored.trans stored.stamped.rerank
  · exact stamped.refl

theorem perform (operation : Operation) : Succeeds session (session.perform operation).session := by
  cases operation with
  | start requestId buffer position => exact stamped.start requestId buffer position
  | receive requestId input items => exact stamped.receive requestId input items
  | enter input => exact stamped.enter input
  | cancel => exact stamped.cancel
  | next | previous | setWrapAround _ => exact stamped.keep rfl (List.Subset.refl _)

theorem performAll (operations : List Operation) :
    Succeeds session (session.performAll operations) := by
  induction operations generalizing session with
  | nil => exact stamped.refl
  | cons operation rest ih =>
      have first := stamped.perform operation
      exact first.trans (ih first.stamped)

end Stamped

end Session

end Autocomplete
