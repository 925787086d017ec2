import Autocomplete.Proofs.Session.Frame

namespace Autocomplete

namespace Entries

variable {κ α β : Type} [DecidableEq κ]

theorem find?_map (f : α → β) (key : κ) (entries : List (κ × α)) :
    find? key (entries.map (Prod.map id f)) = (find? key entries).map f := by
  induction entries with
  | nil => rfl
  | cons entry rest ih =>
      obtain ⟨k, v⟩ := entry
      by_cases same : k = key
      · simp [find?, same]
      · simp [find?, same, ih]

theorem insert_map (f : α → β) (key : κ) (value : α) (entries : List (κ × α)) :
    insert key (f value) (entries.map (Prod.map id f)) =
      (insert key value entries).map (Prod.map id f) := by
  induction entries with
  | nil => rfl
  | cons entry rest ih =>
      obtain ⟨k, v⟩ := entry
      by_cases same : k = key
      · simp [insert, same]
      · simp [insert, same, ih]

end Entries

namespace Listing

def shifted (d : Nat) (listing : Listing) : Listing :=
  { listing with stamp := if listing.stamp = 0 then 0 else listing.stamp + d }

@[simp] theorem candidates_shifted (d : Nat) (listing : Listing) :
    (listing.shifted d).candidates = listing.candidates := rfl

theorem shifted_make (d made : Nat) (candidates : List Candidate) :
    (make made candidates).shifted d = make (made + d) candidates := by
  unfold make
  split
  · rfl
  · simp only [shifted, Nat.add_right_comm, Nat.add_eq_zero_iff, Nat.one_ne_zero, and_false,
      if_false]

theorem stamp_shifted_eq_iff (d : Nat) (a b : Listing) :
    (a.shifted d).stamp = (b.shifted d).stamp ↔ a.stamp = b.stamp := by
  unfold shifted
  dsimp only
  split <;> split <;> omega

end Listing

namespace Session

def shifted (d : Nat) (session : Session) : Session :=
  { session with
    cache := session.cache.map (Prod.map id (Listing.shifted d))
    ranked := session.ranked.shifted d
    made := session.made + d }

def Outcome.shifted (d : Nat) (outcome : Outcome α) : Outcome α :=
  ⟨outcome.result, outcome.session.shifted d⟩

variable (d : Nat) (session : Session)

theorem pool_shifted : (session.shifted d).pool = session.pool.shifted d := by
  unfold pool
  simp only [shifted, Entries.find?_map]
  cases Entries.find? session.input session.cache with
  | some answer => rfl
  | none => cases Entries.find? "" session.cache <;> rfl

theorem displayed_shifted : (session.shifted d).displayed = session.displayed.shifted d := by
  unfold displayed
  rw [pool_shifted, apply_ite (Listing.shifted d)]
  rfl

theorem length_shifted : (session.shifted d).length = session.length := by
  rw [length, displayed_shifted, length, Listing.candidates_shifted]

theorem cleared_shifted : (session.shifted d).cleared = session.cleared.shifted d := rfl

theorem start_shifted (requestId : Int) (buffer : BufferId) (position : Position) :
    (session.shifted d).start requestId buffer position =
      (session.start requestId buffer position).shifted d := by
  unfold start
  dsimp only
  rw [cleared_shifted, ← apply_ite (Session.shifted d)]
  rfl

theorem cancel_shifted : (session.shifted d).cancel = session.cancel.shifted d := by
  unfold cancel
  rw [cleared_shifted, apply_ite (Session.shifted d)]
  rfl

theorem store_shifted (input : String) (items : List Item) :
    (session.shifted d).store input items = (session.store input items).shifted d := by
  simp only [store, shifted, ← Entries.insert_map, Listing.shifted_make, Nat.add_right_comm]

theorem rerank_shifted : (session.shifted d).rerank = session.rerank.shifted d := by
  unfold rerank
  rw [pool_shifted]
  by_cases none : session.input = ""
  · simp only [shifted, none, if_true, Outcome.shifted]
  · simp only [shifted, none, if_false, Listing.candidates_shifted]
    cases session.scorer.rank session.input (session.pool.candidates.map Candidate.item) with
    | error failure => rfl
    | ok candidates =>
        simp only [Outcome.shifted, shifted, Listing.shifted_make, Nat.add_right_comm]

theorem enter_shifted (input : String) :
    (session.shifted d).enter input = (session.enter input).shifted d := by
  unfold enter
  dsimp only
  have entered : ({ session.shifted d with input := input, index := 0 } : Session) =
      ({ session with input := input, index := 0 } : Session).shifted d := rfl
  rw [entered, rerank_shifted, apply_ite (Outcome.shifted d)]
  rfl

theorem receive_shifted (requestId : Int) (input : String) (items : List Item) :
    (session.shifted d).receive requestId input items =
      (session.receive requestId input items).shifted d := by
  unfold receive
  dsimp only
  rw [store_shifted, rerank_shifted, apply_ite (Outcome.shifted d)]
  rfl

theorem next_shifted : (session.shifted d).next = session.next.shifted d := by
  unfold next
  rw [length_shifted]
  rfl

theorem previous_shifted : (session.shifted d).previous = session.previous.shifted d := by
  unfold previous
  rw [length_shifted]
  rfl

end Session

end Autocomplete
