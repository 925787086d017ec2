import Autocomplete.Ranking

namespace Autocomplete

namespace Text

def IsFirstOccurrence (part whole : List Char) (n : Nat) : Prop :=
  part <+: whole.drop n ∧ ∀ m < n, ¬ part <+: whole.drop m

theorem isFirstOccurrence_of_occurrence? {part whole : List Char} {n : Nat}
    (found : occurrence? part whole = some n) : IsFirstOccurrence part whole n := by
  induction whole generalizing n with
  | nil =>
      simp only [occurrence?, Option.ite_none_right_eq_some, Option.some.injEq] at found
      obtain ⟨rfl, rfl⟩ := found
      exact ⟨List.nil_prefix, nofun⟩
  | cons c cs ih =>
      rw [occurrence?] at found
      split at found
      · next here =>
        obtain rfl := Option.some.inj found
        exact ⟨List.isPrefixOf_iff_prefix.1 here, nofun⟩
      · next elsewhere =>
        obtain ⟨m, later, rfl⟩ := Option.map_eq_some_iff.1 found
        obtain ⟨occurs, first⟩ := ih later
        refine ⟨occurs, fun k smaller => ?_⟩
        cases k with
        | zero => exact fun here => elsewhere (List.isPrefixOf_iff_prefix.2 here)
        | succ k => exact first k (Nat.succ_lt_succ_iff.1 smaller)

theorem exists_occurrence? {part whole : List Char} {n : Nat} (occurs : part <+: whole.drop n) :
    ∃ m, occurrence? part whole = some m := by
  induction whole generalizing n with
  | nil =>
      rw [List.drop_nil, List.prefix_nil] at occurs
      exact ⟨0, if_pos occurs⟩
  | cons c cs ih =>
      rw [occurrence?]
      split
      · exact ⟨0, rfl⟩
      · next elsewhere =>
        cases n with
        | zero => exact absurd (List.isPrefixOf_iff_prefix.2 occurs) elsewhere
        | succ n =>
            obtain ⟨m, later⟩ := ih (n := n) occurs
            exact ⟨m + 1, by rw [later, Option.map_some]⟩

theorem occurrence?_eq_some_iff {part whole : List Char} {n : Nat} :
    occurrence? part whole = some n ↔ IsFirstOccurrence part whole n := by
  refine ⟨isFirstOccurrence_of_occurrence?, fun occurs => ?_⟩
  obtain ⟨m, found⟩ := exists_occurrence? occurs.1
  have first := isFirstOccurrence_of_occurrence? found
  obtain rfl : m = n := by
    rcases Nat.lt_trichotomy m n with below | same | above
    · exact absurd first.1 (occurs.2 m below)
    · exact same
    · exact absurd occurs.1 (first.2 n above)
  exact found

theorem occurrence?_eq_none_iff {part whole : List Char} :
    occurrence? part whole = none ↔ ¬ part <:+: whole := by
  rw [Option.eq_none_iff_forall_ne_some, ← not_exists]
  refine not_congr ⟨?_, ?_⟩
  · rintro ⟨n, found⟩
    have occurs := (isFirstOccurrence_of_occurrence? found).1
    exact occurs.isInfix.trans (List.drop_suffix n whole).isInfix
  · rintro ⟨before, after, rfl⟩
    apply exists_occurrence? (n := before.length)
    simp

namespace IsFirstOccurrence

variable {part whole : List Char} {n : Nat} (occurs : IsFirstOccurrence part whole n)
include occurs

theorem unique {m : Nat} (other : IsFirstOccurrence part whole m) : n = m :=
  Option.some.inj ((occurrence?_eq_some_iff.2 occurs).symm.trans (occurrence?_eq_some_iff.2 other))

theorem getElem? {i : Nat} (inside : i < part.length) : whole[i + n]? = part[i]? := by
  obtain ⟨rest, whole_eq⟩ := occurs.1
  rw [Nat.add_comm, ← List.getElem?_drop, ← whole_eq, List.getElem?_append_left inside]

end IsFirstOccurrence

end Text

namespace Scorer

theorem Total.rate {scorer : Scorer} (total : scorer.Total) (input : String) (item : Item) :
    ∃ rated, scorer.rate input item = .ok rated := by
  unfold Scorer.rate
  cases Text.occurrence? item.filter.toList item.label.toList with
  | none => exact ⟨_, rfl⟩
  | some shift =>
      obtain ⟨found, onFilter⟩ := total item.filter input
      obtain ⟨label, onLabel⟩ := total item.label input
      cases found with
      | none =>
          simp only [onFilter]
          exact ⟨none, rfl⟩
      | some found =>
          simp only [onFilter, onLabel]
          exact ⟨_, rfl⟩

theorem Total.rateAll {scorer : Scorer} (total : scorer.Total) (input : String)
    (items : List Item) : ∃ candidates, scorer.rateAll input items = .ok candidates := by
  induction items with
  | nil => exact ⟨_, rfl⟩
  | cons item rest ih =>
      obtain ⟨rated, first⟩ := total.rate input item
      obtain ⟨others, more⟩ := ih
      simp only [Scorer.rateAll, first, more]
      exact ⟨_, rfl⟩

theorem Total.rank {scorer : Scorer} (total : scorer.Total) (input : String) (items : List Item) :
    ∃ candidates, scorer.rank input items = .ok candidates := by
  obtain ⟨candidates, rated⟩ := total.rateAll input items
  simp only [Scorer.rank, rated]
  exact ⟨_, rfl⟩

theorem rank_nil (scorer : Scorer) (input : String) : scorer.rank input [] = .ok [] := by
  simp only [rank, rateAll, List.mergeSort_nil]

variable {scorer : Scorer} {input : String} {candidate : Candidate}

theorem of_rate {item : Item} (rated : scorer.rate input item = .ok (some candidate)) :
    ∃ shift found label, Text.IsFirstOccurrence item.filter.toList item.label.toList shift ∧
      scorer item.filter input = .ok (some found) ∧ scorer item.label input = .ok label ∧
      candidate = item.candidate shift found label := by
  unfold rate at rated
  split at rated
  · cases rated
  · next shift occurs =>
    split at rated
    · cases rated
    · cases rated
    · next found onFilter =>
      split at rated
      · cases rated
      · next label onLabel =>
        obtain rfl := Option.some.inj (Except.ok.inj rated)
        have first := Text.isFirstOccurrence_of_occurrence? occurs
        exact ⟨shift, found, label, first, onFilter, onLabel, rfl⟩

theorem mem_rateAll {items : List Item} {candidates : List Candidate}
    (rated : scorer.rateAll input items = .ok candidates) (member : candidate ∈ candidates) :
    ∃ item ∈ items, scorer.rate input item = .ok (some candidate) := by
  induction items generalizing candidates with
  | nil =>
      obtain rfl := Except.ok.inj rated
      cases member
  | cons item rest ih =>
      rw [rateAll] at rated
      split at rated
      · cases rated
      · next first here =>
        split at rated
        · cases rated
        · next others more =>
          obtain rfl := Except.ok.inj rated
          rcases List.mem_append.1 member with own | other
          · rw [Option.mem_toList] at own
            exact ⟨item, List.mem_cons_self, here.trans (congrArg Except.ok own)⟩
          · obtain ⟨found, inside, rated⟩ := ih more other
            exact ⟨found, List.mem_cons_of_mem item inside, rated⟩

theorem mem_rank {items : List Item} {candidates : List Candidate}
    (ranked : scorer.rank input items = .ok candidates) (member : candidate ∈ candidates) :
    ∃ item ∈ items, scorer.rate input item = .ok (some candidate) := by
  unfold rank at ranked
  split at ranked
  · cases ranked
  · next rated all =>
    obtain rfl := Except.ok.inj ranked
    exact mem_rateAll all (List.mem_mergeSort.1 member)

end Scorer

end Autocomplete
