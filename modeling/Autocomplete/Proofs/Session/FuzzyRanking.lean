import Autocomplete.Proofs.Fuzzy.Inside
import Autocomplete.Proofs.Session.Coherence
import Autocomplete.Proofs.Session.Ranked

namespace Autocomplete

namespace Scorer

theorem takesPart_fuzzy_iff {input : String} {item : Item} :
    Scorer.fuzzy.TakesPart input item ↔ item.filter.toList <:+: item.label.toList ∧
      (input.toList.map Text.lowercase).Sublist (item.filter.toList.map Text.lowercase) := by
  refine and_congr_right fun _ => ?_
  rw [← List.isSublist_iff_sublist, Fuzzy.isSublist_iff_spells]
  constructor
  · rintro ⟨found, matched⟩
    obtain ⟨alignment, aligned, _⟩ := Option.map_eq_some_iff.1 (Except.ok.inj matched)
    exact ⟨alignment.positions, Fuzzy.spells_of_align? aligned⟩
  · rintro ⟨positions, spells⟩
    obtain ⟨alignment, aligned⟩ := Fuzzy.exists_align?_of_spells spells
    exact ⟨_, by rw [fuzzy, aligned, Option.map_some]⟩

theorem Total.mem_rank {scorer : Scorer} (total : scorer.Total) {input : String} {item : Item}
    {candidate : Candidate} (rated : scorer.rate input item = .ok (some candidate))
    {pool : List Item} (member : item ∈ pool) :
    ∃ candidates, scorer.rank input pool = .ok candidates ∧ candidate ∈ candidates := by
  obtain ⟨candidates, all⟩ := total.rateAll input pool
  obtain ⟨_, rfl⟩ := of_rateAll all
  refine ⟨_, by rw [Scorer.rank, all], List.mem_mergeSort.2 ?_⟩
  exact List.mem_filterMap.2 ⟨item, member, by rw [rated?, rated]⟩

/-- An item whose filter text matches is rated with a match of its whole label, whose score is not
much lower, and no lower where a word may begin. Every ranking of a pool with the item lists it so.
-/
theorem rate_fuzzy {input : String} {item : Item} {shift : Nat} {found : Match}
    (occurs : Text.IsFirstOccurrence item.filter.toList item.label.toList shift)
    (matched : Scorer.fuzzy item.filter input = .ok (some found)) :
    ∃ label candidate, Scorer.fuzzy item.label input = .ok (some label) ∧
      Scorer.fuzzy.rate input item = .ok (some candidate) ∧ candidate.item = item ∧
      candidate.score = found.score ∧ candidate.labelScore = label.score ∧
      found.score - 16 ≤ candidate.labelScore ∧
      (Fuzzy.AtBoundary item.label.toList shift → found.score ≤ candidate.labelScore) ∧
      ∀ pool, item ∈ pool →
        ∃ candidates, Scorer.fuzzy.rank input pool = .ok candidates ∧ candidate ∈ candidates := by
  obtain ⟨alignment, aligned, given⟩ := Option.map_eq_some_iff.1 (Except.ok.inj matched)
  obtain ⟨outer, aligned', lower, even⟩ := Fuzzy.exists_align?_inside occurs aligned
  rw [show alignment.score = found.score by rw [← given]] at lower even
  let label : Match := ⟨outer.score, outer.positions.map Int.ofNat⟩
  have onLabel : Scorer.fuzzy item.label input = .ok (some label) := by
    rw [Scorer.fuzzy, aligned', Option.map_some]
  have rated :
      Scorer.fuzzy.rate input item = .ok (some (item.candidate shift found (some label))) := by
    rw [rate, Text.occurrence?_eq_some_iff.2 occurs]
    simp only [matched, onLabel]
  exact ⟨label, _, onLabel, rated, rfl, rfl, rfl, lower, even,
    fun _ member => total_fuzzy.mem_rank rated member⟩

theorem rate_fuzzy_inner :
    let item : Item := { label := "xfoo", filterText := some "foo" }
    Text.IsFirstOccurrence item.filter.toList item.label.toList 1 ∧
      Scorer.fuzzy item.filter "fo" = .ok (some ⟨52, [0, 1]⟩) ∧
      ∃ candidate, Scorer.fuzzy.rate "fo" item = .ok (some candidate) ∧
        candidate.labelScore = 36 ∧ 52 - 16 ≤ candidate.labelScore := by
  intro item
  have occurs : Text.IsFirstOccurrence item.filter.toList item.label.toList 1 :=
    Text.isFirstOccurrence_of_occurrence? (by decide)
  have matched : Scorer.fuzzy item.filter "fo" = .ok (some ⟨52, [0, 1]⟩) := by decide
  have whole : Scorer.fuzzy item.label "fo" = .ok (some ⟨36, [1, 2]⟩) := by decide
  obtain ⟨label, candidate, onLabel, rated, _, _, labelScore, lower, _⟩ :=
    rate_fuzzy occurs matched
  obtain rfl := Option.some.inj (Except.ok.inj (whole.symm.trans onLabel))
  exact ⟨occurs, matched, candidate, rated, labelScore, lower⟩

end Scorer

namespace Session

structure Numbers (session : Session) (entries : List (Candidate × Nat)) : Prop where
  displayed : session.displayed.candidates = entries.map Prod.fst
  whole : session.input = "" → entries = session.pool.candidates.zipIdx
  ranked : session.input ≠ "" → session.scorer.IsRanking session.input
    (session.pool.candidates.map Candidate.item) entries

theorem Coherent.exists_numbers {scorer : Scorer} {session : Session}
    (coherent : Coherent scorer session) : ∃ entries, session.Numbers entries := by
  have shown := coherent.shown
  unfold shownFor at shown
  rw [← candidates_pool] at shown
  by_cases empty : session.input = ""
  · rw [if_pos empty] at shown
    refine ⟨session.pool.candidates.zipIdx, ?_, fun _ => rfl, fun typed => absurd empty typed⟩
    rw [List.zipIdx_map_fst, Except.ok.inj shown]
  · rw [if_neg empty, ← coherent.rates] at shown
    obtain ⟨entries, isRanking, same⟩ := Scorer.isRanking_of_rank shown
    exact ⟨entries, same, fun none => absurd none empty, fun _ => isRanking⟩

theorem Numbers.mem_places_iff {session : Session} {entries : List (Candidate × Nat)}
    (numbers : session.Numbers entries) {n : Nat} :
    n ∈ entries.map Prod.snd ↔ ∃ candidate, session.pool.candidates[n]? = some candidate ∧
      (session.input = "" ∨ session.scorer.TakesPart session.input candidate.item) := by
  by_cases empty : session.input = ""
  · rw [numbers.whole empty, List.zipIdx_map_snd, ← List.range_eq_range', List.mem_range]
    simp only [empty, true_or, and_true, List.getElem?_eq_some_iff]
    exact ⟨fun within => ⟨_, within, rfl⟩, fun ⟨_, within, _⟩ => within⟩
  · have ranked := numbers.ranked empty
    simp only [empty, false_or]
    constructor
    · intro member
      obtain ⟨⟨_, _⟩, entry, rfl⟩ := List.mem_map.1 member
      obtain ⟨item, atN, _⟩ := ranked.rated _ _ entry
      have takesPart := (ranked.listed _ item atN).1 member
      rw [List.getElem?_map] at atN
      obtain ⟨candidate, here, rfl⟩ := Option.map_eq_some_iff.1 atN
      exact ⟨candidate, here, takesPart⟩
    · rintro ⟨candidate, here, takesPart⟩
      refine (ranked.listed n candidate.item ?_).2 takesPart
      rw [List.getElem?_map, here, Option.map_some]

theorem pool_of_unanswered {session : Session}
    (unanswered : session.input = "" ∨ Entries.find? session.input session.cache = none) :
    session.pool = (Entries.find? "" session.cache).getD .empty := by
  unfold pool
  rcases unanswered with empty | unanswered
  · rw [empty, Option.or_self]
  · rw [unanswered, Option.none_or]

/-- Of two inputs with the same pool, one of which takes in the characters of the other in order,
the longer one shows no place of the pool that the other does not show. -/
theorem places_narrowed (wrapAround wrapAround' : Bool) (operations operations' : List Operation) :
    let shorter := (initial .fuzzy wrapAround).performAll operations
    let longer := (initial .fuzzy wrapAround').performAll operations'
    longer.pool.candidates = shorter.pool.candidates →
      (shorter.input.toList.map Text.lowercase).Sublist
        (longer.input.toList.map Text.lowercase) →
      (∃ few, longer.Numbers few) ∧ (∃ many, shorter.Numbers many) ∧
        ∀ few many, longer.Numbers few → shorter.Numbers many →
          few.map Prod.snd ⊆ many.map Prod.snd := by
  intro shorter longer same sublist
  have coherent : Coherent .fuzzy shorter :=
    coherent_performAll (coherent_initial .fuzzy wrapAround) Scorer.total_fuzzy operations
  have coherent' : Coherent .fuzzy longer :=
    coherent_performAll (coherent_initial .fuzzy wrapAround') Scorer.total_fuzzy operations'
  refine ⟨coherent'.exists_numbers, coherent.exists_numbers, ?_⟩
  intro few many numbers' numbers n member
  obtain ⟨candidate, here, part⟩ := numbers'.mem_places_iff.1 member
  refine numbers.mem_places_iff.2 ⟨candidate, same ▸ here, ?_⟩
  rcases part with empty | takesPart
  · left
    simpa [empty] using sublist
  · right
    rw [coherent'.rates, Scorer.takesPart_fuzzy_iff] at takesPart
    rw [coherent.rates, Scorer.takesPart_fuzzy_iff]
    exact ⟨takesPart.1, sublist.trans takesPart.2⟩

theorem places_narrowed_typed :
    let item (label : String) : Item := ⟨label, none, none, none, none⟩
    let requested : List Operation := [.start 1 .unnamed ⟨0, 0⟩,
      .receive 1 "" [item "foo", item "bar", item "foo", item "Fa"]]
    let shorter := (initial .fuzzy true).performAll (requested ++ [.enter "f"])
    let longer := (initial .fuzzy true).performAll (requested ++ [.enter "FO"])
    longer.pool.candidates = shorter.pool.candidates ∧
      (shorter.input.toList.map Text.lowercase).Sublist (longer.input.toList.map Text.lowercase) ∧
      ∃ few many, longer.Numbers few ∧ shorter.Numbers many ∧
        few.map Prod.snd ⊆ many.map Prod.snd ∧ 2 ∈ few.map Prod.snd ∧ 3 ∉ few.map Prod.snd := by
  intro item requested shorter longer
  have unanswered : Entries.find? shorter.input shorter.cache = none := by decide +kernel
  have unanswered' : Entries.find? longer.input longer.cache = none := by decide +kernel
  have same : longer.pool.candidates = shorter.pool.candidates := by
    rw [pool_of_unanswered (.inr unanswered), pool_of_unanswered (.inr unanswered')]
    decide +kernel
  have sublist : (shorter.input.toList.map Text.lowercase).Sublist
      (longer.input.toList.map Text.lowercase) := by decide +kernel
  obtain ⟨⟨few, numbers'⟩, ⟨many, numbers⟩, narrowed⟩ :=
    places_narrowed true true _ _ same sublist
  have rates : longer.scorer = .fuzzy :=
    (coherent_performAll (coherent_initial .fuzzy true) Scorer.total_fuzzy _).rates
  have places (n : Nat) : n ∈ few.map Prod.snd ↔ ∃ candidate,
      longer.pool.candidates[n]? = some candidate ∧
        (longer.input = "" ∨ Scorer.fuzzy.TakesPart longer.input candidate.item) :=
    rates ▸ numbers'.mem_places_iff
  simp only [Scorer.takesPart_fuzzy_iff] at places
  refine ⟨same, sublist, few, many, numbers', numbers, narrowed few many numbers' numbers, ?_, ?_⟩
  · rw [places]
    exact ⟨{ item := item "foo" }, by decide +kernel⟩
  · rw [places]
    rintro ⟨candidate, here, part⟩
    have last : longer.pool.candidates[3]? = some { item := item "Fa" } := by decide +kernel
    obtain rfl := Option.some.inj (last.symm.trans here)
    revert part
    decide +kernel

end Session

end Autocomplete
