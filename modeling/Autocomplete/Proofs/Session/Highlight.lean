import Autocomplete.Fuzzy.Highlight
import Autocomplete.Proofs.Fuzzy.Inside
import Autocomplete.Proofs.Session.Coherence
import Mathlib.Data.List.Sort

namespace Autocomplete.Fuzzy

/-- The text is the label with some of its characters, one by one, wrapped between two marks. -/
inductive Wraps (start stop : List Char) : (label wrapped text : List Char) → Prop
  | nil : Wraps start stop [] [] []
  | plain (c : Char) {label wrapped text : List Char} (rest : Wraps start stop label wrapped text) :
      Wraps start stop (c :: label) wrapped (c :: text)
  | wrap (c : Char) {label wrapped text : List Char} (rest : Wraps start stop label wrapped text) :
      Wraps start stop (c :: label) (c :: wrapped) (start ++ c :: stop ++ text)

def marked (indices : List Int) (cs : List Char) (i : Nat) : List (Char × Nat) :=
  (cs.zipIdx i).filter fun entry => indices.contains (entry.2 : Int)

theorem wraps_highlightFrom (start stop : List Char) (indices : List Int) (cs : List Char)
    (i : Nat) : Wraps start stop cs ((marked indices cs i).map Prod.fst)
      (highlightFrom start stop indices i cs) := by
  induction cs generalizing i with
  | nil => exact .nil
  | cons c cs ih =>
      rw [highlightFrom, marked, List.zipIdx_cons, List.filter_cons]
      split
      · exact .wrap c (ih (i + 1))
      · exact .plain c (ih (i + 1))

theorem map_fst_marked (indices : List Int) (cs : List Char) :
    ((marked indices cs 0).map Prod.fst).map some =
      ((marked indices cs 0).map Prod.snd).map fun j => cs[j]? := by
  rw [List.map_map, List.map_map]
  apply List.map_congr_left
  rintro ⟨c, j⟩ member
  have here := List.mem_zipIdx_iff_getElem?.1 (List.mem_filter.1 member).1
  exact here.symm

theorem map_snd_marked {positions : List Nat} {cs : List Char}
    (sorted : positions.Pairwise (· < ·)) (inside : ∀ j ∈ positions, j < cs.length) :
    (marked (positions.map Int.ofNat) cs 0).map Prod.snd = positions := by
  have numbered : (marked (positions.map Int.ofNat) cs 0).map Prod.snd =
      (List.range cs.length).filter fun j : Nat => (positions.map Int.ofNat).contains (j : Int) := by
    rw [List.range_eq_range', ← List.zipIdx_map_snd 0 cs, List.filter_map]
    rfl
  rw [numbered]
  -- Both lists increase, so it is enough that they have the same members.
  apply List.Pairwise.eq_of_mem_iff (List.pairwise_lt_range.filter _) sorted
  intro j
  simp only [List.mem_filter, List.mem_range, List.contains_iff_mem]
  constructor
  · rintro ⟨_, member⟩
    obtain ⟨k, member, same⟩ := List.mem_map.1 member
    exact Int.ofNat.inj same ▸ member
  · exact fun member => ⟨inside j member, List.mem_map_of_mem member⟩

theorem Spells.wraps_highlight {label input : String} {positions : List Nat}
    (spells : Spells label input positions) :
    ∃ wrapped, Wraps ['['] [']'] label.toList wrapped
        (highlight label (positions.map Int.ofNat)).toList ∧
      wrapped.map some = positions.map fun j => label.toList[j]? := by
  refine ⟨(marked (positions.map Int.ofNat) label.toList 0).map Prod.fst, ?_, ?_⟩
  · rw [highlight, String.toList_ofList]
    exact wraps_highlightFrom _ _ _ _ 0
  · have inside : ∀ j ∈ positions, j < label.toList.length := by
      intro j member
      rw [String.length_toList]
      exact spells.lt member
    rw [map_fst_marked, map_snd_marked spells.1 inside]

theorem Spells.lowercase {label input : String} {positions : List Nat} {chars : List Char}
    (spells : Spells label input positions)
    (here : chars.map some = positions.map fun j => label.toList[j]?) :
    chars.map Text.lowercase = input.toList.map Text.lowercase := by
  have lower := congrArg (List.map (Option.map Text.lowercase)) here
  rw [List.map_map, List.map_map] at lower
  have folded :
      (chars.map Text.lowercase).map some = (input.toList.map Text.lowercase).map some := by
    rw [List.map_map, List.map_map]
    exact lower.trans spells.2
  exact List.map_injective_iff.2 (Option.some_injective _) folded

def isBracket (c : Char) : Bool := c == '[' || c == ']'

def bracketed : (opened : Bool) → List Char → List Char
  | _, [] => []
  | opened, c :: cs =>
    if isBracket c then bracketed (c == '[') cs
    else if opened then c :: bracketed opened cs
    else bracketed opened cs

theorem Wraps.brackets {label wrapped text : List Char} (wraps : Wraps ['['] [']'] label wrapped text)
    (plain : ∀ c ∈ label, isBracket c = false) :
    text.filter (fun c => !isBracket c) = label ∧ bracketed false text = wrapped := by
  induction wraps with
  | nil => exact ⟨rfl, rfl⟩
  | plain c _ ih =>
      rw [List.forall_mem_cons] at plain
      obtain ⟨deleted, between⟩ := ih plain.2
      simp [bracketed, plain.1, deleted, between]
  | wrap c _ ih =>
      rw [List.forall_mem_cons] at plain
      obtain ⟨deleted, between⟩ := ih plain.2
      have opening : isBracket '[' = true := rfl
      have closing : isBracket ']' = true := rfl
      simp [bracketed, opening, closing, plain.1, deleted, between]

end Autocomplete.Fuzzy

namespace Autocomplete

theorem Scorer.spells_of_mem_rank {input : String} {items : List Item} {candidates : List Candidate}
    {candidate : Candidate} (ranked : Scorer.fuzzy.rank input items = .ok candidates)
    (member : candidate ∈ candidates) :
    ∃ positions shift, candidate.indices = positions.map Int.ofNat ∧
      Fuzzy.Spells candidate.item.label input positions ∧
      Text.IsFirstOccurrence candidate.item.filter.toList candidate.item.label.toList shift ∧
      ∀ j ∈ positions, shift ≤ j ∧ j < shift + candidate.item.filter.length := by
  obtain ⟨item, _, rated⟩ := mem_rank ranked member
  obtain ⟨shift, found, label, occurs, matched, _, rfl⟩ := of_rate rated
  obtain ⟨alignment, aligned, rfl⟩ := Option.map_eq_some_iff.1 (Except.ok.inj matched)
  have spells := Fuzzy.spells_of_align? aligned
  refine ⟨alignment.positions.map (· + shift), shift, ?_, spells.shifted occurs, occurs, ?_⟩
  · simp [Item.candidate]
  · intro j member
    obtain ⟨k, matched, rfl⟩ := List.mem_map.1 member
    have := spells.lt matched
    change shift ≤ k + shift ∧ k + shift < shift + item.filter.length
    omega

namespace Session

/-- After any operations, the positions of a displayed candidate spell the input, inside the first
occurrence of its filter text in its label. Highlighting them wraps the input. -/
theorem spells_displayed (wrapAround : Bool) (operations : List Operation) :
    let session := (initial .fuzzy wrapAround).performAll operations
    session.input ≠ "" → ∀ candidate ∈ session.displayed.candidates,
      let item := candidate.item
      let text := (Fuzzy.highlight item.label candidate.indices).toList
      candidate.indices.length = session.input.length ∧
      ∃ positions, candidate.indices = positions.map Int.ofNat ∧
        Fuzzy.Spells item.label session.input positions ∧
        (∃ shift, Text.IsFirstOccurrence item.filter.toList item.label.toList shift ∧
          ∀ j ∈ positions, shift ≤ j ∧ j < shift + item.filter.length ∧ j < item.label.length) ∧
        ∃ wrapped, Fuzzy.Wraps ['['] [']'] item.label.toList wrapped text ∧
          wrapped.map some = positions.map (fun j => item.label.toList[j]?) ∧
          wrapped.length = session.input.length ∧
          wrapped.map Text.lowercase = session.input.toList.map Text.lowercase ∧
          ((∀ c ∈ item.label.toList, Fuzzy.isBracket c = false) →
            text.filter (fun c => !Fuzzy.isBracket c) = item.label.toList ∧
              Fuzzy.bracketed false text = wrapped) := by
  intro session typed candidate member item text
  have shown : shownFor .fuzzy session.input session.cache = .ok session.displayed.candidates :=
    (coherent_performAll (coherent_initial .fuzzy wrapAround) Scorer.total_fuzzy operations).shown
  rw [shownFor, if_neg typed] at shown
  obtain ⟨positions, shift, indices, spells, occurs, inside⟩ :=
    Scorer.spells_of_mem_rank shown member
  obtain ⟨wrapped, wraps, chars⟩ := spells.wraps_highlight
  rw [← indices] at wraps
  have lower := spells.lowercase chars
  refine ⟨?_, positions, indices, spells, ⟨shift, occurs, ?_⟩, wrapped, wraps, chars, ?_, lower,
    wraps.brackets⟩
  · rw [indices, List.length_map, spells.length]
  · intro j member
    exact ⟨(inside j member).1, (inside j member).2, spells.lt member⟩
  · have lengths := congrArg List.length lower
    rwa [List.length_map, List.length_map, String.length_toList] at lengths

theorem spells_displayed_shifted :
    let session := (initial .fuzzy true).performAll [
      .start 1 .unnamed ⟨0, 0⟩, .receive 1 "" [⟨"fn next(x)", some "next", none, none, none⟩],
      .enter "NT"]
    let text := (Fuzzy.highlight "fn next(x)" [3, 6]).toList
    session.input ≠ "" ∧ ∃ candidate ∈ session.displayed.candidates,
      candidate.item.label = "fn next(x)" ∧ candidate.indices = [3, 6] ∧
      text = "fn [n]ex[t](x)".toList ∧ text.filter (fun c => !Fuzzy.isBracket c) = "fn next(x)".toList ∧
      (Fuzzy.bracketed false text).map Text.lowercase = "NT".toList.map Text.lowercase := by
  intro session text
  have typed : session.input ≠ "" := by decide +kernel
  have shown : shownFor .fuzzy session.input session.cache = .ok session.displayed.candidates :=
    (coherent_performAll (coherent_initial .fuzzy true) Scorer.total_fuzzy _).shown
  let next : Candidate := ⟨⟨"fn next(x)", some "next", none, none, none⟩, 44, 44, [3, 6]⟩
  have rated : Scorer.fuzzy.rateAll session.input
      ((answerFor session.input session.cache).map Candidate.item) = .ok [next] := by
    decide +kernel
  have ranked : shownFor .fuzzy session.input session.cache = .ok [next] := by
    simp only [shownFor, if_neg typed, Scorer.rank, rated, List.mergeSort_singleton]
  have member : next ∈ session.displayed.candidates := by
    rw [← Except.ok.inj (ranked.symm.trans shown)]
    exact List.mem_singleton_self next
  obtain ⟨_, _, _, _, _, wrapped, _, _, _, lower, brackets⟩ :=
    spells_displayed true _ typed next member
  have plain : ∀ c ∈ "fn next(x)".toList, Fuzzy.isBracket c = false := by
    simp [Fuzzy.isBracket]
  obtain ⟨deleted, between⟩ := brackets plain
  have highlighted : text = "fn [n]ex[t](x)".toList := by decide +kernel
  exact ⟨typed, next, member, rfl, rfl, highlighted, deleted, between ▸ lower⟩

end Session

end Autocomplete
