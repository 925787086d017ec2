import Autocomplete.Proofs.Snippet.Reading

namespace Autocomplete

namespace Element

mutual

def indices : Element → List Int
  | text _ => []
  | tabstop index => [index]
  | placeholder index children => index :: indicesAll children

def indicesAll : List Element → List Int
  | [] => []
  | element :: rest => element.indices ++ indicesAll rest

end

mutual

theorem map_index_spans (start : Int) : (element : Element) →
    (element.spans start).map Span.index = element.indices
  | text _ => rfl
  | tabstop _ => rfl
  | placeholder index children => by
    rw [spans, indices, List.map_cons, map_index_spansAll start children]

theorem map_index_spansAll (start : Int) : (elements : List Element) →
    (spansAll start elements).map Span.index = indicesAll elements
  | [] => rfl
  | element :: rest => by
    rw [spansAll, indicesAll, List.map_append, map_index_spans start element,
      map_index_spansAll (start + element.length) rest]

end

theorem mem_indicesAll {index : Int} {elements : List Element} :
    index ∈ indicesAll elements ↔ ∃ element ∈ elements, index ∈ element.indices := by
  induction elements with
  | nil => simp [indicesAll]
  | cons element rest ih => simp [indicesAll, ih]

end Element

namespace Snippet

open Element

def IsNatural (elements : List Element) : Prop := ∀ index ∈ indicesAll elements, 0 ≤ index

theorem isNatural_cons {element : Element} {rest : List Element} :
    IsNatural (element :: rest) ↔ (∀ index ∈ element.indices, 0 ≤ index) ∧ IsNatural rest :=
  List.forall_mem_append

theorem IsNatural.reverse {elements : List Element} (natural : IsNatural elements) :
    IsNatural elements.reverse := by
  intro index member
  obtain ⟨element, inside, member⟩ := mem_indicesAll.1 member
  exact natural index (mem_indicesAll.2 ⟨element, List.mem_reverse.1 inside, member⟩)

def Level.IsNatural (level : Level) : Prop := 0 ≤ level.index ∧ Snippet.IsNatural level.before

theorem IsNatural.closed {elements : List Element} (natural : IsNatural elements) {level : Level}
    (around : level.IsNatural) : IsNatural (Progress.closed elements level) := by
  refine isNatural_cons.2 ⟨?_, around.2⟩
  rw [indices, List.forall_mem_cons]
  exact ⟨around.1, natural.reverse⟩

structure Progress.IsNatural (progress : Progress) : Prop where
  elements : Snippet.IsNatural progress.elements
  levels : ∀ level ∈ progress.levels, level.IsNatural

namespace Progress.IsNatural

variable {progress : Progress} (natural : progress.IsNatural)

include natural

theorem push {element : Element} (new : ∀ index ∈ element.indices, 0 ≤ index) :
    (progress.push element).IsNatural :=
  ⟨isNatural_cons.2 ⟨new, natural.elements⟩, natural.levels⟩

theorem literal (c : Char) : (progress.literal c).IsNatural := by
  obtain ⟨elements, levels⟩ := progress
  cases elements with
  | nil => exact natural.push (by simp [indices])
  | cons element before =>
      cases element with
      | text value => exact ⟨natural.elements, natural.levels⟩
      | tabstop _ => exact natural.push (by simp [indices])
      | placeholder _ _ => exact natural.push (by simp [indices])

theorem openLevel {index : Int} (new : 0 ≤ index) : (progress.openLevel index).IsNatural :=
  ⟨nofun, List.forall_mem_cons.2 ⟨⟨new, natural.elements⟩, natural.levels⟩⟩

theorem close {level : Level} {levels : List Level} (split : progress.levels = level :: levels) :
    Progress.IsNatural ⟨closed progress.elements level, levels⟩ := by
  have all := natural.levels
  rw [split, List.forall_mem_cons] at all
  exact ⟨natural.elements.closed all.1, all.2⟩

theorem moves {token : Token} {next : Progress} (moves : progress.Moves token next) :
    next.IsNatural := by
  cases moves with
  | plain c | escaped c => exact natural.literal c
  | tabstop _ => exact natural.push (by simp [indices])
  | emptyDefault _ => exact natural.push (by simp [indices, indicesAll])
  | opening _ => exact natural.openLevel (Int.natCast_nonneg _)
  | brace _ => exact natural.literal _
  | close split | dropped _ split => exact natural.close split

theorem finish : Snippet.IsNatural progress.finish := by
  obtain ⟨elements, levels⟩ := progress
  induction levels generalizing elements with
  | nil => exact natural.elements.reverse
  | cons level levels ih => exact ih _ (natural.close rfl)

end Progress.IsNatural

theorem isNatural_readChars {cs : List Char} {reading : Reading}
    (read : readChars cs = .ok reading) : IsNatural reading.elements := by
  have start : Progress.IsNatural {} := ⟨nofun, nofun⟩
  obtain ⟨final, natural, elements⟩ :=
    readTokens_invariant (fun moves natural => natural.moves moves) start read
  rw [elements]
  exact natural.finish

end Snippet

end Autocomplete
