import Autocomplete.Proofs.Snippet.RoundTrip

namespace Autocomplete.Snippet

inductive IsNormal : List Element → Prop
  | nil : IsNormal []
  | text {value rest} (nonempty : value ≠ "") (alone : ¬ StartsWithText rest)
      (normal : IsNormal rest) : IsNormal (.text value :: rest)
  | tabstop {index rest} (normal : IsNormal rest) : IsNormal (.tabstop index :: rest)
  | emptyDefault {index rest} (normal : IsNormal rest) :
      IsNormal (.placeholder index [.text ""] :: rest)
  | placeholder {index children rest} (default : IsNormal children) (normal : IsNormal rest) :
      IsNormal (.placeholder index children :: rest)

theorem IsNormal.ne_empty {elements : List Element} (normal : IsNormal elements) :
    elements ≠ [.text ""] := by
  rintro rfl
  cases normal with
  | text nonempty _ _ => exact nonempty rfl

theorem IsNormal.reverse_append {elements after : List Element} (normal : IsNormal elements)
    (rest : IsNormal after) (apart : StartsWithText elements → ¬ StartsWithText after) :
    IsNormal (elements.reverse ++ after) := by
  -- Each element is put before the ones after it, so only its neighbours matter.
  induction normal generalizing after with
  | nil => exact rest
  | @text value _ nonempty alone _ ih =>
      rw [List.reverse_cons, List.append_assoc]
      exact ih (.text nonempty (apart ⟨value, rfl⟩) rest) fun text => absurd text alone
  | @tabstop index _ _ ih =>
      rw [List.reverse_cons, List.append_assoc]
      exact ih (.tabstop rest) fun _ => not_startsWithText_tabstop index after
  | @emptyDefault index _ _ ih =>
      rw [List.reverse_cons, List.append_assoc]
      exact ih (.emptyDefault rest) fun _ => not_startsWithText_placeholder index _ after
  | @placeholder index children _ default _ _ ih =>
      rw [List.reverse_cons, List.append_assoc]
      exact ih (.placeholder default rest) fun _ =>
        not_startsWithText_placeholder index children after

theorem IsNormal.reverse {elements : List Element} (normal : IsNormal elements) :
    IsNormal elements.reverse := by
  have whole := normal.reverse_append .nil fun _ => not_startsWithText_nil
  rwa [List.append_nil] at whole

structure Progress.IsNormal (progress : Progress) : Prop where
  elements : Snippet.IsNormal progress.elements
  levels : ∀ level ∈ progress.levels, Snippet.IsNormal level.before

namespace Progress.IsNormal

theorem start : Progress.IsNormal {} := ⟨.nil, nofun⟩

variable {progress : Progress} (normal : progress.IsNormal)

include normal

theorem literal (c : Char) : (progress.literal c).IsNormal := by
  by_cases text : StartsWithText progress.elements
  · obtain ⟨elements, levels⟩ := progress
    obtain ⟨value, first⟩ := text
    obtain ⟨rest, rfl⟩ := List.head?_eq_some_iff.1 first
    cases normal.elements with
    | text _ alone before => exact ⟨.text String.push_ne_empty alone before, normal.levels⟩
  · rw [literal_of_not_text text]
    exact ⟨.text (by simp) text normal.elements, normal.levels⟩

theorem tabstop (index : Int) : (progress.push (.tabstop index)).IsNormal :=
  ⟨.tabstop normal.elements, normal.levels⟩

theorem emptyDefault (index : Int) : (progress.push (.placeholder index [.text ""])).IsNormal :=
  ⟨.emptyDefault normal.elements, normal.levels⟩

theorem openLevel (index : Int) : (progress.openLevel index).IsNormal :=
  ⟨.nil, List.forall_mem_cons.2 ⟨normal.elements, normal.levels⟩⟩

theorem close {level : Level} {levels : List Level} (split : progress.levels = level :: levels) :
    Progress.IsNormal ⟨closed progress.elements level, levels⟩ := by
  have all := normal.levels
  rw [split, List.forall_mem_cons] at all
  exact ⟨.placeholder normal.elements.reverse all.1, all.2⟩

theorem moves {token : Token} {next : Progress} (moves : progress.Moves token next) :
    next.IsNormal := by
  cases moves with
  | plain c | escaped c => exact normal.literal c
  | tabstop _ => exact normal.tabstop _
  | emptyDefault _ => exact normal.emptyDefault _
  | opening _ => exact normal.openLevel _
  | brace _ => exact normal.literal _
  | close split | dropped _ split => exact normal.close split

theorem finish : Snippet.IsNormal progress.finish := by
  obtain ⟨elements, levels⟩ := progress
  induction levels generalizing elements with
  | nil => exact normal.elements.reverse
  | cons level levels ih => exact ih _ (normal.close rfl)

end Progress.IsNormal

theorem isNormal_readChars {cs : List Char} {reading : Reading}
    (read : readChars cs = .ok reading) : IsNormal reading.elements := by
  obtain ⟨final, normal, elements⟩ :=
    readTokens_invariant (fun moves normal => Progress.IsNormal.moves normal moves) .start read
  rw [elements]
  exact normal.finish

end Autocomplete.Snippet
