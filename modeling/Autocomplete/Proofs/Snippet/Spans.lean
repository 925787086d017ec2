import Autocomplete.Proofs.Snippet.Numbers
import Autocomplete.Proofs.Snippet.Pieces

namespace Autocomplete

def Span.Within (first last : Int) (span : Span) : Prop :=
  first ≤ span.start ∧ span.start ≤ span.stop ∧ span.stop ≤ last

theorem Span.Within.mono {first first' last last' : Int} {span : Span}
    (within : span.Within first last) (from_le : first' ≤ first) (to_le : last ≤ last') :
    span.Within first' last' :=
  ⟨Int.le_trans from_le within.1, within.2.1, Int.le_trans within.2.2 to_le⟩

namespace Element

mutual

theorem within_spans (start : Int) : (element : Element) →
    ∀ span ∈ element.spans start, span.Within start (start + element.length)
  | text _ => nofun
  | tabstop index => by
    rw [spans, List.forall_mem_singleton]
    exact ⟨Int.le_refl _, Int.le_refl _, Int.le_add_of_nonneg_right (Int.natCast_nonneg _)⟩
  | placeholder index children => by
    rw [spans, List.forall_mem_cons]
    have covers := Int.le_add_of_nonneg_right (a := start) (Int.natCast_nonneg (lengthAll children))
    exact ⟨⟨Int.le_refl _, covers, Int.le_refl _⟩, within_spansAll start children⟩

theorem within_spansAll (start : Int) : (elements : List Element) →
    ∀ span ∈ spansAll start elements, span.Within start (start + lengthAll elements)
  | [] => nofun
  | element :: rest => by
    rw [spansAll, List.forall_mem_append, lengthAll]
    constructor
    · intro span member
      exact (within_spans start element span member).mono (Int.le_refl _) (by omega)
    · intro span member
      exact (within_spansAll (start + element.length) rest span member).mono (by omega) (by omega)

end

end Element

namespace Snippet

open Element

end Snippet

namespace Item

open Snippet

variable {item : Item} {offset : Int} {snippetSupport : Bool}

end Item

end Autocomplete
