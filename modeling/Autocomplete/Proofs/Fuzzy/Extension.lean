import Autocomplete.Proofs.Fuzzy.Ties

namespace Autocomplete.Fuzzy

theorem columnsAfter_isPrefix (previous : Option Char) (cs rest : List Char) :
    columnsAfter previous cs <+: columnsAfter previous (cs ++ rest) := by
  induction cs generalizing previous with
  | nil => exact List.nil_prefix
  | cons c cs ih => exact (List.prefix_cons_inj _).2 (ih (some c))

section Longer

variable {columns longer : List Column} (begins : columns <+: longer) {positions : List Nat}
  (within : ∀ j ∈ positions, j < columns.length)

include begins

theorem bonusOf_of_isPrefix {j : Nat} (within : j < columns.length) :
    bonusOf longer j = bonusOf columns j := by
  obtain ⟨rest, rfl⟩ := begins
  rw [bonusOf, bonusOf, List.getElem?_append_left within]

theorem linkScore_of_isPrefix (k : Nat) {j : Nat} (within : j < columns.length) :
    linkScore longer k j = linkScore columns k j := by
  rw [linkScore, linkScore, bonusOf_of_isPrefix begins within]

include within

theorem tailScore_of_isPrefix (k : Nat) :
    tailScore longer k positions = tailScore columns k positions := by
  induction positions generalizing k with
  | nil => rfl
  | cons j rest ih =>
      rw [List.forall_mem_cons] at within
      rw [tailScore, tailScore, linkScore_of_isPrefix begins k within.1, ih within.2]

theorem alignmentScore_of_isPrefix :
    alignmentScore longer positions = alignmentScore columns positions := by
  cases positions with
  | nil => rfl
  | cons j rest =>
      rw [List.forall_mem_cons] at within
      rw [alignmentScore, alignmentScore, headScore, headScore, bonusOf_of_isPrefix begins within.1,
        tailScore_of_isPrefix begins within.2]

end Longer

section Suffix

variable {choice pattern : String} (suffix : String) {positions : List Nat}

theorem spells_append_iff (within : ∀ j ∈ positions, j < choice.length) :
    Spells (choice ++ suffix) pattern positions ↔ Spells choice pattern positions := by
  have same : positions.map (fun j => (choice ++ suffix).toList[j]?.map Text.lowercase) =
      positions.map fun j => choice.toList[j]?.map Text.lowercase := by
    refine List.map_congr_left fun j member => ?_
    rw [String.toList_append, List.getElem?_append_left (within j member)]
  rw [Spells, Spells, same]

theorem alignmentScore_append (within : ∀ j ∈ positions, j < choice.length) :
    alignmentScore (columns (choice ++ suffix).toList) positions =
      alignmentScore (columns choice.toList) positions := by
  rw [String.toList_append]
  refine alignmentScore_of_isPrefix (columnsAfter_isPrefix none _ _) fun j member => ?_
  rw [length_columnsAfter]
  exact within j member

theorem Spells.append (spells : Spells choice pattern positions) :
    Spells (choice ++ suffix) pattern positions :=
  (spells_append_iff suffix fun _ => spells.lt).2 spells

variable {alignment extended : Alignment}

theorem IsOptimal.append (found : align? choice pattern = some alignment)
    (found' : align? (choice ++ suffix) pattern = some extended)
    (same : extended.score = alignment.score) (optimal : IsOptimal choice pattern positions) :
    IsOptimal (choice ++ suffix) pattern positions := by
  refine ⟨optimal.spells.append suffix, fun other spells => ?_⟩
  calc alignmentScore (columns (choice ++ suffix).toList) other
      ≤ extended.score := alignFolded?_bound found' (isAlignment_columns.2 spells)
    _ = alignment.score := same
    _ = alignmentScore (columns choice.toList) alignment.positions :=
      (alignFolded?_attained found).2.symm
    _ ≤ alignmentScore (columns choice.toList) positions := optimal.best _ (spells_of_align? found)
    _ = alignmentScore (columns (choice ++ suffix).toList) positions :=
      (alignmentScore_append suffix fun _ => optimal.spells.lt).symm

theorem IsOptimal.of_append (within : ∀ j ∈ positions, j < choice.length)
    (optimal : IsOptimal (choice ++ suffix) pattern positions) :
    IsOptimal choice pattern positions := by
  refine ⟨(spells_append_iff suffix within).1 optimal.spells, fun other spells => ?_⟩
  rw [← alignmentScore_append suffix fun _ => spells.lt, ← alignmentScore_append suffix within]
  exact optimal.best other (spells.append suffix)

/-- Positions that are preferred in a longer candidate are so in any part up to all of them, if what
is optimal in that part is optimal in the whole. -/
theorem IsPreferred.of_append (within : ∀ j ∈ positions, j < choice.length)
    (stays : ∀ {other}, IsOptimal choice pattern other → IsOptimal (choice ++ suffix) pattern other)
    (preferred : IsPreferred (choice ++ suffix) pattern positions) :
    IsPreferred choice pattern positions where
  toIsOptimal := preferred.toIsOptimal.of_append suffix within
  first split before last optimal := preferred.first split before last (stays optimal)
  latest split nonempty before k optimal :=
    preferred.latest split nonempty before k (stays optimal)

theorem IsPreferred.within {other : List Nat} (preferred : IsPreferred choice pattern positions)
    (optimal : IsOptimal choice pattern other) {n : Nat} (bound : ∀ j ∈ other, j < n) :
    ∀ j ∈ positions, j < n := by
  rcases List.eq_nil_or_concat' positions with rfl | ⟨before, last, rfl⟩
  · exact nofun
  · have lengths := preferred.spells.length.trans optimal.spells.length.symm
    rcases List.eq_nil_or_concat' other with rfl | ⟨before', last', rfl⟩
    · simp at lengths
    · have early : last ≤ last' := preferred.first rfl before' last' optimal
      have below : last' < n := bound last' (by simp)
      obtain ⟨_, _, increasing⟩ := List.pairwise_append.1 preferred.spells.1
      rw [List.forall_mem_append, List.forall_mem_singleton]
      refine ⟨fun j member => ?_, Nat.lt_of_le_of_lt early below⟩
      have earlier := increasing j member last (List.mem_singleton_self _)
      omega

end Suffix

/-- With more characters at its end a candidate still matches, with no lower score; and with the
same score it matches at the same positions. -/
theorem align?_append {choice pattern : String} {alignment : Alignment}
    (found : align? choice pattern = some alignment) (suffix : String) :
    ∃ extended, align? (choice ++ suffix) pattern = some extended ∧
      alignment.score ≤ extended.score ∧
      (extended.score = alignment.score → extended.positions = alignment.positions) := by
  have spells := spells_of_align? found
  obtain ⟨extended, found'⟩ := exists_align?_of_spells (spells.append suffix)
  refine ⟨extended, found', ?_, fun same => ?_⟩
  · rw [← (alignFolded?_attained found).2, ← alignmentScore_append suffix fun _ => spells.lt]
    exact alignFolded?_bound found' (isAlignment_columns.2 (spells.append suffix))
  · have preferred := isPreferred_of_align? found'
    have stays {other : List Nat} (optimal : IsOptimal choice pattern other) :
        IsOptimal (choice ++ suffix) pattern other := optimal.append suffix found found' same
    have within := preferred.within (stays (isOptimal_of_align? found)) fun _ => spells.lt
    exact (preferred.of_append suffix within stays).unique (isPreferred_of_align? found)

theorem align?_append_word :
    align? "ab" "ab" = some ⟨52, [0, 1]⟩ ∧ align? "ab_ab" "ab" = some ⟨52, [0, 1]⟩ ∧
      alignmentScore (columns "ab_ab".toList) [3, 4] = 52 ∧
      ∃ extended, align? ("ab" ++ "_ab") "ab" = some extended ∧ 52 ≤ extended.score ∧
        (extended.score = 52 → extended.positions = [0, 1]) := by
  have found : align? "ab" "ab" = some ⟨52, [0, 1]⟩ := by decide
  exact ⟨found, by decide, by decide, align?_append found "_ab"⟩

end Autocomplete.Fuzzy
