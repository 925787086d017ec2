import Autocomplete.Proofs.Snippet.Spans
import Mathlib.Data.List.Forall2

namespace Autocomplete

namespace Element

mutual

def nodes : Element → List Element
  | text value => [text value]
  | tabstop index => [tabstop index]
  | placeholder index children => placeholder index children :: nodesAll children

def nodesAll : List Element → List Element
  | [] => []
  | element :: rest => element.nodes ++ nodesAll rest

end

def ownChars : Element → List Char
  | text value => value.toList
  | tabstop _ | placeholder _ _ => []

def index? : Element → Option Int
  | text _ => none
  | tabstop index | placeholder index _ => some index

structure Place where
  before : List Element
  element : Element

namespace Place

def charsBefore (place : Place) : List Char := place.before.flatMap ownChars

def isStop (place : Place) : Bool := place.element.index?.isSome

end Place

def placesFrom (before : List Element) : List Element → List Place
  | [] => []
  | element :: rest => ⟨before, element⟩ :: placesFrom (before ++ [element]) rest

def stopsIn (elements : List Element) : List Place :=
  (placesFrom [] (nodesAll elements)).filter Place.isStop

end Element

open Element

def slice (cs : List Char) (first last : Int) : List Char := (cs.take last.toNat).drop first.toNat

namespace Span

structure Marks (offset : Int) (text : List Char) (place : Place) (span : Span) : Prop where
  index : place.element.index? = some span.index
  start : span.start = offset + place.charsBefore.length
  stop : span.stop = span.start + place.element.chars.length
  covers : slice text (span.start - offset) (span.stop - offset) = place.element.chars

def Before (span other : Span) : Prop :=
  span.start ≤ other.start ∧ (other.stop ≤ span.stop ∨ span.stop ≤ other.start)

end Span

/-- The spans mark the stops of a tree in its text, which begins at an offset. -/
structure MarkStops (elements : List Element) (offset : Int) (text : String) (spans : List Span) :
    Prop where
  each : List.Forall₂ (Span.Marks offset text.toList) (stopsIn elements) spans
  within : ∀ span ∈ spans, span.Within offset (offset + text.length)
  inOrder : spans.Pairwise Span.Before

namespace Element

theorem placesFrom_append (before a b : List Element) :
    placesFrom before (a ++ b) = placesFrom before a ++ placesFrom (before ++ a) b := by
  induction a generalizing before with
  | nil => simp [placesFrom]
  | cons element rest ih => simp [placesFrom, ih]

mutual

theorem flatMap_ownChars_nodes : (element : Element) →
    element.nodes.flatMap ownChars = element.chars
  | text value => List.append_nil _
  | tabstop _ => rfl
  | placeholder index children => by
    rw [nodes, List.flatMap_cons, flatMap_ownChars_nodesAll children]
    rfl

theorem flatMap_ownChars_nodesAll : (elements : List Element) →
    (nodesAll elements).flatMap ownChars = charsAll elements
  | [] => rfl
  | element :: rest => by
    rw [nodesAll, List.flatMap_append, flatMap_ownChars_nodes element,
      flatMap_ownChars_nodesAll rest, charsAll]

end

theorem flatMap_ownChars_concat (before : List Element) (index : Int) (children : List Element) :
    (before ++ [placeholder index children]).flatMap ownChars = before.flatMap ownChars := by
  simp [ownChars]

mutual

theorem charsBefore_prefix_nodes (before : List Element) : (element : Element) →
    ∀ place ∈ placesFrom before element.nodes,
      place.charsBefore ++ place.element.chars <+: before.flatMap ownChars ++ element.chars
  | text _ => by simp [nodes, placesFrom, Place.charsBefore]
  | tabstop _ => by simp [nodes, placesFrom, Place.charsBefore]
  | placeholder index children => by
    rw [nodes, placesFrom, List.forall_mem_cons]
    have inside := charsBefore_prefix_nodesAll (before ++ [placeholder index children]) children
    rw [flatMap_ownChars_concat] at inside
    exact ⟨List.prefix_rfl, inside⟩

theorem charsBefore_prefix_nodesAll (before : List Element) : (elements : List Element) →
    ∀ place ∈ placesFrom before (nodesAll elements),
      place.charsBefore ++ place.element.chars <+: before.flatMap ownChars ++ charsAll elements
  | [] => nofun
  | element :: rest => by
    rw [nodesAll, placesFrom_append, List.forall_mem_append, charsAll, ← List.append_assoc]
    constructor
    · intro place member
      exact (charsBefore_prefix_nodes before element place member).trans (List.prefix_append _ _)
    · have later := charsBefore_prefix_nodesAll (before ++ element.nodes) rest
      rwa [List.flatMap_append, flatMap_ownChars_nodes] at later

end

theorem slice_of_prefix {before own whole : List Char} (begins : before ++ own <+: whole) :
    slice whole before.length (before.length + own.length) = own := by
  obtain ⟨rest, rfl⟩ := begins
  rw [slice, ← Int.natCast_add, Int.toNat_natCast, Int.toNat_natCast, ← List.length_append,
    List.take_left, List.drop_left]

def Place.span (offset : Int) (place : Place) : Span :=
  let start := offset + place.charsBefore.length
  ⟨place.element.index?.getD 0, start, start + place.element.length⟩

mutual

theorem spans_eq (offset : Int) (before : List Element) : (element : Element) →
    element.spans (offset + (before.flatMap ownChars).length) =
      ((placesFrom before element.nodes).filter Place.isStop).map (Place.span offset)
  | text _ => rfl
  | tabstop index => by
    rw [spans, nodes, placesFrom, placesFrom, List.filter_cons_of_pos rfl, List.filter_nil,
      List.map_singleton, Place.span, length, Int.natCast_zero, Int.add_zero]
    rfl
  | placeholder index children => by
    have inside := spansAll_eq offset (before ++ [placeholder index children]) children
    rw [flatMap_ownChars_concat] at inside
    rw [spans, inside, nodes, placesFrom, List.filter_cons_of_pos rfl]
    rfl

theorem spansAll_eq (offset : Int) (before : List Element) : (elements : List Element) →
    spansAll (offset + (before.flatMap ownChars).length) elements =
      ((placesFrom before (nodesAll elements)).filter Place.isStop).map (Place.span offset)
  | [] => rfl
  | element :: rest => by
    have later := spansAll_eq offset (before ++ element.nodes) rest
    rw [List.flatMap_append, flatMap_ownChars_nodes, List.length_append, length_chars,
      Int.natCast_add, ← Int.add_assoc] at later
    rw [spansAll, spans_eq offset before element, later, nodesAll, placesFrom_append,
      List.filter_append, List.map_append]

end

mutual

theorem inOrder_spans (start : Int) : (element : Element) →
    (element.spans start).Pairwise Span.Before
  | text _ => .nil
  | tabstop _ => List.pairwise_singleton _ _
  | placeholder index children => by
    rw [spans, List.pairwise_cons]
    refine ⟨fun span member => ?_, inOrder_spansAll start children⟩
    obtain ⟨from_le, _, to_le⟩ := within_spansAll start children span member
    exact ⟨from_le, .inl to_le⟩

theorem inOrder_spansAll (start : Int) : (elements : List Element) →
    (spansAll start elements).Pairwise Span.Before
  | [] => .nil
  | element :: rest => by
    rw [spansAll, List.pairwise_append]
    refine ⟨inOrder_spans start element, inOrder_spansAll _ rest, ?_⟩
    intro span first other later
    obtain ⟨_, ordered, to_le⟩ := within_spans start element span first
    obtain ⟨from_le, _, _⟩ := within_spansAll _ rest other later
    exact ⟨Int.le_trans ordered (Int.le_trans to_le from_le), .inr (Int.le_trans to_le from_le)⟩

end

end Element

namespace Snippet

theorem marks_span {elements : List Element} {offset : Int} {place : Place}
    (stop : place ∈ stopsIn elements) :
    Span.Marks offset (charsAll elements) place (place.span offset) := by
  obtain ⟨member, isStop⟩ := List.mem_filter.1 stop
  obtain ⟨index, indexed⟩ := Option.isSome_iff_exists.1 isStop
  have begins := charsBefore_prefix_nodesAll [] elements place member
  refine ⟨?_, rfl, ?_, ?_⟩
  · rw [Place.span, indexed, Option.getD_some]
  · rw [length_chars]
    rfl
  · have first : (place.span offset).start - offset = place.charsBefore.length := by
      dsimp only [Place.span]
      omega
    have last : (place.span offset).stop - offset =
        place.charsBefore.length + place.element.chars.length := by
      rw [length_chars]
      dsimp only [Place.span]
      omega
    rw [first, last]
    exact slice_of_prefix begins

theorem markStops_spansAll (elements : List Element) (offset : Int) :
    MarkStops elements offset (String.ofList (charsAll elements)) (spansAll offset elements) where
  each := by
    have spans := spansAll_eq offset [] elements
    rw [List.flatMap_nil, List.length_nil, Int.natCast_zero, Int.add_zero] at spans
    rw [spans, String.toList_ofList, List.forall₂_map_right_iff]
    exact List.forall₂_same.2 fun place stop => marks_span stop
  within := by
    rw [String.length_ofList, length_charsAll]
    exact within_spansAll offset elements
  inOrder := inOrder_spansAll offset elements

/-- The spans of a snippet mark its stops in its text, and so do those of an insertion. An item that
is to be expanded is inserted just if no number of its template has too many digits. -/
theorem markStops_spans :
    (∀ (snippet : Snippet) (offset : Int), snippet.length = snippet.text.length ∧
      MarkStops snippet.elements offset snippet.text (snippet.spans offset)) ∧
    ∀ (item : Item) (offset : Int), item.format = some .snippet →
      ((∃ insertion, item.insertion offset true = .ok insertion) ↔
        ∀ number ∈ numbers item.newText, number.length ≤ Number.digitLimit) ∧
      ∀ insertion, item.insertion offset true = .ok insertion →
        ∃ snippet, ofTemplate item.newText = .ok snippet ∧
          MarkStops snippet.elements offset insertion.text insertion.stops := by
  constructor
  · intro snippet offset
    exact ⟨snippet.length_text.symm, markStops_spansAll snippet.elements offset⟩
  · intro item offset format
    constructor
    · rw [insertion_eq_ok_iff]
      exact ⟨fun short => short rfl format, fun short _ _ => short⟩
    · intro insertion inserted
      rw [Item.insertion, if_pos ⟨rfl, format⟩] at inserted
      split at inserted
      · next snippet read =>
        obtain rfl := Except.ok.inj inserted
        exact ⟨snippet, read, markStops_spansAll snippet.elements offset⟩
      · cases inserted

theorem markStops_spans_nested :
    let item : Item :=
      { label := "f", insertText := some "f($\x7b1:a$2b\x7d)$0", format := some .snippet }
    let spans : List Span := [⟨1, 12, 14⟩, ⟨2, 13, 13⟩, ⟨0, 15, 15⟩]
    item.format = some .snippet ∧ item.insertion 10 true = .ok ⟨"f(ab)", spans⟩ ∧
      ∃ snippet, ofTemplate item.newText = .ok snippet ∧
        MarkStops snippet.elements 10 "f(ab)" spans := by
  intro item spans
  have inserted : item.insertion 10 true = .ok ⟨"f(ab)", spans⟩ := by decide +kernel
  exact ⟨rfl, inserted, (markStops_spans.2 item 10 rfl).2 _ inserted⟩

end Snippet

end Autocomplete
