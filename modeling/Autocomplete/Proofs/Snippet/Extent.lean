import Autocomplete.Proofs.Snippet.Descent
import Autocomplete.Proofs.Snippet.Stops

namespace Autocomplete

namespace Element

mutual

def depth : Element → Nat
  | text _ | tabstop _ => 0
  | placeholder _ children => depthAll children + 1

def depthAll : List Element → Nat
  | [] => 0
  | element :: rest => max element.depth (depthAll rest)

end

end Element

namespace Snippet

open Element

mutual

theorem ReadsElement.length_nodes_le {cs : List Char} {inside : Bool} {start stop : Nat}
    {element : Element} (reads : ReadsElement cs inside start element stop) :
    element.nodes.length + start ≤ min stop cs.length := by
  cases reads with
  | text run nonempty within =>
      have ahead := (ReadsElement.text run nonempty within).lt
      rw [nodes, List.length_singleton]
      omega
  | tabstop token _ =>
      have ahead := token.lt
      have within := token.within
      rw [nodes, List.length_singleton]
      omega
  | emptyDefault token _ =>
      have ahead := token.stop_eq
      have within := token.within
      simp only [Token.source, List.length_cons, List.length_append, List.length_nil] at ahead
      simp only [nodes, nodesAll, List.length_cons, List.length_append, List.length_nil]
      omega
  | placeholder token _ default =>
      have ahead := token.lt
      have within := token.within
      have inner := default.length_nodesAll_le
      rw [nodes, List.length_cons]
      omega

theorem ReadsLevel.length_nodesAll_le {cs : List Char} {inside : Bool} {start stop : Nat}
    {elements : List Element} (reads : ReadsLevel cs inside start elements stop) :
    (nodesAll elements).length + min start cs.length ≤ min stop cs.length := by
  cases reads with
  | stuck _ => exact Nat.le_of_eq (Nat.zero_add _)
  | cons first more =>
      have own := first.length_nodes_le
      have others := more.length_nodesAll_le
      rw [nodesAll, List.length_append]
      omega

end

mutual

theorem ReadsElement.stop_le {cs : List Char} {inside : Bool} {start stop : Nat}
    {element : Element} (reads : ReadsElement cs inside start element stop) :
    stop ≤ cs.length + element.depth := by
  cases reads with
  | text _ _ within => exact within
  | tabstop token _ => exact token.within
  | emptyDefault token _ => exact Nat.le_add_right_of_le token.within
  | placeholder token _ default =>
      have within := token.within
      have inner := default.stop_le
      rw [depth]
      omega

theorem ReadsLevel.stop_le {cs : List Char} {inside : Bool} {start stop : Nat}
    {elements : List Element} (reads : ReadsLevel cs inside start elements stop) :
    stop ≤ max start (cs.length + depthAll elements) := by
  cases reads with
  | stuck _ => exact Nat.le_max_left _ _
  | cons first more =>
      have own := first.stop_le
      have others := more.stop_le
      rw [depthAll]
      omega

end

def BeginsTabstop (cs : List Char) : Prop :=
  ∃ digits rest, IsNumber digits ∧
    (cs = '$' :: (digits ++ rest) ∨ cs = '$' :: '\x7b' :: (digits ++ '\x7d' :: rest))

def BeginsPlaceholder (cs : List Char) : Prop :=
  ∃ digits default rest, IsNumber digits ∧ '\n' ∉ default ∧
    cs = '$' :: '\x7b' :: (digits ++ ':' :: (default ++ '\x7d' :: rest))

theorem IsStuck.not_begins {inside : Bool} {cs rest digits : List Char} {token : Token}
    (stuck : IsStuck inside cs) (number : token.number? = some digits) :
    ¬ Begins cs token rest := by
  intro begins
  cases (stuck _ _ begins).2.symm.trans number

theorem IsStuck.not_beginsTabstop {inside : Bool} {cs : List Char} (stuck : IsStuck inside cs) :
    ¬ BeginsTabstop cs := by
  rintro ⟨digits, rest, isNumber, rfl | rfl⟩
  · -- The digits of the token go on as long as there are any.
    have whole : IsNumber (digits ++ rest.takeWhile Char.isDigit) :=
      ⟨List.append_ne_nil_of_left_ne_nil isNumber.nonempty _,
        List.forall_mem_append.2 ⟨isNumber.digits, List.all_eq_true.1 List.all_takeWhile⟩⟩
    have begins := Begins.tabstop whole (not_startsWithDigit_dropWhile rest)
    rw [List.append_assoc, List.takeWhile_append_dropWhile] at begins
    exact stuck.not_begins rfl begins
  · exact stuck.not_begins rfl (.braced isNumber)

theorem IsStuck.not_beginsPlaceholder {inside : Bool} {cs : List Char}
    (stuck : IsStuck inside cs) : ¬ BeginsPlaceholder cs := by
  rintro ⟨digits, default, rest, isNumber, line, rfl⟩
  by_cases empty : (default ++ '\x7d' :: rest).head? = some '\x7d'
  · obtain ⟨behind, split⟩ := List.head?_eq_some_iff.1 empty
    rw [split] at stuck
    exact stuck.not_begins rfl (.emptyDefault isNumber)
  · have closes := closesOnLine_append (fun member => line (List.takeWhile_subset _ member)) rest
    exact stuck.not_begins rfl (.opening isNumber empty closes)

theorem IsStuck.head_top {c : Char} {cs : List Char} (stuck : IsStuck false (c :: cs)) :
    c = '$' ∨ c = '\\' ∧ ∀ d ∈ cs.head?, ¬ isSpecial d := by
  by_cases dollar : c = '$'
  · exact .inl dollar
  · by_cases brace : c = '\x7d'
    · subst brace
      cases (stuck _ _ .brace).1
    · by_cases backslash : c = '\\'
      · subst backslash
        refine .inr ⟨rfl, fun d next special => ?_⟩
        obtain ⟨rest, rfl⟩ := List.head?_eq_some_iff.1 next
        cases (stuck _ _ (.escaped special)).1
      · cases (stuck _ _ (.plain dollar brace backslash)).1

/-- A template is read level by level, and each element ends behind where it began. A nested level
begins behind the start of its placeholder and inside the template. There are no more elements than
characters, and the reading goes beyond the end by no more than the depth of the snippet. Where it
stops before the end, a `$` begins no stop, or a backslash escapes nothing. -/
theorem read_extent (template : String) :
    (∀ snippet stop, read template = .ok (snippet, stop) ↔
      ReadsLevel template.toList false 0 snippet.elements stop) ∧
    (∀ inside start element stop, ReadsElement template.toList inside start element stop →
      start < stop ∧ ∀ index children, element = .placeholder index children →
        (∃ digits, TokenAt template.toList start (.emptyDefault digits) stop) ∨
        ∃ first last, start < first ∧ first ≤ template.length ∧
          ReadsLevel template.toList true first children last ∧ stop = last + 1) ∧
    ∀ snippet stop, read template = .ok (snippet, stop) →
      (nodesAll snippet.elements).length ≤ template.length ∧
      stop ≤ template.length + depthAll snippet.elements ∧
      (stop < template.length → ∃ c rest, template.toList.drop stop = c :: rest ∧
        (c = '$' ∨ c = '\\' ∧ ∀ d ∈ rest.head?, ¬ isSpecial d) ∧
        ¬ BeginsTabstop (c :: rest) ∧ ¬ BeginsPlaceholder (c :: rest)) := by
  rw [← template.length_toList]
  refine ⟨fun _ _ => read_eq_ok_iff, ?_, ?_⟩
  · intro inside start element stop reads
    refine ⟨reads.lt, ?_⟩
    rintro index children rfl
    cases reads with
    | emptyDefault token _ => exact .inl ⟨_, token⟩
    | placeholder token _ default => exact .inr ⟨_, _, token.lt, token.within, default, rfl⟩
  · intro snippet stop read
    have level := read_eq_ok_iff.1 read
    have size := level.length_nodesAll_le
    have ends := level.stop_le
    rw [Nat.zero_min, Nat.add_zero] at size
    rw [Nat.zero_max] at ends
    refine ⟨Nat.le_trans size (Nat.min_le_right _ _), ends, fun inside => ?_⟩
    have stuck := level.isStuck
    rw [List.drop_eq_getElem_cons inside] at stuck
    exact ⟨_, _, List.drop_eq_getElem_cons inside, stuck.head_top, stuck.not_beginsTabstop,
      stuck.not_beginsPlaceholder⟩

theorem read_extent_dropped :
    let template := "$\x7b1:a$b\x7d$c"
    let snippet : Snippet := ⟨[.placeholder 1 [.text "a"], .text "b\x7d"]⟩
    read template = .ok (snippet, 8) ∧ 8 < template.length ∧
      (∃ stop, ReadsElement template.toList false 0 (.placeholder 1 [.text "a"]) stop ∧ 0 < stop) ∧
      (nodesAll snippet.elements).length ≤ template.length ∧
      ¬ BeginsTabstop (template.toList.drop 8) := by
  intro template snippet
  have found : read template = .ok (snippet, 8) := by decide +kernel
  have before : 8 < template.length := by decide
  obtain ⟨levels, elements, ends⟩ := read_extent template
  obtain ⟨size, _, stuck⟩ := ends snippet 8 found
  obtain ⟨c, rest, left, _, noTabstop, _⟩ := stuck before
  refine ⟨found, before, ?_, size, left ▸ noTabstop⟩
  cases (levels snippet 8).1 found with
  | cons first _ => exact ⟨_, first, (elements _ _ _ _ first).1⟩

end Snippet

end Autocomplete
