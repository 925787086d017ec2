import Autocomplete.Proofs.Snippet.Descent
import Autocomplete.Proofs.Snippet.Stops

namespace Autocomplete.Snippet

open Element

theorem Begins.literal_sublist {cs rest : List Char} {token : Token} (begins : Begins cs token rest)
    {inside : Bool} {c : Char} (literal : token.literal? inside = some c) :
    List.Sublist (c :: rest) cs := by
  cases begins with
  | plain _ _ _ =>
      obtain rfl := Option.some.inj literal
      exact List.Sublist.refl _
  | escaped _ =>
      obtain rfl := Option.some.inj literal
      exact List.sublist_cons_self _ _
  | brace =>
      cases inside with
      | true => cases literal
      | false =>
          obtain rfl := Option.some.inj literal
          exact List.Sublist.refl _
  | tabstop _ _ | braced _ | emptyDefault _ | opening _ _ _ | stray _ => cases literal

theorem Run.sublist {inside : Bool} {cs value rest : List Char} (run : Run inside cs value rest) :
    List.Sublist (value ++ rest) cs := by
  induction run with
  | ended _ => exact List.Sublist.refl _
  | @more _ _ _ c _ _ begins literal _ ih =>
      exact (ih.cons_cons c).trans (begins.literal_sublist literal)

theorem TokenAt.sublist {cs : List Char} {start stop : Nat} {token : Token}
    (here : TokenAt cs start token stop) : List.Sublist (cs.drop stop) (cs.drop start) :=
  List.drop_sublist_drop_left cs (Nat.le_of_lt here.lt)

mutual

theorem ReadsElement.sublist {cs : List Char} {inside : Bool} {start stop : Nat}
    {element : Element} (reads : ReadsElement cs inside start element stop) :
    List.Sublist (element.chars ++ cs.drop stop) (cs.drop start) := by
  cases reads with
  | text run _ _ =>
      rw [chars, String.toList_ofList]
      exact run.sublist
  | tabstop token _ | emptyDefault token _ => exact token.sublist
  | @placeholder _ _ _ _ children last _ token _ default =>
      have behind := List.drop_sublist_drop_left cs (Nat.le_succ last)
      exact ((behind.append_left (charsAll children)).trans default.sublist).trans token.sublist

theorem ReadsLevel.sublist {cs : List Char} {inside : Bool} {start stop : Nat}
    {elements : List Element} (reads : ReadsLevel cs inside start elements stop) :
    List.Sublist (charsAll elements ++ cs.drop stop) (cs.drop start) := by
  cases reads with
  | stuck _ => exact List.Sublist.refl _
  | cons first more =>
      rw [charsAll, List.append_assoc]
      exact (more.sublist.append_left _).trans first.sublist

end

theorem exists_readsLevel_of_ofTemplate {template : String} {snippet : Snippet}
    (reads : ofTemplate template = .ok snippet) :
    ∃ stop, ReadsLevel template.toList false 0 snippet.elements stop := by
  obtain ⟨reading, first, same⟩ := readChars_of_ofTemplate reads
  refine ⟨stopOf template.toList reading, read_eq_ok_iff.1 ?_⟩
  rw [read, first]
  dsimp only
  rw [same]

theorem readChars_of_literal {cs : List Char} (dollar : '$' ∉ cs) (backslash : '\\' ∉ cs) :
    ∃ reading, readChars cs = .ok reading ∧ charsAll reading.elements = cs := by
  by_cases empty : cs = []
  · subst empty
    exact ⟨_, readChars_templateAll .nil fun index member => absurd member List.not_mem_nil, rfl⟩
  · have literal : ∀ c ∈ (String.ofList cs).toList, IsLiteral false c := by
      rw [String.toList_ofList]
      exact fun c member =>
        ⟨fun same => dollar (same ▸ member), fun same => backslash (same ▸ member),
          fun inside => absurd inside Bool.false_ne_true⟩
    have nonempty : String.ofList cs ≠ "" := mt String.ofList_eq_empty_iff.1 empty
    have whole := readChars_templateAll (.text nonempty literal not_startsWithText_nil .nil)
      fun index member => absurd member List.not_mem_nil
    simp only [templateAll, Element.template, String.toList_ofList, List.append_nil] at whole
    exact ⟨_, whole, by simp [charsAll, chars]⟩

/-- The text of a snippet is a subsequence of its template, and it is the whole template if that has
neither a `$` nor a backslash. -/
theorem text_sublist (template : String) :
    (∀ snippet, ofTemplate template = .ok snippet →
      List.Sublist snippet.text.toList template.toList) ∧
    ('$' ∉ template.toList → '\\' ∉ template.toList →
      ∃ snippet, ofTemplate template = .ok snippet ∧ snippet.text = template) := by
  constructor
  · intro snippet reads
    obtain ⟨stop, level⟩ := exists_readsLevel_of_ofTemplate reads
    rw [text, String.toList_ofList]
    exact (List.sublist_append_left _ _).trans level.sublist
  · intro dollar backslash
    obtain ⟨reading, reads, same⟩ := readChars_of_literal dollar backslash
    refine ⟨⟨reading.elements⟩, by rw [ofTemplate, reads], ?_⟩
    rw [text, same, String.ofList_toList]

theorem text_sublist_braces :
    let template := "f($\x7b1:a$2\x7d) \\$\x7d"
    let snippet : Snippet :=
      ⟨[.text "f(", .placeholder 1 [.text "a", .tabstop 2], .text ") $\x7d"]⟩
    ofTemplate template = .ok snippet ∧ List.Sublist snippet.text.toList template.toList ∧
      '$' ∉ "a\x7d\n".toList ∧ '\\' ∉ "a\x7d\n".toList ∧
      ∃ snippet, ofTemplate "a\x7d\n" = .ok snippet ∧ snippet.text = "a\x7d\n" := by
  intro template snippet
  have found : ofTemplate template = .ok snippet := by decide +kernel
  have dollar : '$' ∉ "a\x7d\n".toList := by decide
  have backslash : '\\' ∉ "a\x7d\n".toList := by decide
  exact ⟨found, (text_sublist template).1 snippet found, dollar, backslash,
    (text_sublist "a\x7d\n").2 dollar backslash⟩

def IsLevelOf (level elements : List Element) : Prop :=
  level = elements ∨ ∃ index, .placeholder index level ∈ nodesAll elements

inductive ComesTo (cs : List Char) : (inside : Bool) → (position : Nat) → Prop
  | start : ComesTo cs false 0
  | behind {inside start element stop} (comes : ComesTo cs inside start)
      (reads : ReadsElement cs inside start element stop) : ComesTo cs inside stop
  | enter {inside start digits first} (comes : ComesTo cs inside start)
      (token : TokenAt cs start (.opening digits) first) : ComesTo cs true first

def TakenAt (cs : List Char) (start : Nat) (element : Element) (stop : Nat) : Prop :=
  ∃ inside, ComesTo cs inside start ∧ ReadsElement cs inside start element stop

mutual

theorem ReadsElement.takenAt {cs : List Char} {inside : Bool} {start stop : Nat}
    {element : Element} (reads : ReadsElement cs inside start element stop)
    (comes : ComesTo cs inside start) {index : Int} {children : List Element}
    (member : .placeholder index children ∈ element.nodes) :
    ∃ start stop, TakenAt cs start (.placeholder index children) stop := by
  cases reads with
  | text _ _ _ | tabstop _ _ => simp [nodes] at member
  | emptyDefault token value =>
      obtain ⟨rfl, rfl⟩ : index = _ ∧ children = [.text ""] := by
        simpa [nodes, nodesAll] using member
      exact ⟨start, stop, inside, comes, .emptyDefault token value⟩
  | placeholder token value default =>
      rcases List.mem_cons.1 member with here | inner
      · rw [here]
        exact ⟨start, _, inside, comes, .placeholder token value default⟩
      · exact default.takenAt (.enter comes token) inner

theorem ReadsLevel.takenAt {cs : List Char} {inside : Bool} {start stop : Nat}
    {elements : List Element} (reads : ReadsLevel cs inside start elements stop)
    (comes : ComesTo cs inside start) {index : Int} {children : List Element}
    (member : .placeholder index children ∈ nodesAll elements) :
    ∃ start stop, TakenAt cs start (.placeholder index children) stop := by
  cases reads with
  | stuck _ => cases member
  | cons first more =>
      rcases List.mem_append.1 member with own | later
      · exact first.takenAt comes own
      · exact more.takenAt (.behind comes first) later

end

theorem ReadsLevel.text_notMem {cs : List Char} {inside : Bool} {start stop : Nat}
    {elements : List Element} (reads : ReadsLevel cs inside start elements stop) :
    .text "" ∉ elements := by
  induction elements generalizing start with
  | nil => exact List.not_mem_nil
  | cons element rest ih =>
      cases reads with
      | cons first more =>
          refine List.not_mem_cons_of_ne_of_not_mem ?_ (ih more)
          cases first with
          | text _ nonempty _ => simpa using Ne.symm (mt String.ofList_eq_empty_iff.1 nonempty)
          | tabstop _ _ | emptyDefault _ _ | placeholder _ _ _ => simp

theorem ReadsLevel.not_adjacent {cs : List Char} {inside : Bool} {start stop : Nat}
    {elements : List Element} (reads : ReadsLevel cs inside start elements stop)
    (before : List Element) (v w : String) (after : List Element) :
    elements ≠ before ++ .text v :: .text w :: after := by
  induction before generalizing start elements with
  | nil =>
      rintro rfl
      cases reads with
      | cons first more => exact more.apart first ⟨w, rfl⟩ [] ⟨v, rfl⟩
  | cons element before ih =>
      rintro rfl
      cases reads with
      | cons _ more => exact ih more rfl

theorem ReadsElement.children_cases {cs : List Char} {inside : Bool} {start stop : Nat}
    {index : Int} {children : List Element}
    (reads : ReadsElement cs inside start (.placeholder index children) stop) :
    children = [.text ""] ∨ ∃ first last, ReadsLevel cs true first children last := by
  cases reads with
  | emptyDefault _ _ => exact .inl rfl
  | placeholder _ _ default => exact .inr ⟨_, _, default⟩

def BeginsEmptyDefault (cs rest : List Char) : Prop :=
  ∃ digits, IsNumber digits ∧ cs = '$' :: '\x7b' :: (digits ++ ':' :: '\x7d' :: rest)

theorem Begins.beginsEmptyDefault {cs rest digits : List Char}
    (begins : Begins cs (.emptyDefault digits) rest) : BeginsEmptyDefault cs rest := by
  cases begins with
  | emptyDefault isNumber => exact ⟨digits, isNumber, rfl⟩

theorem ReadsElement.text_mem_iff {cs : List Char} {inside : Bool} {start stop : Nat} {index : Int}
    {children : List Element}
    (reads : ReadsElement cs inside start (.placeholder index children) stop) :
    .text "" ∈ children ↔ BeginsEmptyDefault (cs.drop start) (cs.drop stop) := by
  cases reads with
  | emptyDefault token _ =>
      exact iff_of_true (List.mem_singleton_self _) token.begins.beginsEmptyDefault
  | placeholder token _ default =>
      refine iff_of_false default.text_notMem ?_
      rintro ⟨digits, isNumber, written⟩
      have opening := token.begins.tokens (Token.ne_stray_of_number rfl)
      rw [written, tokens_emptyDefault isNumber] at opening
      cases opening

/-- No level of a snippet has two texts side by side, and no text is empty but an only child of a
placeholder. Each placeholder is taken from a place that the reading comes to, and it has an empty
text just if an empty default text is written there. -/
theorem isLevelOf_ofTemplate {template : String} {snippet : Snippet}
    (reads : ofTemplate template = .ok snippet) :
    (∀ level, IsLevelOf level snippet.elements →
      ∀ before v w after, level ≠ before ++ .text v :: .text w :: after) ∧
    .text "" ∉ snippet.elements ∧
    ∀ index children, .placeholder index children ∈ nodesAll snippet.elements →
      (.text "" ∈ children → children = [.text ""]) ∧
      ∃ start stop, TakenAt template.toList start (.placeholder index children) stop ∧
        (.text "" ∈ children ↔
          BeginsEmptyDefault (template.toList.drop start) (template.toList.drop stop)) := by
  obtain ⟨stop, top⟩ := exists_readsLevel_of_ofTemplate reads
  refine ⟨?_, top.text_notMem, ?_⟩
  · rintro level (rfl | ⟨index, member⟩)
    · exact top.not_adjacent
    · obtain ⟨_, _, _, _, taken⟩ := top.takenAt .start member
      rcases taken.children_cases with rfl | ⟨_, _, default⟩
      · intro before v w after same
        have lengths := congrArg List.length same
        simp only [List.length_append, List.length_cons, List.length_nil] at lengths
        omega
      · exact default.not_adjacent
  · intro index children member
    obtain ⟨start, stop, inside, comes, taken⟩ := top.takenAt .start member
    refine ⟨fun empty => ?_, start, stop, ⟨inside, comes, taken⟩, taken.text_mem_iff⟩
    exact taken.children_cases.resolve_right fun ⟨_, _, default⟩ => default.text_notMem empty

theorem isLevelOf_ofTemplate_stray :
    let template := "x$\x7b1:a$b\x7dc$\x7b2:\x7d"
    let snippet : Snippet := ⟨[.text "x", .placeholder 1 [.text "a"], .text "b\x7dc",
      .placeholder 2 [.text ""]]⟩
    ofTemplate template = .ok snippet ∧ IsLevelOf snippet.elements snippet.elements ∧
      (∀ before v w after, snippet.elements ≠ before ++ .text v :: .text w :: after) ∧
      .placeholder 2 [.text ""] ∈ nodesAll snippet.elements ∧
      ∃ start stop, TakenAt template.toList start (.placeholder 2 [.text ""]) stop ∧
        BeginsEmptyDefault (template.toList.drop start) (template.toList.drop stop) := by
  intro template snippet
  have found : ofTemplate template = .ok snippet := by decide +kernel
  obtain ⟨apart, _, placeholders⟩ := isLevelOf_ofTemplate found
  have member : .placeholder 2 [.text ""] ∈ nodesAll snippet.elements := by
    simp [snippet, nodesAll, nodes]
  obtain ⟨_, start, stop, taken, written⟩ := placeholders 2 [.text ""] member
  exact ⟨found, .inl rfl, apart _ (.inl rfl), member, start, stop, taken,
    written.1 (List.mem_singleton_self _)⟩

end Autocomplete.Snippet
