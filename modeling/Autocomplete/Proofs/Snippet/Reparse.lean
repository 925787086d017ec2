import Autocomplete.Proofs.Snippet.Steps

/-!
# Templates that are written anew

The template of a snippet that was read writes literal characters without their escapes, tabstops
without their braces, and the closing braces that were missing. It reads as the same snippet just if
the snippet is canonical.
-/

namespace Autocomplete.Snippet

open Element

def ReadsBack (depth : Nat) (steps : List Step) : Prop := Takes depth (templateOf steps) steps

theorem startsWithDigit_digits (n : Nat) (rest : List Char) :
    StartsWithDigit (Number.digits n ++ rest) := by
  obtain ⟨c, cs, digits⟩ := List.exists_cons_of_ne_nil (Number.digits_ne_nil n)
  rw [digits, List.cons_append, startsWithDigit_cons]
  apply Number.isDigit_of_mem_digits (n := n)
  rw [digits]
  exact List.mem_cons_self

theorem digits_colon_inj {n : Nat} {digits a b : List Char} (isNumber : IsNumber digits)
    (same : Number.digits n ++ ':' :: a = digits ++ ':' :: b) : Number.digits n = digits ∧ a = b := by
  obtain ⟨index, rest⟩ := number_append_inj (isNumber_digits n) isNumber
    (not_startsWithDigit_colon a) (not_startsWithDigit_colon b) same
  exact ⟨index, (List.cons.inj rest).2⟩

theorem not_isDigit_of_isSpecial {c : Char} (special : isSpecial c) : ¬ c.isDigit := by
  simp only [isSpecial, Bool.or_eq_true, beq_iff_eq] at special
  rcases special with (rfl | rfl) | rfl <;> decide

theorem steps_of_templateOf {steps : List Step} {c : Char} {cs : List Char} (dollar : c ≠ '$')
    (brace : c ≠ '\x7d') (written : templateOf steps = c :: cs) :
    ∃ rest, steps = .literal c :: rest ∧ templateOf rest = cs := by
  cases steps with
  | nil => cases written
  | cons step rest =>
      rw [templateOf_cons] at written
      cases step with
      | literal d =>
          obtain ⟨rfl, rest_eq⟩ := List.cons.inj written
          exact ⟨rest, rfl, rest_eq⟩
      | tabstop _ => exact absurd (List.cons.inj written).1.symm dollar
      | emptyDefault _ => exact absurd (List.cons.inj written).1.symm dollar
      | opening _ => exact absurd (List.cons.inj written).1.symm dollar
      | closing => exact absurd (List.cons.inj written).1.symm brace

theorem Takes.of_literal {depth : Nat} {cs : List Char} {c : Char} {steps : List Step}
    (takes : Takes depth cs (.literal c :: steps)) :
    ∃ rest, Takes depth rest steps ∧
      (cs = c :: rest ∧ c ≠ '$' ∧ c ≠ '\\' ∧ (0 < depth → c ≠ '\x7d') ∨
        cs = '\\' :: c :: rest ∧ isSpecial c) := by
  cases takes with
  | plain begins takes =>
      cases begins with
      | plain dollar brace backslash => exact ⟨_, takes, .inl ⟨rfl, dollar, backslash, fun _ => brace⟩⟩
  | escaped begins takes =>
      cases begins with
      | escaped special => exact ⟨_, takes, .inr ⟨rfl, special⟩⟩
  | brace begins takes =>
      cases begins with
      | brace => exact ⟨_, takes, .inl ⟨rfl, by decide, by decide, fun inside => nomatch inside⟩⟩

theorem not_takes_backslashes {depth : Nat} (steps : List Step) (k : Nat) :
    ¬ Takes depth (templateOf steps) (List.replicate (k + 1) (.literal '\\') ++ steps) := by
  intro takes
  rw [List.replicate_succ, List.cons_append] at takes
  obtain ⟨rest, takes, ⟨_, _, other, _⟩ | ⟨written, _⟩⟩ := takes.of_literal
  · exact other rfl
  · obtain ⟨first, rfl, next⟩ := steps_of_templateOf (by decide) (by decide) written
    obtain ⟨second, rfl, rfl⟩ := steps_of_templateOf (by decide) (by decide) next
    -- Two characters are gone for one step, so one more backslash is owed by what is left.
    rw [List.append_cons, ← List.replicate_succ', List.append_cons, ← List.replicate_succ'] at takes
    exact not_takes_backslashes second (k + 1) takes
termination_by steps.length

namespace ReadsBack

variable {depth : Nat} {steps : List Step}

theorem of_literal {c : Char} (reads : ReadsBack depth (.literal c :: steps)) {inside : Bool}
    (level : inside = true → 0 < depth) : IsLiteral inside c ∧ ReadsBack depth steps := by
  obtain ⟨rest, takes, ⟨written, dollar, backslash, brace⟩ | ⟨written, _⟩⟩ := Takes.of_literal reads
  · obtain rfl : templateOf steps = rest := (List.cons.inj written).2
    exact ⟨⟨dollar, backslash, fun within => brace (level within)⟩, takes⟩
  · obtain ⟨rfl, written⟩ := List.cons.inj written
    obtain ⟨first, rfl, rfl⟩ := steps_of_templateOf (by decide) (by decide) written
    exact absurd takes (not_takes_backslashes first 0)

theorem of_literals {cs : List Char} (reads : ReadsBack depth (cs.map .literal ++ steps))
    {inside : Bool} (level : inside = true → 0 < depth) :
    (∀ c ∈ cs, IsLiteral inside c) ∧ ReadsBack depth steps := by
  induction cs with
  | nil => exact ⟨nofun, reads⟩
  | cons c cs ih =>
      obtain ⟨literal, reads⟩ := of_literal reads level
      obtain ⟨literals, reads⟩ := ih reads
      exact ⟨List.forall_mem_cons.2 ⟨literal, literals⟩, reads⟩

theorem of_tabstop {index : Int} (reads : ReadsBack depth (.tabstop index :: steps)) :
    IsShort index ∧ ¬ StartsWithDigit (templateOf steps) ∧ ReadsBack depth steps := by
  unfold ReadsBack at reads
  generalize written : templateOf (.tabstop index :: steps) = cs at reads
  cases reads with
  | @tabstop _ _ digits _ rest _ n begins value takes =>
      cases begins with
      | tabstop isNumber boundary =>
          have same : Number.digits n ++ templateOf steps = digits ++ rest :=
            (List.cons.inj written).2
          -- The tabstop would take the digit, which is a literal character of its own.
          have apart : ¬ StartsWithDigit (templateOf steps) := by
            rintro ⟨c, first, digit⟩
            obtain ⟨others, written⟩ := List.head?_eq_some_iff.1 first
            obtain ⟨later, rfl, _⟩ := steps_of_templateOf (by rintro rfl; cases digit)
              (by rintro rfl; cases digit) written
            obtain ⟨_, _, ⟨rfl, _⟩ | ⟨_, special⟩⟩ := takes.of_literal
            · exact boundary ((startsWithDigit_cons c _).2 digit)
            · exact not_isDigit_of_isSpecial special digit
          obtain ⟨rfl, rfl⟩ := number_append_inj (isNumber_digits n) isNumber apart boundary same
          exact ⟨length_of_ofDigits value, apart, takes⟩
      | braced _ =>
          have same := (List.cons.inj written).2
          have starts := startsWithDigit_digits n (templateOf steps)
          rw [show Number.digits n ++ templateOf steps = _ from same, startsWithDigit_cons] at starts
          cases starts

theorem of_emptyDefault {index : Int} (reads : ReadsBack depth (.emptyDefault index :: steps)) :
    IsShort index ∧ ReadsBack depth steps := by
  unfold ReadsBack at reads
  generalize written : templateOf (.emptyDefault index :: steps) = cs at reads
  cases reads with
  | @emptyDefault _ _ digits rest _ n begins value takes =>
      cases begins with
      | emptyDefault isNumber =>
          have same : Number.digits n ++ ':' :: '\x7d' :: templateOf steps =
              digits ++ ':' :: '\x7d' :: rest := by
            simpa [templateOf_cons, Step.template, Number.decimal] using written
          obtain ⟨rfl, closed⟩ := digits_colon_inj isNumber same
          obtain rfl := (List.cons.inj closed).2
          exact ⟨length_of_ofDigits value, takes⟩

theorem of_opening {index : Int} (reads : ReadsBack depth (.opening index :: steps)) :
    IsShort index ∧ (templateOf steps).head? ≠ some '\x7d' ∧
      Token.closesOnLine (templateOf steps) ∧ ReadsBack (depth + 1) steps := by
  unfold ReadsBack at reads
  generalize written : templateOf (.opening index :: steps) = cs at reads
  cases reads with
  | @opening _ _ digits rest _ n begins value takes =>
      cases begins with
      | opening isNumber nonempty closes =>
          have same : Number.digits n ++ ':' :: templateOf steps = digits ++ ':' :: rest := by
            simpa [templateOf_cons, Step.template, Number.decimal] using written
          obtain ⟨rfl, rfl⟩ := digits_colon_inj isNumber same
          exact ⟨length_of_ofDigits value, nonempty, closes, takes⟩

theorem of_closing (reads : ReadsBack (depth + 1) (.closing :: steps)) : ReadsBack depth steps := by
  unfold ReadsBack at reads
  generalize written : templateOf (.closing :: steps) = cs at reads
  cases reads with
  | unclosed takes => cases written
  | closing begins takes =>
      cases begins with
      | brace =>
          obtain rfl := (List.cons.inj written).2
          exact takes
  | dropped begins takes =>
      cases begins with
      | stray stop =>
          obtain rfl := (List.cons.inj written).1
          rcases stop with dollar | backslash
          · cases dollar
          · cases backslash

theorem canonical {elements : List Element} (normal : IsNormal elements) {inside : Bool}
    (level : inside = true → 0 < depth)
    (reads : ReadsBack depth (stepsAll elements ++ steps)) :
    IsCanonical inside elements ∧ ReadsBack depth steps := by
  -- The steps behind the elements are carried along: inside a default text they begin with the
  -- closing brace.
  induction normal generalizing inside depth steps with
  | nil => exact ⟨.nil, reads⟩
  | text nonempty alone _ ih =>
      rw [stepsAll, Element.steps, List.append_assoc] at reads
      obtain ⟨literal, reads⟩ := reads.of_literals level
      obtain ⟨canonical, reads⟩ := ih level reads
      exact ⟨.text nonempty literal alone canonical, reads⟩
  | @tabstop index rest _ ih =>
      rw [stepsAll, Element.steps, List.append_assoc, List.singleton_append] at reads
      obtain ⟨short, boundary, reads⟩ := of_tabstop reads
      obtain ⟨canonical, reads⟩ := ih level reads
      refine ⟨.tabstop short ?_ canonical, reads⟩
      rintro value text ⟨c, first, digit⟩
      obtain ⟨others, rfl⟩ := List.head?_eq_some_iff.1 text
      obtain ⟨cs, chars⟩ := List.head?_eq_some_iff.1 first
      apply boundary
      refine ⟨c, ?_, digit⟩
      rw [templateOf_append, templateOf_stepsAll, templateAll, Element.template, chars]
      exact rfl
  | emptyDefault _ ih =>
      rw [stepsAll, Element.steps, if_pos rfl] at reads
      obtain ⟨short, reads⟩ := of_emptyDefault reads
      obtain ⟨canonical, reads⟩ := ih level reads
      exact ⟨.emptyDefault short canonical, reads⟩
  | @placeholder index children rest default _ ihDefault ih =>
      rw [stepsAll, Element.steps, if_neg default.ne_empty, List.cons_append, List.cons_append,
        List.append_assoc, List.append_assoc, List.singleton_append] at reads
      obtain ⟨short, notEmpty, closes, reads⟩ := of_opening reads
      rw [templateOf_append, templateOf_stepsAll] at notEmpty closes
      obtain ⟨canonicalDefault, reads⟩ := ihDefault (fun _ => Nat.succ_pos depth) reads
      obtain ⟨canonical, reads⟩ := ih level reads.of_closing
      refine ⟨.placeholder short ?_ canonicalDefault ?_ canonical, reads⟩
      · rintro rfl
        exact notEmpty rfl
      · exact newline_notMem_of_closesOnLine closes

end ReadsBack

theorem readChars_of_ofTemplate {template : String} {snippet : Snippet}
    (read : ofTemplate template = .ok snippet) :
    ∃ reading, readChars template.toList = .ok reading ∧ reading.elements = snippet.elements := by
  unfold ofTemplate at read
  cases result : readChars template.toList with
  | error overflow => simp [result] at read
  | ok reading =>
      rw [result] at read
      exact ⟨reading, rfl, congrArg Snippet.elements (Except.ok.inj read)⟩

/-- A template that is written anew from what was read of another one reads as the same snippet just
if the snippet is canonical. -/
theorem ofTemplate_template_iff {template : String} {snippet : Snippet}
    (read : ofTemplate template = .ok snippet) :
    ofTemplate snippet.template = .ok snippet ↔ IsCanonical false snippet.elements := by
  have chars : snippet.template.toList = templateAll snippet.elements := String.toList_ofList
  obtain ⟨reading, first, same⟩ := readChars_of_ofTemplate read
  constructor
  · intro again
    have normal : IsNormal snippet.elements := same ▸ isNormal_readChars first
    obtain ⟨whole, second, equal⟩ := readChars_of_ofTemplate again
    obtain ⟨steps, takes, taken⟩ := takes_of_readTokens .start second
    have reads : ReadsBack 0 (stepsAll snippet.elements ++ []) := by
      rw [List.append_nil, ReadsBack, templateOf_stepsAll, ← chars, ← equal, taken]
      exact takes
    have top : false = true → 0 < 0 := nofun
    exact (ReadsBack.canonical normal top reads).1
  · intro canonical
    have natural : IsNatural snippet.elements := same ▸ isNatural_readChars first
    rw [ofTemplate, chars, readChars_templateAll canonical natural]

theorem ofTemplate_template_iff_dropped :
    let snippet : Snippet := ⟨[.tabstop 1, .text " "]⟩
    ofTemplate "$\x7b1\x7d $" = .ok snippet ∧ IsCanonical false snippet.elements ∧
      snippet.template = "$1 " ∧ ofTemplate "$1 " = .ok snippet := by
  intro snippet
  have chars : "$\x7b1\x7d $".toList = ['$', '\x7b', '1', '\x7d', ' ', '$'] := by decide
  have braced : Token.next '$' ['\x7b', '1', '\x7d', ' ', '$'] =
      (.tabstop ['1'] true, [' ', '$']) := by decide
  have stray : Token.next '$' [] = (.stray '$', []) := by decide
  have first : ofTemplate "$\x7b1\x7d $" = .ok snippet := by
    rw [ofTemplate, chars, readChars, tokens_cons, braced,
      tokens_plain (by decide) (by decide) (by decide), tokens_cons, stray, tokens]
    rfl
  have canonical : IsCanonical false snippet.elements := by
    apply IsCanonical.tabstop (by decide) (by simp [startsWithDigit_cons])
    exact .text (by simp) (by simp [IsLiteral]) not_startsWithText_nil .nil
  have written : snippet.template = "$1 " := by decide +kernel
  refine ⟨first, canonical, written, ?_⟩
  rw [← written]
  exact (ofTemplate_template_iff first).2 canonical

theorem ofTemplate_template_braced :
    ¬ ∀ (template : String) (snippet : Snippet), ofTemplate template = .ok snippet →
      ofTemplate snippet.template = .ok snippet := by
  intro all
  have braced : Token.next '$' ['\x7b', '1', '\x7d', '2'] = (.tabstop ['1'] true, ['2']) := by
    decide
  have first : ofTemplate "$\x7b1\x7d2" = .ok ⟨[.tabstop 1, .text "2"]⟩ := by
    have chars : "$\x7b1\x7d2".toList = ['$', '\x7b', '1', '\x7d', '2'] := by decide
    rw [ofTemplate, chars, readChars, tokens_cons, braced,
      tokens_plain (by decide) (by decide) (by decide), tokens]
    rfl
  have joined : Token.next '$' ['1', '2'] = (.tabstop ['1', '2'] false, []) := by decide
  have again : ofTemplate (Snippet.template ⟨[.tabstop 1, .text "2"]⟩) = .ok ⟨[.tabstop 12]⟩ := by
    have chars : (Snippet.template ⟨[.tabstop 1, .text "2"]⟩).toList = ['$', '1', '2'] := by
      decide +kernel
    rw [ofTemplate, chars, readChars, tokens_cons, joined, tokens]
    rfl
  have same := again.symm.trans (all _ _ first)
  cases same

end Autocomplete.Snippet
