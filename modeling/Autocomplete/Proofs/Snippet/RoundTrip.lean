import Autocomplete.Proofs.Snippet.Indices

namespace Autocomplete.Snippet

open Element

def IsLiteral (inside : Bool) (c : Char) : Prop :=
  c ≠ '$' ∧ c ≠ '\\' ∧ (inside = true → c ≠ '\x7d')

def StartsWithText (elements : List Element) : Prop := ∃ value, elements.head? = some (.text value)

def IsShort (index : Int) : Prop := (Number.digits index.natAbs).length ≤ Number.digitLimit

instance (index : Int) : Decidable (IsShort index) := inferInstanceAs (Decidable (_ ≤ _))

/-- The elements of a level that read back from their template; `inside` tells the children of a
placeholder from the elements at the top. -/
inductive IsCanonical : (inside : Bool) → List Element → Prop
  | nil {inside} : IsCanonical inside []
  | text {inside value rest} (nonempty : value ≠ "")
      (literal : ∀ c ∈ value.toList, IsLiteral inside c)
      (alone : ¬ StartsWithText rest)
      (canonical : IsCanonical inside rest) :
      IsCanonical inside (.text value :: rest)
  | tabstop {inside index rest} (short : IsShort index)
      (apart : ∀ value, rest.head? = some (.text value) → ¬ StartsWithDigit value.toList)
      (canonical : IsCanonical inside rest) :
      IsCanonical inside (.tabstop index :: rest)
  | emptyDefault {inside index rest} (short : IsShort index)
      (canonical : IsCanonical inside rest) :
      IsCanonical inside (.placeholder index [.text ""] :: rest)
  | placeholder {inside index children rest} (short : IsShort index) (nonempty : children ≠ [])
      (default : IsCanonical true children)
      (line : '\n' ∉ (templateAll children).takeWhile (· ≠ '\x7d'))
      (canonical : IsCanonical inside rest) :
      IsCanonical inside (.placeholder index children :: rest)

def Progress.append (progress : Progress) (elements : List Element) : Progress :=
  { progress with elements := elements.reverse ++ progress.elements }

theorem Progress.append_cons (progress : Progress) (element : Element) (elements : List Element) :
    progress.append (element :: elements) = (progress.push element).append elements := by
  simp [Progress.append, Progress.push]

theorem Progress.literal_of_text {progress : Progress} {value : String} {before : List Element}
    (text : progress.elements = .text value :: before) (c : Char) :
    progress.literal c = { progress with elements := .text (value.push c) :: before } := by
  simp [Progress.literal, text]

theorem Progress.literal_of_not_text {progress : Progress}
    (stop : ¬ StartsWithText progress.elements) (c : Char) :
    progress.literal c = progress.push (.text (String.singleton c)) := by
  obtain ⟨elements, levels⟩ := progress
  cases elements with
  | nil => rfl
  | cons element before =>
      cases element with
      | text value => exact absurd ⟨value, rfl⟩ stop
      | tabstop _ => rfl
      | placeholder _ _ => rfl

theorem not_startsWithText_nil : ¬ StartsWithText [] := nofun

theorem not_startsWithText_tabstop (index : Int) (elements : List Element) :
    ¬ StartsWithText (.tabstop index :: elements) := by
  simp [StartsWithText]

theorem not_startsWithText_placeholder (index : Int) (children elements : List Element) :
    ¬ StartsWithText (.placeholder index children :: elements) := by
  simp [StartsWithText]

theorem readTokens_append_brace (progress : Progress) (index : Int) (children : List Element)
    (rest : List Token) :
    readTokens ((progress.openLevel index).append children) (.brace :: rest) =
      readTokens (progress.push (.placeholder index children)) rest := by
  simp [readTokens, Progress.append, Progress.openLevel, Progress.push, Progress.closed]

section Text

variable {inside : Bool} {progress : Progress}
  (level : inside = false → progress.levels = []) (rest : List Char)

include level

theorem readTokens_literal {c : Char} (literal : IsLiteral inside c) :
    readTokens progress (tokens (c :: rest)) = readTokens (progress.literal c) (tokens rest) := by
  obtain ⟨dollar, backslash, brace⟩ := literal
  by_cases closing : c = '\x7d'
  · have top : progress.levels = [] := by
      apply level
      cases inside with
      | false => rfl
      | true => exact absurd closing (brace rfl)
    rw [closing, tokens_brace, readTokens, top]
  · rw [tokens_plain dollar closing backslash, readTokens]

theorem readTokens_literals {cs : List Char} (literal : ∀ c ∈ cs, IsLiteral inside c)
    {value : String} {before : List Element} (text : progress.elements = .text value :: before) :
    readTokens progress (tokens (cs ++ rest)) =
      readTokens { progress with elements := .text (value ++ String.ofList cs) :: before }
        (tokens rest) := by
  induction cs generalizing progress value with
  | nil =>
      rw [List.nil_append, String.ofList_nil, String.append_empty, ← text]
  | cons c cs ih =>
      rw [List.cons_append, readTokens_literal level _ (literal c List.mem_cons_self),
        Progress.literal_of_text text]
      have extended : value.push c ++ String.ofList cs = value ++ String.ofList (c :: cs) := by
        simp [← String.toList_inj]
      rw [← extended]
      let next : Progress := { progress with elements := .text (value.push c) :: before }
      have stillLevel : inside = false → next.levels = [] := level
      exact ih stillLevel (fun d member => literal d (List.mem_cons_of_mem _ member)) rfl

theorem readTokens_text {value : String} (nonempty : value ≠ "")
    (literal : ∀ c ∈ value.toList, IsLiteral inside c)
    (stop : ¬ StartsWithText progress.elements) :
    readTokens progress (tokens (value.toList ++ rest)) =
      readTokens (progress.push (.text value)) (tokens rest) := by
  obtain ⟨c, cs, chars⟩ := List.exists_cons_of_ne_nil (mt String.toList_eq_nil_iff.1 nonempty)
  rw [chars] at literal
  have whole : String.singleton c ++ String.ofList cs = value := by
    simp [← String.toList_inj, chars]
  rw [chars, List.cons_append, readTokens_literal level _ (literal c List.mem_cons_self),
    Progress.literal_of_not_text stop]
  let next := progress.push (.text (String.singleton c))
  have stillLevel : inside = false → next.levels = [] := level
  have others := readTokens_literals stillLevel rest
    (fun d member => literal d (List.mem_cons_of_mem _ member)) rfl
  rw [others, whole]
  rfl

end Text

theorem head?_templateAll {inside : Bool} {elements : List Element}
    (canonical : IsCanonical inside elements) (nonempty : elements ≠ []) (rest : List Char) :
    ∃ c, (templateAll elements ++ rest).head? = some c ∧ (c = '$' ∨ IsLiteral inside c ∧
      ∃ value, elements.head? = some (.text value) ∧ value.toList.head? = some c) := by
  cases canonical with
  | nil => exact absurd rfl nonempty
  | @text _ value elements filled literal alone canonical =>
      obtain ⟨c, cs, chars⟩ := List.exists_cons_of_ne_nil (mt String.toList_eq_nil_iff.1 filled)
      refine ⟨c, ?_, .inr ⟨literal c ?_, value, rfl, ?_⟩⟩
      · simp [templateAll, Element.template, chars]
      · simp [chars]
      · simp [chars]
  | tabstop _ _ _ => exact ⟨'$', by simp [templateAll, Element.template], .inl rfl⟩
  | emptyDefault _ _ => exact ⟨'$', by simp [templateAll, Element.template], .inl rfl⟩
  | placeholder _ _ _ _ _ => exact ⟨'$', by simp [templateAll, Element.template], .inl rfl⟩

theorem not_startsWithDigit_templateAll {inside : Bool} {elements : List Element}
    (canonical : IsCanonical inside elements)
    (apart : ∀ value, elements.head? = some (.text value) → ¬ StartsWithDigit value.toList)
    {rest : List Char} (boundary : ¬ StartsWithDigit rest) :
    ¬ StartsWithDigit (templateAll elements ++ rest) := by
  by_cases empty : elements = []
  · subst empty
    exact boundary
  · obtain ⟨c, head, first⟩ := head?_templateAll canonical empty rest
    rintro ⟨d, member, digit⟩
    obtain rfl : c = d := Option.some.inj (head.symm.trans member)
    rcases first with rfl | ⟨_, value, text, firstOfText⟩
    · exact absurd digit (by decide)
    · exact apart value text ⟨c, firstOfText, digit⟩

theorem ofDigits_decimal {index : Int} (short : IsShort index) (natural : 0 ≤ index) :
    ∃ n : Nat, index = n ∧ Number.decimal index = Number.digits n ∧
      Number.ofDigits (Number.digits n) = .ok n := by
  obtain ⟨n, rfl⟩ := Int.eq_ofNat_of_zero_le natural
  exact ⟨n, rfl, rfl, Number.ofDigits_digits short⟩

theorem readTokens_templateAll {inside : Bool} {elements : List Element}
    (canonical : IsCanonical inside elements)
    (natural : ∀ index ∈ indicesAll elements, 0 ≤ index) {progress : Progress}
    (level : inside = false → progress.levels = [])
    (stop : StartsWithText elements → ¬ StartsWithText progress.elements)
    {rest : List Char} (boundary : ¬ StartsWithDigit rest) :
    readTokens progress (tokens (templateAll elements ++ rest)) =
      readTokens (progress.append elements) (tokens rest) := by
  -- By the derivation, with all that may come before and after: the closing brace of a default text
  -- and the elements behind it are the rest of the template of its children.
  induction canonical generalizing progress rest with
  | nil => rfl
  | @text inside value elements nonempty literal alone canonical ih =>
      rw [templateAll, Element.template, List.append_assoc,
        readTokens_text level _ nonempty literal (stop ⟨value, rfl⟩), Progress.append_cons]
      refine ih natural ?_ ?_ boundary
      · exact level
      · intro text
        exact absurd text alone
  | @tabstop inside index elements short apart canonical ih =>
      rw [indicesAll, indices, List.singleton_append, List.forall_mem_cons] at natural
      obtain ⟨n, rfl, printed, value⟩ := ofDigits_decimal short natural.1
      have apart := not_startsWithDigit_templateAll canonical apart boundary
      rw [templateAll, Element.template, printed, List.cons_append, List.cons_append,
        List.append_assoc, tokens_tabstop n apart, readTokens, value, Progress.append_cons]
      refine ih natural.2 ?_ ?_ boundary
      · exact level
      · intro _
        exact not_startsWithText_tabstop n progress.elements
  | @emptyDefault inside index elements short canonical ih =>
      rw [indicesAll, indices, List.cons_append, List.forall_mem_cons] at natural
      obtain ⟨n, rfl, printed, value⟩ := ofDigits_decimal short natural.1
      have written : templateAll (.placeholder n [.text ""] :: elements) ++ rest =
          '$' :: '\x7b' :: (Number.digits n ++ ':' :: '\x7d' :: (templateAll elements ++ rest)) := by
        simp [templateAll, Element.template, printed]
      rw [written, tokens_emptyDefault (isNumber_digits n), readTokens, value, Progress.append_cons]
      refine ih natural.2 ?_ ?_ boundary
      · exact level
      · intro _
        exact not_startsWithText_placeholder n [.text ""] progress.elements
  | @placeholder inside index children elements short nonempty default line canonical ihDefault ih =>
      rw [indicesAll, indices, List.cons_append, List.forall_mem_cons, List.forall_mem_append]
        at natural
      obtain ⟨n, rfl, printed, value⟩ := ofDigits_decimal short natural.1
      let after := templateAll elements ++ rest
      have written : templateAll (.placeholder n children :: elements) ++ rest =
          '$' :: '\x7b' :: (Number.digits n ++ ':' :: (templateAll children ++ '\x7d' :: after)) := by
        simp [templateAll, Element.template, printed, after]
      have notEmpty : (templateAll children ++ '\x7d' :: after).head? ≠ some '\x7d' := by
        obtain ⟨c, head, first⟩ := head?_templateAll default nonempty ('\x7d' :: after)
        rw [head]
        rintro ⟨⟩
        rcases first with dollar | ⟨literal, _⟩
        · cases dollar
        · exact literal.2.2 rfl rfl
      have inner : readTokens (progress.openLevel n)
          (tokens (templateAll children ++ '\x7d' :: after)) =
            readTokens ((progress.openLevel n).append children) (tokens ('\x7d' :: after)) := by
        refine ihDefault natural.2.1 ?_ ?_ ?_
        · intro outside
          cases outside
        · intro _
          exact not_startsWithText_nil
        · exact not_startsWithDigit_brace after
      rw [written, tokens_opening (isNumber_digits n) notEmpty (closesOnLine_append line after),
        readTokens, value]
      dsimp only
      rw [inner, tokens_brace, readTokens_append_brace, Progress.append_cons]
      refine ih natural.2.2 ?_ ?_ boundary
      · exact level
      · intro _
        exact not_startsWithText_placeholder n children progress.elements

theorem readChars_templateAll {elements : List Element} (canonical : IsCanonical false elements)
    (natural : ∀ index ∈ indicesAll elements, 0 ≤ index) :
    readChars (templateAll elements) = .ok ⟨elements, [], 0⟩ := by
  have start : ({} : Progress).levels = [] ∧ ¬ StartsWithText ({} : Progress).elements :=
    ⟨rfl, not_startsWithText_nil⟩
  have whole := readTokens_templateAll canonical natural (fun _ => start.1) (fun _ => start.2)
    not_startsWithDigit_nil
  rw [List.append_nil] at whole
  rw [readChars, whole]
  simp [tokens, readTokens, Progress.append, Progress.finish]

/-- A canonical snippet reads back from its template, whole, unless an index is negative. -/
theorem read_template_iff {snippet : Snippet} (canonical : IsCanonical false snippet.elements) :
    ofTemplate snippet.template = .ok snippet ∧
        read snippet.template = .ok (snippet, snippet.template.length) ↔
      ∀ index ∈ indicesAll snippet.elements, 0 ≤ index := by
  have chars : snippet.template.toList = templateAll snippet.elements := String.toList_ofList
  constructor
  · rintro ⟨whole, _⟩
    rw [ofTemplate] at whole
    cases result : readChars snippet.template.toList with
    | error overflow => simp [result] at whole
    | ok reading =>
        have natural := isNatural_readChars result
        simp only [result, Except.ok.injEq] at whole
        rw [← whole]
        exact natural
  · intro natural
    have whole := readChars_templateAll canonical natural
    constructor
    · rw [ofTemplate, chars, whole]
    · rw [read, chars, whole]
      simp [stopOf, source, Snippet.template]

theorem read_template_nested :
    let snippet : Snippet := ⟨[.text "f(", .placeholder 1 [.placeholder 2 [.text ""], .text "\n9",
      .tabstop 3], .text "\x7d", .tabstop 0]⟩
    IsCanonical false snippet.elements ∧ ofTemplate snippet.template = .ok snippet ∧
      read snippet.template = .ok (snippet, snippet.template.length) := by
  intro snippet
  have default : IsCanonical true
      [.placeholder 2 [.text ""], .text "\n9", .tabstop 3] := by
    apply IsCanonical.emptyDefault (by decide)
    apply IsCanonical.text (by simp) (by simp [IsLiteral]) (not_startsWithText_tabstop _ _)
    exact .tabstop (by decide) nofun .nil
  have canonical : IsCanonical false snippet.elements := by
    apply IsCanonical.text (by simp) (by simp [IsLiteral]) (not_startsWithText_placeholder _ _ _)
    apply IsCanonical.placeholder (by decide) (by simp) default (by decide)
    apply IsCanonical.text (by simp) (by simp [IsLiteral]) (not_startsWithText_tabstop _ _)
    exact .tabstop (by decide) nofun .nil
  exact ⟨canonical, (read_template_iff canonical).2 (by decide)⟩

theorem read_template_negative :
    ¬ ∀ snippet : Snippet, IsCanonical false snippet.elements →
      ofTemplate snippet.template = .ok snippet ∧
        read snippet.template = .ok (snippet, snippet.template.length) := by
  intro all
  obtain ⟨whole, _⟩ := all ⟨[.tabstop (-1)]⟩ (.tabstop (by decide) nofun .nil)
  have chars : (Snippet.template ⟨[.tabstop (-1)]⟩).toList = ['$', '-', '1'] := by decide +kernel
  have dollar : Token.next '$' ['-', '1'] = (.stray '$', ['-', '1']) := by decide
  have unread : ofTemplate (Snippet.template ⟨[.tabstop (-1)]⟩) = .ok ⟨[]⟩ := by
    rw [ofTemplate, chars, readChars, tokens_cons, dollar]
    rfl
  rw [unread] at whole
  cases whole

end Autocomplete.Snippet
