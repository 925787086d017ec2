import Autocomplete.Proofs.Snippet.RoundTrip
import Autocomplete.Snippet.Builder
import Mathlib.Algebra.Group.Nat.Defs

namespace Autocomplete.Snippet

inductive Piece where
  | text (value : String)
  | tabstop
  | finalTabstop
  | skip
  | literal (value : String)
  | nested (pieces : List Piece)
  deriving Repr

namespace Piece

def isNumbered : Piece → Bool
  | text _ | finalTabstop => false
  | tabstop | skip | literal _ | nested _ => true

def after (n : Nat) : Piece → Nat
  | text _ | finalTabstop => n
  | tabstop | skip | literal _ | nested _ => n + 1

def nextText : List Piece → Option String
  | text value :: rest => if value = "" then nextText rest else some value
  | skip :: rest => nextText rest
  | _ => none

end Piece

mutual

def Builder.add (builder : Builder) : Piece → Builder
  | .text value => builder.addText value
  | .tabstop => builder.addTabstop
  | .finalTabstop => builder.addFinalTabstop
  | .skip => builder.take.2
  | .literal value => builder.addLiteralPlaceholder value
  | .nested pieces => builder.addPlaceholder (Builder.addAll {} pieces).template

def Builder.addAll (builder : Builder) : List Piece → Builder
  | [] => builder
  | piece :: rest => (builder.add piece).addAll rest

end

def textBefore (value : String) (elements : List Element) : List Element :=
  if value = "" then elements
  else match elements with
    | .text next :: rest => .text (value ++ next) :: rest
    | _ => .text value :: elements

def childrenOf (elements : List Element) : List Element :=
  if elements = [] then [.text ""] else elements

mutual

/-- What a piece stands for, with the elements of the pieces after it; its stop has the number `n`. -/
def Piece.elements (n : Nat) (later : List Element) : Piece → List Element
  | .text value => textBefore value later
  | .tabstop => .tabstop n :: later
  | .finalTabstop => .tabstop 0 :: later
  | .skip => later
  | .literal value => .placeholder n [.text value] :: later
  | .nested pieces => .placeholder n (childrenOf (elementsFrom 1 pieces)) :: later

def elementsFrom (n : Nat) : List Piece → List Element
  | [] => []
  | piece :: rest => piece.elements n (elementsFrom (piece.after n) rest)

end

def ClosesOnLine (cs : List Char) : Prop := '\n' ∉ cs.takeWhile (· ≠ '\x7d')

instance (cs : List Char) : Decidable (ClosesOnLine cs) := inferInstanceAs (Decidable (_ ∉ _))

def IsApart (rest : List Piece) : Prop :=
  ∀ value, Piece.nextText rest = some value → ¬ StartsWithDigit value.toList

/-- The pieces that may be appended when the next stop gets the number `n`. -/
inductive IsReadable : (n : Nat) → List Piece → Prop
  | nil {n} : IsReadable n []
  | text {n value rest} (readable : IsReadable n rest) : IsReadable n (.text value :: rest)
  | tabstop {n rest} (short : n < 10 ^ Number.digitLimit) (apart : IsApart rest)
      (readable : IsReadable (n + 1) rest) : IsReadable n (.tabstop :: rest)
  | finalTabstop {n rest} (apart : IsApart rest) (readable : IsReadable n rest) :
      IsReadable n (.finalTabstop :: rest)
  | skip {n rest} (readable : IsReadable (n + 1) rest) : IsReadable n (.skip :: rest)
  | literal {n value rest} (short : n < 10 ^ Number.digitLimit)
      (line : ClosesOnLine value.toList) (readable : IsReadable (n + 1) rest) :
      IsReadable n (.literal value :: rest)
  | nested {n pieces rest} (short : n < 10 ^ Number.digitLimit) (inner : IsReadable 1 pieces)
      (line : ClosesOnLine (Builder.addAll {} pieces).template.toList)
      (readable : IsReadable (n + 1) rest) : IsReadable n (.nested pieces :: rest)

/-! ## The template -/

def placeholderChars (n : Nat) (content : List Char) : List Char :=
  '$' :: '\x7b' :: Number.digits n ++ ':' :: content ++ ['\x7d']

def Piece.written (n : Nat) : Piece → List Char
  | text value => escapeChars value.toList
  | tabstop => '$' :: Number.digits n
  | finalTabstop => ['$', '0']
  | skip => []
  | literal value => placeholderChars n (escapeChars value.toList)
  | nested pieces => placeholderChars n (Builder.addAll {} pieces).template.toList

def writtenFrom (n : Nat) : List Piece → List Char
  | [] => []
  | piece :: rest => piece.written n ++ writtenFrom (piece.after n) rest

theorem next_add (builder : Builder) (piece : Piece) :
    (builder.add piece).next = piece.after builder.next := by
  cases piece <;> rfl

theorem toList_template_add (builder : Builder) (piece : Piece) :
    (builder.add piece).template.toList =
      builder.template.toList ++ piece.written builder.next := by
  cases piece <;>
    simp [Builder.add, Builder.addText, Builder.addTabstop, Builder.addFinalTabstop, Builder.take,
      Builder.addLiteralPlaceholder, Builder.addPlaceholder, Builder.append, Piece.written,
      placeholderChars, escape]

theorem toList_template_addAll (builder : Builder) (pieces : List Piece) :
    (builder.addAll pieces).template.toList =
      builder.template.toList ++ writtenFrom builder.next pieces := by
  induction pieces generalizing builder with
  | nil => simp [Builder.addAll, writtenFrom]
  | cons piece rest ih =>
      simp [Builder.addAll, writtenFrom, ih, toList_template_add, next_add]

theorem toList_template_build (pieces : List Piece) :
    (Builder.addAll {} pieces).template.toList = writtenFrom 1 pieces := by
  simp [toList_template_addAll]

theorem next_addAll (builder : Builder) (pieces : List Piece) :
    (builder.addAll pieces).next = builder.next + pieces.countP Piece.isNumbered := by
  induction pieces generalizing builder with
  | nil => rfl
  | cons piece rest ih =>
      rw [Builder.addAll, ih, next_add, List.countP_cons]
      cases piece <;> simp [Piece.after, Piece.isNumbered] <;> omega

/-! ## Texts -/

theorem tokens_escaped {c : Char} (special : isSpecial c) (rest : List Char) :
    tokens ('\\' :: c :: rest) = .escaped c :: tokens rest := by
  simp [tokens_cons, Token.next, special]

theorem readTokens_escapeChar (progress : Progress) (c : Char) (rest : List Char) :
    readTokens progress (tokens (escapeChar c ++ rest)) =
      readTokens (progress.literal c) (tokens rest) := by
  unfold escapeChar
  split
  · next special =>
    rw [List.cons_append, List.cons_append, List.nil_append, tokens_escaped special, readTokens]
  · next plain =>
    obtain ⟨⟨dollar, backslash⟩, brace⟩ : (c ≠ '$' ∧ c ≠ '\\') ∧ c ≠ '\x7d' := by
      simpa [isSpecial] using plain
    rw [List.cons_append, List.nil_append, tokens_plain dollar brace backslash, readTokens]

def Progress.literals (progress : Progress) (cs : List Char) : Progress :=
  cs.foldl Progress.literal progress

theorem readTokens_escapeChars (progress : Progress) (cs rest : List Char) :
    readTokens progress (tokens (escapeChars cs ++ rest)) =
      readTokens (progress.literals cs) (tokens rest) := by
  induction cs generalizing progress with
  | nil => rfl
  | cons c cs ih =>
      rw [escapeChars_cons, List.append_assoc, readTokens_escapeChar, ih]
      rfl

theorem Progress.literals_of_text {progress : Progress} {value : String} {before : List Element}
    (text : progress.elements = .text value :: before) (cs : List Char) :
    progress.literals cs =
      { progress with elements := .text (value ++ String.ofList cs) :: before } := by
  induction cs generalizing progress value with
  | nil => simp [literals, ← text]
  | cons c cs ih =>
      have extended : value.push c ++ String.ofList cs = value ++ String.ofList (c :: cs) := by
        simp [← String.toList_inj]
      change (progress.literal c).literals cs = _
      rw [ih (by rw [literal_of_text text]), literal_of_text text, extended]

theorem Progress.literals_of_not_text {progress : Progress}
    (stop : ¬ StartsWithText progress.elements) {value : String} (nonempty : value ≠ "") :
    progress.literals value.toList = progress.push (.text value) := by
  obtain ⟨c, cs, chars⟩ := List.exists_cons_of_ne_nil (mt String.toList_eq_nil_iff.1 nonempty)
  have whole : String.singleton c ++ String.ofList cs = value := by
    simp [← String.toList_inj, chars]
  rw [chars]
  change (progress.literal c).literals cs = _
  rw [literal_of_not_text stop, literals_of_text rfl, whole]
  rfl

theorem Progress.literals_append (progress : Progress) (cs ds : List Char) :
    progress.literals (cs ++ ds) = (progress.literals cs).literals ds := List.foldl_append

def Progress.join (progress : Progress) : List Element → Progress
  | .text value :: rest => (progress.literals value.toList).append rest
  | elements => progress.append elements

theorem Progress.join_textBefore (progress : Progress) (value : String) (elements : List Element) :
    (progress.literals value.toList).join elements = progress.join (textBefore value elements) := by
  unfold textBefore
  by_cases empty : value = ""
  · rw [if_pos empty, empty]
    rfl
  · rw [if_neg empty]
    cases elements with
    | nil => rfl
    | cons element rest =>
        cases element with
        | text next => simp [join, literals_append]
        | tabstop _ => rfl
        | placeholder _ _ => rfl

theorem Progress.join_of_not_text {progress : Progress}
    (stop : ¬ StartsWithText progress.elements) {elements : List Element}
    (filled : elements.head? ≠ some (.text "")) : progress.join elements = progress.append elements := by
  cases elements with
  | nil => rfl
  | cons element rest =>
      cases element with
      | text value =>
          have nonempty : value ≠ "" := by simpa using filled
          rw [append_cons, join, literals_of_not_text stop nonempty]
      | tabstop _ => rfl
      | placeholder _ _ => rfl

theorem Progress.join_push {progress : Progress} {element : Element}
    (stop : ¬ StartsWithText (progress.push element).elements) {elements : List Element}
    (filled : elements.head? ≠ some (.text "")) :
    (progress.push element).join elements = progress.join (element :: elements) := by
  rw [join_of_not_text stop filled, ← append_cons]
  cases element with
  | text value => exact absurd ⟨value, rfl⟩ stop
  | tabstop _ => rfl
  | placeholder _ _ => rfl

theorem head?_textBefore {value : String} {elements : List Element}
    (filled : elements.head? ≠ some (.text "")) :
    (textBefore value elements).head? ≠ some (.text "") := by
  unfold textBefore
  split
  · exact filled
  · next nonempty =>
    split <;> simp [nonempty]

theorem head?_elementsFrom (n : Nat) (pieces : List Piece) :
    (elementsFrom n pieces).head? ≠ some (.text "") := by
  induction pieces generalizing n with
  | nil => simp [elementsFrom]
  | cons piece rest ih =>
      cases piece with
      | text value => exact head?_textBefore (ih _)
      | skip => exact ih _
      | tabstop | finalTabstop | literal _ | nested _ => simp [elementsFrom, Piece.elements]

theorem textBefore_eq_nil_iff {value : String} {elements : List Element} :
    textBefore value elements = [] ↔ value = "" ∧ elements = [] := by
  unfold textBefore
  split
  · simp [*]
  · split <;> simp [*]

theorem escapeChar_ne_nil (c : Char) : escapeChar c ≠ [] := by
  unfold escapeChar
  split <;> simp

theorem escapeChars_toList_eq_nil_iff {value : String} :
    escapeChars value.toList = [] ↔ value = "" := by
  rw [← String.toList_eq_nil_iff]
  cases value.toList with
  | nil => simp
  | cons c cs => simp [escapeChar_ne_nil]

theorem elementsFrom_eq_nil_iff (n : Nat) (pieces : List Piece) :
    elementsFrom n pieces = [] ↔ writtenFrom n pieces = [] := by
  induction pieces generalizing n with
  | nil => simp [elementsFrom, writtenFrom]
  | cons piece rest ih =>
      cases piece <;>
        simp [elementsFrom, writtenFrom, Piece.elements, Piece.written, Piece.after,
          textBefore_eq_nil_iff, placeholderChars, ih, escapeChars_toList_eq_nil_iff]

/-! ## What a template begins with -/

theorem head?_writtenFrom (n : Nat) (pieces : List Piece) :
    writtenFrom n pieces = [] ∨ (writtenFrom n pieces).head? = some '$' ∨
      ∃ value c, Piece.nextText pieces = some value ∧ value.toList.head? = some c ∧
        (writtenFrom n pieces).head? = (escapeChar c).head? := by
  induction pieces generalizing n with
  | nil => exact .inl rfl
  | cons piece rest ih =>
      cases piece with
      | text value =>
          by_cases empty : value = ""
          · rw [empty]
            exact ih n
          · obtain ⟨c, cs, chars⟩ :=
              List.exists_cons_of_ne_nil (mt String.toList_eq_nil_iff.1 empty)
            refine .inr (.inr ⟨value, c, by simp [Piece.nextText, empty], by simp [chars], ?_⟩)
            obtain ⟨d, ds, first⟩ := List.exists_cons_of_ne_nil (escapeChar_ne_nil c)
            simp [writtenFrom, Piece.written, chars, first]
      | skip => exact ih (n + 1)
      | tabstop | finalTabstop | literal _ | nested _ => exact .inr (.inl rfl)

theorem head?_escapeChar_ne_brace (c : Char) : (escapeChar c).head? ≠ some '\x7d' := by
  unfold escapeChar
  split
  · simp
  · next plain =>
    rintro ⟨⟩
    exact plain rfl

theorem head?_writtenFrom_ne_brace (n : Nat) (pieces : List Piece) :
    (writtenFrom n pieces).head? ≠ some '\x7d' := by
  rcases head?_writtenFrom n pieces with empty | stop | ⟨_, c, _, _, text⟩
  · simp [empty]
  · simp [stop]
  · rw [text]
    exact head?_escapeChar_ne_brace c

theorem not_startsWithDigit_writtenFrom {n : Nat} {pieces : List Piece} (apart : IsApart pieces)
    {rest : List Char} (boundary : ¬ StartsWithDigit rest) :
    ¬ StartsWithDigit (writtenFrom n pieces ++ rest) := by
  rintro ⟨d, first, digit⟩
  rcases head?_writtenFrom n pieces with empty | stop | ⟨value, c, next, head, text⟩
  · rw [empty] at first
    exact boundary ⟨d, first, digit⟩
  · rw [List.head?_append, stop] at first
    cases first
    cases digit
  · rw [List.head?_append, text] at first
    refine apart value next ⟨c, head, ?_⟩
    unfold escapeChar at first
    split at first
    · cases first
      cases digit
    · cases first
      exact digit

/-! ## Reading -/

theorem closesOnLine_escapeChars (cs : List Char) :
    ClosesOnLine (escapeChars cs) ↔ ClosesOnLine cs := by
  unfold ClosesOnLine
  induction cs with
  | nil => rfl
  | cons c cs ih =>
      by_cases brace : c = '\x7d'
      · simp [brace, escapeChar, isSpecial]
      · by_cases special : isSpecial c <;> simp_all [escapeChar]

theorem length_digits_le_iff {n : Nat} :
    (Number.digits n).length ≤ Number.digitLimit ↔ n < 10 ^ Number.digitLimit :=
  Nat.length_toDigits_le_iff (by decide) (by decide)

theorem ofDigits_digits_of_lt {n : Nat} (short : n < 10 ^ Number.digitLimit) :
    Number.ofDigits (Number.digits n) = .ok n :=
  Number.ofDigits_digits (length_digits_le_iff.2 short)

theorem readTokens_nested {n : Nat} (short : n < 10 ^ Number.digitLimit) {pieces : List Piece}
    (line : ClosesOnLine (writtenFrom 1 pieces))
    (inner : ∀ progress {rest : List Char}, ¬ StartsWithDigit rest →
      readTokens progress (tokens (writtenFrom 1 pieces ++ rest)) =
        readTokens (progress.join (elementsFrom 1 pieces)) (tokens rest))
    (progress : Progress) (rest : List Char) :
    readTokens progress (tokens (placeholderChars n (writtenFrom 1 pieces) ++ rest)) =
      readTokens (progress.push (.placeholder n (childrenOf (elementsFrom 1 pieces))))
        (tokens rest) := by
  have written : placeholderChars n (writtenFrom 1 pieces) ++ rest =
      '$' :: '\x7b' :: (Number.digits n ++ ':' :: (writtenFrom 1 pieces ++ '\x7d' :: rest)) := by
    simp [placeholderChars]
  have value := ofDigits_digits_of_lt short
  by_cases empty : writtenFrom 1 pieces = []
  · rw [childrenOf, if_pos ((elementsFrom_eq_nil_iff 1 pieces).2 empty), written, empty,
      List.nil_append, tokens_emptyDefault (isNumber_digits n), readTokens, value]
  · have head : (writtenFrom 1 pieces ++ '\x7d' :: rest).head? ≠ some '\x7d' := by
      obtain ⟨c, cs, chars⟩ := List.exists_cons_of_ne_nil empty
      have first := head?_writtenFrom_ne_brace 1 pieces
      rw [chars] at first ⊢
      exact first
    have fresh : ¬ StartsWithText (progress.openLevel n).elements := not_startsWithText_nil
    rw [childrenOf, if_neg (mt (elementsFrom_eq_nil_iff 1 pieces).1 empty), written,
      tokens_opening (isNumber_digits n) head (closesOnLine_append line rest), readTokens, value]
    dsimp only
    rw [inner _ (not_startsWithDigit_brace rest),
      Progress.join_of_not_text fresh (head?_elementsFrom 1 pieces), tokens_brace,
      readTokens_append_brace]

theorem readTokens_literal_placeholder {n : Nat} (short : n < 10 ^ Number.digitLimit)
    {value : String} (line : ClosesOnLine value.toList) (progress : Progress) (rest : List Char) :
    readTokens progress (tokens (placeholderChars n (escapeChars value.toList) ++ rest)) =
      readTokens (progress.push (.placeholder n [.text value])) (tokens rest) := by
  have written : writtenFrom 1 [.text value] = escapeChars value.toList := List.append_nil _
  have children : childrenOf (elementsFrom 1 [.text value]) = [.text value] := by
    by_cases empty : value = "" <;>
      simp [elementsFrom, Piece.elements, textBefore, childrenOf, empty]
  rw [← closesOnLine_escapeChars, ← written] at line
  rw [← written, ← children]
  apply readTokens_nested short line
  intro progress rest _
  rw [written, readTokens_escapeChars]
  exact congrArg (readTokens · _) (progress.join_textBefore value [])

theorem readTokens_writtenFrom {n : Nat} {pieces : List Piece} (readable : IsReadable n pieces)
    (progress : Progress) {rest : List Char} (boundary : ¬ StartsWithDigit rest) :
    readTokens progress (tokens (writtenFrom n pieces ++ rest)) =
      readTokens (progress.join (elementsFrom n pieces)) (tokens rest) := by
  -- By the derivation, for any level and any rest: the template of a default text is read where the
  -- placeholder stands, with the closing brace and the pieces behind it as the rest.
  induction readable generalizing progress rest with
  | nil => rfl
  | @text n value pieces readable ih =>
      simp only [writtenFrom, Piece.written, elementsFrom, Piece.elements, Piece.after,
        List.append_assoc]
      rw [readTokens_escapeChars, ih _ boundary, Progress.join_textBefore]
  | @tabstop n pieces short apart readable ih =>
      have next := not_startsWithDigit_writtenFrom (n := n + 1) apart boundary
      have stop := not_startsWithText_tabstop n progress.elements
      simp only [writtenFrom, Piece.written, elementsFrom, Piece.elements, Piece.after,
        List.cons_append, List.append_assoc]
      rw [tokens_tabstop n next, readTokens, ofDigits_digits_of_lt short]
      dsimp only
      rw [ih _ boundary, Progress.join_push stop (head?_elementsFrom _ _)]
  | @finalTabstop n pieces apart readable ih =>
      have next := not_startsWithDigit_writtenFrom (n := n) apart boundary
      have stop := not_startsWithText_tabstop 0 progress.elements
      have written : Piece.written n .finalTabstop = '$' :: Number.digits 0 := rfl
      simp only [writtenFrom, written, elementsFrom, Piece.elements, Piece.after, List.cons_append,
        List.append_assoc]
      rw [tokens_tabstop 0 next, readTokens, ofDigits_digits_of_lt (Nat.pow_pos (by decide))]
      dsimp only
      rw [ih _ boundary]
      exact congrArg (readTokens · _) (Progress.join_push stop (head?_elementsFrom _ _))
  | @skip n pieces readable ih => exact ih progress boundary
  | @literal n value pieces short line readable ih =>
      have stop := not_startsWithText_placeholder n [.text value] progress.elements
      simp only [writtenFrom, Piece.written, elementsFrom, Piece.elements, Piece.after,
        List.append_assoc]
      rw [readTokens_literal_placeholder short line, ih _ boundary,
        Progress.join_push stop (head?_elementsFrom _ _)]
  | @nested n inner pieces short readable line rest ihInner ih =>
      have stop := not_startsWithText_placeholder n (childrenOf (elementsFrom 1 inner)) progress.elements
      rw [toList_template_build] at line
      simp only [writtenFrom, Piece.written, elementsFrom, Piece.elements, Piece.after,
        toList_template_build, List.append_assoc]
      rw [readTokens_nested short line ihInner, ih _ boundary,
        Progress.join_push stop (head?_elementsFrom _ _)]

theorem readChars_writtenFrom {n : Nat} {pieces : List Piece} (readable : IsReadable n pieces) :
    readChars (writtenFrom n pieces) = .ok ⟨elementsFrom n pieces, [], 0⟩ := by
  have start : ¬ StartsWithText ({} : Progress).elements := not_startsWithText_nil
  have whole := readTokens_writtenFrom readable {} not_startsWithDigit_nil
  rw [List.append_nil, Progress.join_of_not_text start (head?_elementsFrom n pieces)] at whole
  rw [readChars, whole]
  simp [tokens, readTokens, Progress.append, Progress.finish]

/-- Of the calls that take a number, each takes the one after the call before; and the snippet has
just the elements that the pieces stand for, read from the whole template. -/
theorem snippet_addAll {pieces : List Piece} (readable : IsReadable 1 pieces) :
    let builder := Builder.addAll {} pieces
    (∀ before after, pieces = before ++ after →
      (Builder.addAll {} before).take.1 = before.countP Piece.isNumbered + 1) ∧
    builder.snippet = .ok ⟨elementsFrom 1 pieces⟩ ∧
    read builder.template = .ok (⟨elementsFrom 1 pieces⟩, builder.template.length) := by
  intro builder
  have whole : readChars builder.template.toList = .ok ⟨elementsFrom 1 pieces, [], 0⟩ := by
    rw [toList_template_build]
    exact readChars_writtenFrom readable
  refine ⟨?_, ?_, ?_⟩
  · intro before _ _
    rw [Builder.take, next_addAll, Nat.add_comm]
  · rw [Builder.snippet, ofTemplate, whole]
  · rw [read, whole]
    simp [stopOf, source, String.length_toList]

theorem snippet_addAll_special :
    let pieces : List Piece := [.text "cost: $5 \x7b", .text "\x7d\\", .tabstop, .text "", .skip,
      .literal "a\x7d\nb", .nested [.finalTabstop, .nested [], .text "\x7d\n7"], .text "9"]
    IsReadable 1 pieces ∧ (Builder.addAll {} pieces).snippet = .ok ⟨[.text "cost: $5 \x7b\x7d\\",
      .tabstop 1, .placeholder 3 [.text "a\x7d\nb"],
      .placeholder 4 [.tabstop 0, .placeholder 1 [.text ""], .text "\x7d\n7"], .text "9"]⟩ := by
  intro pieces
  have short : ∀ n < 10, n < 10 ^ Number.digitLimit := fun n small =>
    Nat.lt_of_lt_of_le small (Nat.le_self_pow (by decide) 10)
  have inner : IsReadable 1 [.finalTabstop, .nested [], .text "\x7d\n7"] := by
    apply IsReadable.finalTabstop (by simp [IsApart, Piece.nextText])
    apply IsReadable.nested (short 1 (by decide)) .nil (by decide)
    exact .text .nil
  have readable : IsReadable 1 pieces := by
    apply IsReadable.text
    apply IsReadable.text
    apply IsReadable.tabstop (short 1 (by decide)) (by simp [IsApart, Piece.nextText])
    apply IsReadable.text
    apply IsReadable.skip
    apply IsReadable.literal (short 3 (by decide)) (by decide)
    apply IsReadable.nested (short 4 (by decide)) inner (by rw [toList_template_build]; decide)
    exact .text .nil
  obtain ⟨_, snippet, _⟩ := snippet_addAll readable
  refine ⟨readable, snippet.trans (congrArg (Except.ok ∘ Snippet.mk) ?_)⟩
  decide

end Autocomplete.Snippet
