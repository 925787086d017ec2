import Autocomplete.Item.Insertion
import Autocomplete.Proofs.Snippet.Reparse

namespace Autocomplete.Snippet

open Element

/-- The numbers of the stops that a reading comes to when `depth` default texts are open, as they are
written. -/
def numbersFrom : (depth : Nat) → List Token → List (List Char)
  | _, [] => []
  | depth, token :: rest =>
    token.number?.toList ++
      match token with
      | .opening _ => numbersFrom (depth + 1) rest
      | .brace => numbersFrom (depth - 1) rest
      | .stray _ => if depth = 0 then [] else numbersFrom (depth - 1) rest
      | .plain _ | .escaped _ | .tabstop _ _ | .emptyDefault _ => numbersFrom depth rest

def numbers (template : String) : List (List Char) := numbersFrom 0 (tokens template.toList)

def overlong? (numbers : List (List Char)) : Option (List Char) :=
  numbers.find? fun number => Number.digitLimit < number.length

theorem overlong?_eq_none_iff {numbers : List (List Char)} :
    overlong? numbers = none ↔ ∀ number ∈ numbers, number.length ≤ Number.digitLimit := by
  simp [overlong?]

theorem numbersFrom_cons (depth : Nat) (token : Token) (rest : List Token) :
    ∃ others, numbersFrom depth (token :: rest) = token.number?.toList ++ others := by
  cases token <;> exact ⟨_, rfl⟩

namespace Progress

variable {progress next : Progress} {token : Token} (moves : progress.Moves token next)

include moves

theorem Moves.numbersFrom_cons (rest : List Token) :
    numbersFrom progress.levels.length (token :: rest) =
      token.number?.toList ++ numbersFrom next.levels.length rest := by
  cases moves with
  | plain c | escaped c => rw [levels_literal]; rfl
  | tabstop _ | emptyDefault _ | opening _ => rfl
  | brace top => rw [levels_literal, top]; rfl
  | close split => rw [split]; rfl
  | dropped c split => rw [split]; rfl

theorem Moves.short : ∀ number ∈ token.number?, number.length ≤ Number.digitLimit := by
  intro number member
  cases moves with
  | tabstop value | emptyDefault value | opening value =>
      obtain rfl := Option.some.inj member
      exact length_of_ofDigits value
  | plain _ | escaped _ | brace _ | close _ | dropped _ _ => cases member

end Progress

/-! ## When a reading fails -/

theorem readTokens_eq_error_iff {progress : Progress} {ts : List Token}
    {overflow : Number.DigitOverflow} :
    readTokens progress ts = .error overflow ↔
      ∃ number, overlong? (numbersFrom progress.levels.length ts) = some number ∧
        overflow = ⟨number.length⟩ := by
  induction ts generalizing progress with
  | nil => simp [readTokens, numbersFrom, overlong?]
  | cons token rest ih =>
      rcases readTokens_step progress token rest with
        ⟨next, moves, step⟩ | ⟨c, rfl, top, stop⟩ | ⟨digits, number, long, fail⟩
      · have short : overlong? token.number?.toList = none :=
          overlong?_eq_none_iff.2 fun number member => moves.short number (Option.mem_toList.1 member)
        rw [step, ih, moves.numbersFrom_cons, overlong?, overlong?, List.find?_append]
        rw [overlong?] at short
        rw [short, Option.none_or]
      · simp [stop, top, numbersFrom, Token.number?, overlong?]
      · obtain ⟨others, come⟩ := numbersFrom_cons progress.levels.length token rest
        rw [fail, come, number, overlong?, Option.toList_some, List.singleton_append,
          List.find?_cons_of_pos (by simpa using long)]
        simp [eq_comm]

theorem ofTemplate_eq_error_iff {template : String} {overflow : Number.DigitOverflow} :
    ofTemplate template = .error overflow ↔
      ∃ number, overlong? (numbers template) = some number ∧ overflow = ⟨number.length⟩ := by
  have failing : ofTemplate template = .error overflow ↔
      readTokens {} (tokens template.toList) = .error overflow := by
    rw [ofTemplate, readChars]
    cases readTokens {} (tokens template.toList) <;> simp
  exact failing.trans readTokens_eq_error_iff

/-! ## The numbers are the indices -/

def indexOf (number : List Char) : Int := Nat.ofDigitChars 10 number 0

theorem ofDigits_eq_indexOf {digits : List Char} {n : Nat} (value : Number.ofDigits digits = .ok n) :
    indexOf digits = n := by
  rw [Number.ofDigits, if_pos (length_of_ofDigits value)] at value
  rw [indexOf, Except.ok.inj value]

theorem indicesAll_append (a b : List Element) :
    indicesAll (a ++ b) = indicesAll a ++ indicesAll b := by
  induction a with
  | nil => rfl
  | cons element rest ih => simp [indicesAll, ih]

namespace Progress

def indicesBefore : List Level → List Int
  | [] => []
  | level :: levels =>
    indicesBefore levels ++ indicesAll level.before.reverse ++ [level.index]

def indices (progress : Progress) : List Int :=
  indicesBefore progress.levels ++ indicesAll progress.elements.reverse

theorem indices_push (progress : Progress) (element : Element) :
    (progress.push element).indices = progress.indices ++ element.indices := by
  simp [push, indices, indicesAll_append, indicesAll]

theorem indices_literal (progress : Progress) (c : Char) :
    (progress.literal c).indices = progress.indices := by
  by_cases text : StartsWithText progress.elements
  · obtain ⟨value, first⟩ := text
    obtain ⟨before, text⟩ := List.head?_eq_some_iff.1 first
    rw [literal_of_text text]
    simp [indices, text, indicesAll_append, indicesAll, Element.indices]
  · rw [literal_of_not_text text, indices_push]
    simp [Element.indices]

theorem indices_openLevel (progress : Progress) (index : Int) :
    (progress.openLevel index).indices = progress.indices ++ [index] := by
  simp [openLevel, indices, indicesBefore, indicesAll]

theorem indices_closed {progress : Progress} {level : Level} {levels : List Level}
    (split : progress.levels = level :: levels) :
    indices ⟨closed progress.elements level, levels⟩ = progress.indices := by
  simp [indices, indicesBefore, closed, indicesAll_append, indicesAll, Element.indices, split]

theorem Moves.indices {progress next : Progress} {token : Token}
    (moves : progress.Moves token next) :
    next.indices = progress.indices ++ token.number?.toList.map indexOf := by
  cases moves with
  | plain c | escaped c | brace top => simp [indices_literal, Token.number?]
  | tabstop value | emptyDefault value =>
      simp [indices_push, Element.indices, indicesAll, Token.number?, ofDigits_eq_indexOf value]
  | opening value => simp [indices_openLevel, Token.number?, ofDigits_eq_indexOf value]
  | close split | dropped _ split => simp [indices_closed split, Token.number?]

end Progress

theorem ofTemplate_eq_ok_iff {template : String} :
    (∃ snippet, ofTemplate template = .ok snippet) ↔
      ∀ number ∈ numbers template, number.length ≤ Number.digitLimit := by
  rw [← overlong?_eq_none_iff]
  cases result : ofTemplate template with
  | ok snippet =>
      refine iff_of_true ⟨snippet, rfl⟩ (Option.eq_none_iff_forall_ne_some.2 fun number found => ?_)
      have fails := ofTemplate_eq_error_iff.2 ⟨number, found, rfl⟩
      cases result.symm.trans fails
  | error overflow =>
      obtain ⟨number, found, _⟩ := ofTemplate_eq_error_iff.1 result
      simp [found]

theorem Begins.number {cs rest number : List Char} {token : Token} (begins : Begins cs token rest)
    (numbered : token.number? = some number) : IsNumber number ∧ number <:+: cs := by
  cases begins with
  | @tabstop digits rest isNumber _ =>
      obtain rfl := Option.some.inj numbered
      exact ⟨isNumber, ['$'], rest, rfl⟩
  | @braced digits rest isNumber =>
      obtain rfl := Option.some.inj numbered
      exact ⟨isNumber, ['$', '\x7b'], '\x7d' :: rest, rfl⟩
  | @emptyDefault digits rest isNumber =>
      obtain rfl := Option.some.inj numbered
      exact ⟨isNumber, ['$', '\x7b'], ':' :: '\x7d' :: rest, rfl⟩
  | @opening digits rest isNumber _ _ =>
      obtain rfl := Option.some.inj numbered
      exact ⟨isNumber, ['$', '\x7b'], ':' :: rest, rfl⟩
  | plain | escaped | brace | stray => cases numbered

theorem insertion_eq_ok_iff {item : Item} {offset : Int} {snippetSupport : Bool} :
    (∃ insertion, item.insertion offset snippetSupport = .ok insertion) ↔
      (snippetSupport = true → item.format = some .snippet →
        ∀ number ∈ numbers item.newText, number.length ≤ Number.digitLimit) := by
  by_cases expanded : snippetSupport = true ∧ item.format = some .snippet
  · have inserted : (∃ insertion, item.insertion offset snippetSupport = .ok insertion) ↔
        ∃ snippet, ofTemplate item.newText = .ok snippet := by
      rw [Item.insertion, if_pos expanded]
      cases ofTemplate item.newText <;> simp
    rw [inserted, ofTemplate_eq_ok_iff]
    exact ⟨fun short _ _ => short, fun short => short expanded.1 expanded.2⟩
  · rw [Item.insertion, if_neg expanded]
    exact iff_of_true ⟨_, rfl⟩ fun support format => absurd ⟨support, format⟩ expanded

/-- A template reads just if no number that the reading comes to has too many digits; and an item is
inserted unless it is a snippet to be expanded whose template does not read. The recursion limit of
an interpreter, which deep nesting may reach, is left out of the model. -/
theorem reads_iff_short (template : String) (item : Item) (offset : Int) (snippetSupport : Bool) :
    ((∃ snippet, ofTemplate template = .ok snippet) ↔
      ∀ number ∈ numbers template, number.length ≤ Number.digitLimit) ∧
    ((∃ insertion, item.insertion offset snippetSupport = .ok insertion) ↔
      (snippetSupport = true → item.format = some .snippet →
        ∀ number ∈ numbers item.newText, number.length ≤ Number.digitLimit)) :=
  ⟨ofTemplate_eq_ok_iff, insertion_eq_ok_iff⟩

theorem reads_iff_short_zeros :
    (¬ ∀ template, ∃ snippet, ofTemplate template = .ok snippet) ∧
      ¬ ∀ (item : Item) (offset : Int),
        ∃ insertion, item.insertion offset true = .ok insertion := by
  -- The digits are kept as a variable, so that they are never written out.
  obtain ⟨zeros, digits⟩ : ∃ zeros, zeros = List.replicate 4301 '0' := ⟨_, rfl⟩
  have isNumber : IsNumber zeros := by
    constructor
    · rw [digits, Ne, List.replicate_eq_nil_iff]
      decide
    · intro c member
      rw [digits] at member
      rw [List.eq_of_mem_replicate member]
      decide
  let template := String.ofList ('$' :: zeros)
  have token : tokens template.toList = [.tabstop zeros false] := by
    have whole := tokens_number isNumber not_startsWithDigit_nil
    rwa [List.append_nil, tokens, ← String.toList_ofList (l := '$' :: zeros)] at whole
  have long : ¬ ∀ number ∈ numbers template, number.length ≤ Number.digitLimit := by
    intro short
    have bound := short zeros (by rw [numbers, token]; exact List.mem_cons_self)
    rw [digits, List.length_replicate] at bound
    exact absurd bound (by decide)
  constructor
  · intro all
    exact long (ofTemplate_eq_ok_iff.1 (all template))
  · intro all
    let item : Item := { label := template, format := some .snippet }
    have short := insertion_eq_ok_iff.1 (all item 0) rfl rfl
    exact long short

end Autocomplete.Snippet
