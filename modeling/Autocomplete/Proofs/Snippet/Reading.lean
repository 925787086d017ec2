import Autocomplete.Snippet.Reader

namespace Autocomplete.Snippet

def StartsWithDigit (cs : List Char) : Prop := ∃ c ∈ cs.head?, c.isDigit

theorem not_startsWithDigit_nil : ¬ StartsWithDigit [] := nofun

theorem startsWithDigit_cons (c : Char) (cs : List Char) :
    StartsWithDigit (c :: cs) ↔ c.isDigit := by
  simp [StartsWithDigit]

structure IsNumber (cs : List Char) : Prop where
  nonempty : cs ≠ []
  digits : ∀ c ∈ cs, c.isDigit

theorem isNumber_digits (n : Nat) : IsNumber (Number.digits n) :=
  ⟨Number.digits_ne_nil n, fun _ => Number.isDigit_of_mem_digits⟩

section Digits

variable {number : List Char} (isNumber : IsNumber number) {rest : List Char}
  (boundary : ¬ StartsWithDigit rest)

include isNumber boundary

theorem takeWhile_number : (number ++ rest).takeWhile Char.isDigit = number := by
  rw [List.takeWhile_append_of_pos isNumber.digits]
  cases rest with
  | nil => simp
  | cons c cs =>
      rw [startsWithDigit_cons] at boundary
      simp [boundary]

theorem dropWhile_number : (number ++ rest).dropWhile Char.isDigit = rest := by
  rw [List.dropWhile_append_of_pos isNumber.digits]
  cases rest with
  | nil => simp
  | cons c cs =>
      rw [startsWithDigit_cons] at boundary
      simp [boundary]

end Digits

theorem number_append_inj {a b r s : List Char} (left : IsNumber a) (right : IsNumber b)
    (leftEnd : ¬ StartsWithDigit r) (rightEnd : ¬ StartsWithDigit s) (same : a ++ r = b ++ s) :
    a = b ∧ r = s := by
  constructor
  · rw [← takeWhile_number left leftEnd, same, takeWhile_number right rightEnd]
  · rw [← dropWhile_number left leftEnd, same, dropWhile_number right rightEnd]

theorem tokens_cons (c : Char) (cs : List Char) :
    tokens (c :: cs) = (Token.next c cs).1 :: tokens (Token.next c cs).2 := by
  rw [tokens]

theorem tokens_plain {c : Char} (dollar : c ≠ '$') (brace : c ≠ '\x7d') (backslash : c ≠ '\\')
    (rest : List Char) : tokens (c :: rest) = .plain c :: tokens rest := by
  simp [tokens_cons, Token.next, dollar, brace, backslash]

theorem tokens_brace (rest : List Char) : tokens ('\x7d' :: rest) = .brace :: tokens rest := by
  simp [tokens_cons, Token.next]

theorem tokens_number {number : List Char} (isNumber : IsNumber number) {rest : List Char}
    (boundary : ¬ StartsWithDigit rest) :
    tokens ('$' :: (number ++ rest)) = .tabstop number false :: tokens rest := by
  have stop : Token.stop? (number ++ rest) = some (.tabstop number false, rest) := by
    simp [Token.stop?, takeWhile_number isNumber boundary, dropWhile_number isNumber boundary,
      isNumber.nonempty]
  simp [tokens_cons, Token.next, stop]

theorem tokens_tabstop (n : Nat) {rest : List Char} (boundary : ¬ StartsWithDigit rest) :
    tokens ('$' :: (Number.digits n ++ rest)) =
      .tabstop (Number.digits n) false :: tokens rest :=
  tokens_number (isNumber_digits n) boundary

theorem tokens_bracedStop {cs rest : List Char} {token : Token}
    (stop : Token.bracedStop? cs = some (token, rest)) :
    tokens ('$' :: '\x7b' :: cs) = token :: tokens rest := by
  have stop : Token.stop? ('\x7b' :: cs) = some (token, rest) := by
    simp [Token.stop?, stop]
  simp [tokens_cons, Token.next, stop]

theorem not_startsWithDigit_colon (rest : List Char) : ¬ StartsWithDigit (':' :: rest) := by
  simp [startsWithDigit_cons]

theorem not_startsWithDigit_brace (rest : List Char) : ¬ StartsWithDigit ('\x7d' :: rest) := by
  simp [startsWithDigit_cons]

theorem tokens_braced {number : List Char} (isNumber : IsNumber number) (rest : List Char) :
    tokens ('$' :: '\x7b' :: (number ++ '\x7d' :: rest)) = .tabstop number true :: tokens rest := by
  apply tokens_bracedStop
  have brace := not_startsWithDigit_brace rest
  simp [Token.bracedStop?, takeWhile_number isNumber brace, dropWhile_number isNumber brace,
    isNumber.nonempty]

theorem tokens_emptyDefault {number : List Char} (isNumber : IsNumber number) (rest : List Char) :
    tokens ('$' :: '\x7b' :: (number ++ ':' :: '\x7d' :: rest)) =
      .emptyDefault number :: tokens rest := by
  apply tokens_bracedStop
  have colon := not_startsWithDigit_colon ('\x7d' :: rest)
  simp [Token.bracedStop?, takeWhile_number isNumber colon, dropWhile_number isNumber colon,
    isNumber.nonempty]

theorem tokens_opening {number : List Char} (isNumber : IsNumber number) {rest : List Char}
    (nonempty : rest.head? ≠ some '\x7d') (closes : Token.closesOnLine rest) :
    tokens ('$' :: '\x7b' :: (number ++ ':' :: rest)) = .opening number :: tokens rest := by
  apply tokens_bracedStop
  have colon := not_startsWithDigit_colon rest
  rw [Token.bracedStop?, takeWhile_number isNumber colon, dropWhile_number isNumber colon]
  cases rest with
  | nil => simp [Token.closesOnLine] at closes
  | cons c cs =>
      have other : c ≠ '\x7d' := by simpa using nonempty
      simp [closes, other, isNumber.nonempty]

theorem closesOnLine_append {cs : List Char} (line : '\n' ∉ cs.takeWhile (· ≠ '\x7d'))
    (rest : List Char) : Token.closesOnLine (cs ++ '\x7d' :: rest) := by
  rw [Token.closesOnLine, decide_eq_true_iff]
  induction cs with
  | nil => simp
  | cons c cs ih =>
      by_cases brace : c = '\x7d'
      · simp [brace]
      · rw [List.takeWhile_cons_of_pos (by simpa using brace), List.mem_cons, not_or] at line
        obtain ⟨newline, line⟩ := line
        rw [List.cons_append, List.takeWhile_cons_of_pos (by simpa using Ne.symm newline)]
        exact List.mem_cons_of_mem _ (ih line)

theorem newline_notMem_of_closesOnLine {cs rest : List Char}
    (closes : Token.closesOnLine (cs ++ '\x7d' :: rest)) : '\n' ∉ cs.takeWhile (· ≠ '\x7d') := by
  rw [Token.closesOnLine, decide_eq_true_iff] at closes
  induction cs with
  | nil => simp
  | cons c cs ih =>
      by_cases brace : c = '\x7d'
      · simp [brace]
      · have newline : c ≠ '\n' := by
          rintro rfl
          simp at closes
        rw [List.cons_append, List.takeWhile_cons_of_pos (by simpa using newline), List.mem_cons]
          at closes
        rw [List.takeWhile_cons_of_pos (by simpa using brace), List.mem_cons, not_or]
        exact ⟨newline.symm, ih (closes.resolve_left (Ne.symm brace))⟩

inductive Begins : (cs : List Char) → Token → (rest : List Char) → Prop
  | plain {c rest} (dollar : c ≠ '$') (brace : c ≠ '\x7d') (backslash : c ≠ '\\') :
      Begins (c :: rest) (.plain c) rest
  | escaped {c rest} (special : isSpecial c) : Begins ('\\' :: c :: rest) (.escaped c) rest
  | tabstop {digits rest} (isNumber : IsNumber digits) (boundary : ¬ StartsWithDigit rest) :
      Begins ('$' :: (digits ++ rest)) (.tabstop digits false) rest
  | braced {digits rest} (isNumber : IsNumber digits) :
      Begins ('$' :: '\x7b' :: (digits ++ '\x7d' :: rest)) (.tabstop digits true) rest
  | emptyDefault {digits rest} (isNumber : IsNumber digits) :
      Begins ('$' :: '\x7b' :: (digits ++ ':' :: '\x7d' :: rest)) (.emptyDefault digits) rest
  | opening {digits rest} (isNumber : IsNumber digits) (nonempty : rest.head? ≠ some '\x7d')
      (closes : Token.closesOnLine rest) :
      Begins ('$' :: '\x7b' :: (digits ++ ':' :: rest)) (.opening digits) rest
  | brace {rest} : Begins ('\x7d' :: rest) .brace rest
  | stray {c rest} (stop : c = '$' ∨ c = '\\') : Begins (c :: rest) (.stray c) rest

theorem isNumber_takeWhile {cs : List Char} (nonempty : (cs.takeWhile Char.isDigit).isEmpty = false) :
    IsNumber (cs.takeWhile Char.isDigit) :=
  ⟨by simpa using nonempty, List.all_eq_true.1 List.all_takeWhile⟩

theorem not_startsWithDigit_dropWhile (cs : List Char) :
    ¬ StartsWithDigit (cs.dropWhile Char.isDigit) := by
  rintro ⟨c, first, digit⟩
  have other := List.head?_dropWhile_not Char.isDigit cs
  rw [Option.mem_def.1 first] at other
  exact Bool.noConfusion (other.symm.trans digit)

theorem begins_bracedStop? {cs rest : List Char} {token : Token}
    (found : Token.bracedStop? cs = some (token, rest)) :
    Begins ('$' :: '\x7b' :: cs) token rest := by
  have split := List.takeWhile_append_dropWhile (p := Char.isDigit) (l := cs)
  simp only [Token.bracedStop?] at found
  split at found
  · cases found
  · next some =>
    have isNumber := isNumber_takeWhile (eq_false_of_ne_true some)
    split at found
    · next tail eq =>
      cases found
      rw [eq] at split
      rw [← split, takeWhile_number isNumber (not_startsWithDigit_brace _)]
      exact .braced isNumber
    · next tail eq =>
      cases found
      rw [eq] at split
      rw [← split, takeWhile_number isNumber (not_startsWithDigit_colon _)]
      exact .emptyDefault isNumber
    · next tail notEmpty eq =>
      split at found
      · next closes =>
        cases found
        rw [eq] at split
        rw [← split, takeWhile_number isNumber (not_startsWithDigit_colon _)]
        refine .opening isNumber ?_ closes
        intro brace
        obtain ⟨others, rfl⟩ := List.head?_eq_some_iff.1 brace
        exact notEmpty others rfl
      · cases found
    · cases found

theorem begins_stop? {cs rest : List Char} {token : Token}
    (found : Token.stop? cs = some (token, rest)) : Begins ('$' :: cs) token rest := by
  simp only [Token.stop?] at found
  split at found
  · split at found
    · exact begins_bracedStop? found
    · cases found
  · next some =>
    have isNumber := isNumber_takeWhile (eq_false_of_ne_true some)
    have begins := Begins.tabstop isNumber (not_startsWithDigit_dropWhile cs)
    rw [List.takeWhile_append_dropWhile] at begins
    cases found
    exact begins

theorem begins_next (c : Char) (cs : List Char) :
    Begins (c :: cs) (Token.next c cs).1 (Token.next c cs).2 := by
  unfold Token.next
  split
  · next dollar =>
    subst dollar
    cases found : Token.stop? cs with
    | none => exact .stray (.inl rfl)
    | some result => exact begins_stop? found
  · next dollar =>
    split
    · next brace =>
      subst brace
      exact .brace
    · next brace =>
      split
      · next backslash =>
        subst backslash
        split
        · split
          · next special => exact .escaped special
          · exact .stray (.inr rfl)
        · exact .stray (.inr rfl)
      · next backslash => exact .plain dollar brace backslash

inductive Progress.Moves : Progress → Token → Progress → Prop
  | plain {progress} (c : Char) : Moves progress (.plain c) (progress.literal c)
  | escaped {progress} (c : Char) : Moves progress (.escaped c) (progress.literal c)
  | tabstop {progress digits braced} {n : Nat} (value : Number.ofDigits digits = .ok n) :
      Moves progress (.tabstop digits braced) (progress.push (.tabstop n))
  | emptyDefault {progress digits} {n : Nat} (value : Number.ofDigits digits = .ok n) :
      Moves progress (.emptyDefault digits) (progress.push (.placeholder n [.text ""]))
  | opening {progress digits} {n : Nat} (value : Number.ofDigits digits = .ok n) :
      Moves progress (.opening digits) (progress.openLevel n)
  | brace {progress} (top : progress.levels = []) :
      Moves progress .brace (progress.literal '\x7d')
  | close {progress level levels} (split : progress.levels = level :: levels) :
      Moves progress .brace ⟨Progress.closed progress.elements level, levels⟩
  | dropped {progress level levels} (c : Char) (split : progress.levels = level :: levels) :
      Moves progress (.stray c) ⟨Progress.closed progress.elements level, levels⟩

def Token.number? : Token → Option (List Char)
  | tabstop digits _ | emptyDefault digits | opening digits => some digits
  | plain _ | escaped _ | brace | stray _ => none

theorem length_of_ofDigits {cs : List Char} {n : Nat} (value : Number.ofDigits cs = .ok n) :
    cs.length ≤ Number.digitLimit := by
  unfold Number.ofDigits at value
  split at value
  · assumption
  · cases value

theorem ofDigits_cases (digits : List Char) :
    (∃ n, Number.ofDigits digits = .ok n) ∨ Number.digitLimit < digits.length := by
  cases value : Number.ofDigits digits with
  | ok n => exact .inl ⟨n, rfl⟩
  | error overflow => exact .inr (Number.ofDigits_eq_error_iff.1 value).1

theorem readTokens_of_moves {progress next : Progress} {token : Token}
    (moves : progress.Moves token next) (rest : List Token) :
    readTokens progress (token :: rest) = readTokens next rest := by
  cases moves with
  | plain c | escaped c => rfl
  | tabstop value | emptyDefault value | opening value => rw [readTokens, value]
  | brace top => rw [readTokens, top]
  | close split | dropped c split => rw [readTokens, split]

theorem readTokens_of_long (progress : Progress) {token : Token} {digits : List Char}
    (number : token.number? = some digits) (long : Number.digitLimit < digits.length)
    (rest : List Token) : readTokens progress (token :: rest) = .error ⟨digits.length⟩ := by
  have overflow : Number.ofDigits digits = .error ⟨digits.length⟩ :=
    Number.ofDigits_eq_error_iff.2 ⟨long, rfl⟩
  cases token with
  | tabstop _ _ | emptyDefault _ | opening _ =>
      cases number
      rw [readTokens, overflow]
  | plain _ | escaped _ | brace | stray _ => cases number

/-- A reading goes on with the next token, or it ends at a stray character at the top, or it fails
at a number with too many digits. -/
theorem readTokens_step (progress : Progress) (token : Token) (rest : List Token) :
    (∃ next, progress.Moves token next ∧
      readTokens progress (token :: rest) = readTokens next rest) ∨
    (∃ c, token = .stray c ∧ progress.levels = [] ∧
      readTokens progress (token :: rest) = .ok ⟨progress.finish, .stray c :: rest, 0⟩) ∨
    ∃ digits, token.number? = some digits ∧ Number.digitLimit < digits.length ∧
      readTokens progress (token :: rest) = .error ⟨digits.length⟩ := by
  cases token with
  | plain c => exact .inl ⟨_, .plain c, rfl⟩
  | escaped c => exact .inl ⟨_, .escaped c, rfl⟩
  | tabstop digits braced =>
      rcases ofDigits_cases digits with ⟨n, value⟩ | long
      · exact .inl ⟨_, .tabstop value, readTokens_of_moves (.tabstop value) rest⟩
      · exact .inr (.inr ⟨digits, rfl, long, readTokens_of_long progress rfl long rest⟩)
  | emptyDefault digits =>
      rcases ofDigits_cases digits with ⟨n, value⟩ | long
      · exact .inl ⟨_, .emptyDefault value, readTokens_of_moves (.emptyDefault value) rest⟩
      · exact .inr (.inr ⟨digits, rfl, long, readTokens_of_long progress rfl long rest⟩)
  | opening digits =>
      rcases ofDigits_cases digits with ⟨n, value⟩ | long
      · exact .inl ⟨_, .opening value, readTokens_of_moves (.opening value) rest⟩
      · exact .inr (.inr ⟨digits, rfl, long, readTokens_of_long progress rfl long rest⟩)
  | brace =>
      rw [readTokens]
      cases split : progress.levels with
      | nil => exact .inl ⟨_, .brace split, rfl⟩
      | cons level levels => exact .inl ⟨_, .close split, rfl⟩
  | stray c =>
      rw [readTokens]
      cases split : progress.levels with
      | nil => exact .inr (.inl ⟨c, rfl, rfl, rfl⟩)
      | cons level levels => exact .inl ⟨_, .dropped c split, rfl⟩

theorem readTokens_cons {progress : Progress} {token : Token} {rest : List Token}
    {reading : Reading} (read : readTokens progress (token :: rest) = .ok reading) :
    (∃ next, progress.Moves token next ∧ readTokens next rest = .ok reading) ∨
      ∃ c, token = .stray c ∧ progress.levels = [] ∧
        reading = ⟨progress.finish, .stray c :: rest, 0⟩ := by
  rcases readTokens_step progress token rest with
    ⟨next, moves, step⟩ | ⟨c, stray, top, stop⟩ | ⟨_, _, _, fail⟩
  · exact .inl ⟨next, moves, step.symm.trans read⟩
  · exact .inr ⟨c, stray, top, (Except.ok.inj (stop.symm.trans read)).symm⟩
  · cases fail.symm.trans read

theorem unread_suffix {progress : Progress} {ts : List Token} {reading : Reading}
    (read : readTokens progress ts = .ok reading) : reading.unread <:+ ts := by
  induction ts generalizing progress with
  | nil =>
      cases read
      exact List.suffix_rfl
  | cons token rest ih =>
      rcases readTokens_cons read with ⟨next, _, more⟩ | ⟨c, rfl, _, rfl⟩
      · exact (ih more).trans (List.suffix_cons token rest)
      · exact List.suffix_rfl

theorem source_unread_suffix {cs : List Char} {reading : Reading}
    (read : readChars cs = .ok reading) : source reading.unread <:+ cs := by
  obtain ⟨taken, split⟩ := unread_suffix read
  refine ⟨source taken, ?_⟩
  rw [source, source, ← List.flatMap_append, split]
  exact source_tokens cs

theorem readTokens_invariant {P : Progress → Prop}
    (keeps : ∀ {progress token next}, progress.Moves token next → P progress → P next)
    {progress : Progress} (holds : P progress) {ts : List Token} {reading : Reading}
    (read : readTokens progress ts = .ok reading) :
    ∃ final, P final ∧ reading.elements = final.finish := by
  induction ts generalizing progress with
  | nil =>
      cases read
      exact ⟨progress, holds, rfl⟩
  | cons token rest ih =>
      rcases readTokens_cons read with ⟨next, moves, more⟩ | ⟨c, _, _, rfl⟩
      · exact ih (keeps moves holds) more
      · exact ⟨progress, holds, rfl⟩

end Autocomplete.Snippet
