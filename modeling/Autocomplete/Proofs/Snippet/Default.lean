import Autocomplete.Proofs.Snippet.Pieces

namespace Autocomplete.Snippet

theorem toList_placeholder (n : Nat) (text : String) :
    ("$\x7b" ++ Number.text n ++ ":" ++ escape text ++ "\x7d").toList =
      placeholderChars n (escapeChars text.toList) := by
  simp [placeholderChars, Number.text, Number.decimal, escape]

theorem readChars_of_closesOnLine {n : Nat} (short : n < 10 ^ Number.digitLimit) {text : String}
    (line : ClosesOnLine text.toList) :
    readChars (placeholderChars n (escapeChars text.toList)) =
      .ok ⟨[.placeholder n [.text text]], [], 0⟩ := by
  have whole := readTokens_literal_placeholder short line {} []
  rw [List.append_nil] at whole
  rw [readChars, whole]
  simp [tokens, readTokens, Progress.push, Progress.finish]

theorem tokens_unclosed (n : Nat) {rest : List Char} (nonempty : rest.head? ≠ some '\x7d')
    (unclosed : ¬ Token.closesOnLine rest) :
    tokens ('$' :: '\x7b' :: (Number.digits n ++ ':' :: rest)) =
      .stray '$' :: tokens ('\x7b' :: (Number.digits n ++ ':' :: rest)) := by
  have colon := not_startsWithDigit_colon rest
  have number := isNumber_digits n
  have noStop : Token.bracedStop? (Number.digits n ++ ':' :: rest) = none := by
    rw [Token.bracedStop?, takeWhile_number number colon, dropWhile_number number colon]
    cases rest with
    | nil => simp [Token.closesOnLine]
    | cons c cs =>
        have other : c ≠ '\x7d' := by simpa using nonempty
        simp [unclosed, other]
  simp [tokens_cons, Token.next, Token.stop?, noStop]

theorem readChars_of_not_closesOnLine (n : Nat) {text : String}
    (line : ¬ ClosesOnLine text.toList) :
    ∃ unread, readChars (placeholderChars n (escapeChars text.toList)) = .ok ⟨[], unread, 0⟩ := by
  have written : placeholderChars n (escapeChars text.toList) =
      '$' :: '\x7b' :: (Number.digits n ++ ':' :: (escapeChars text.toList ++ ['\x7d'])) := by
    simp [placeholderChars]
  have nonempty : (escapeChars text.toList ++ ['\x7d']).head? ≠ some '\x7d' := by
    cases chars : text.toList with
    | nil => exact absurd (by rw [chars]; exact List.not_mem_nil) line
    | cons c cs =>
        obtain ⟨d, ds, first⟩ := List.exists_cons_of_ne_nil (escapeChar_ne_nil c)
        have other := head?_escapeChar_ne_brace c
        rw [first] at other
        rw [escapeChars_cons, first]
        exact other
  have unclosed : ¬ Token.closesOnLine (escapeChars text.toList ++ ['\x7d']) := fun closes =>
    line ((closesOnLine_escapeChars _).1 (newline_notMem_of_closesOnLine closes))
  rw [readChars, written, tokens_unclosed n nonempty unclosed]
  exact ⟨_, rfl⟩

/-- What is read of an escaped default text: the text itself if no line ends before its first closing
brace, and else nothing. -/
theorem ofTemplate_escape {n : Nat} (short : (Number.digits n).length ≤ Number.digitLimit)
    (text : String) :
    ofTemplate ("$\x7b" ++ Number.text n ++ ":" ++ escape text ++ "\x7d") =
      .ok ⟨if ClosesOnLine text.toList then [.placeholder n [.text text]] else []⟩ := by
  rw [ofTemplate, toList_placeholder]
  by_cases line : ClosesOnLine text.toList
  · rw [readChars_of_closesOnLine (length_digits_le_iff.1 short) line, if_pos line]
  · obtain ⟨unread, read⟩ := readChars_of_not_closesOnLine n line
    rw [read, if_neg line]

theorem ofTemplate_escape_special :
    ofTemplate "$\x7b7:cost \\$5 \\\x7d\n\\\\\x7d" =
      .ok ⟨[.placeholder 7 [.text "cost $5 \x7d\n\\"]]⟩ := by
  have short : (Number.digits 7).length ≤ Number.digitLimit := by decide
  have line : ClosesOnLine "cost $5 \x7d\n\\".toList := by decide
  have whole := ofTemplate_escape short "cost $5 \x7d\n\\"
  rw [if_pos line] at whole
  exact whole

theorem ofTemplate_escape_newline :
    ¬ ∀ (n : Nat) (text : String), (Number.digits n).length ≤ Number.digitLimit →
      ofTemplate ("$\x7b" ++ Number.text n ++ ":" ++ escape text ++ "\x7d") =
        .ok ⟨[.placeholder n [.text text]]⟩ := by
  intro all
  have line : ¬ ClosesOnLine "a\nb".toList := by decide
  obtain ⟨unread, read⟩ := readChars_of_not_closesOnLine 1 line
  have same := all 1 "a\nb" (by decide)
  rw [ofTemplate, toList_placeholder, read] at same
  cases same

end Autocomplete.Snippet
