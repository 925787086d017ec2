import Autocomplete.Snippet.Escape

namespace Autocomplete.Snippet

inductive Token where
  | plain (c : Char)
  | escaped (c : Char)
  | tabstop (digits : List Char) (braced : Bool)
  | emptyDefault (digits : List Char)
  | opening (digits : List Char)
  | brace
  | stray (c : Char)
  deriving DecidableEq, Repr

namespace Token

def source : Token → List Char
  | plain c => [c]
  | escaped c => ['\\', c]
  | tabstop digits braced =>
    if braced then '$' :: '\x7b' :: digits ++ ['\x7d'] else '$' :: digits
  | emptyDefault digits => '$' :: '\x7b' :: digits ++ [':', '\x7d']
  | opening digits => '$' :: '\x7b' :: digits ++ [':']
  | brace => ['\x7d']
  | stray c => [c]

/-- A default text can only begin where a closing brace follows on the same line. -/
def closesOnLine (cs : List Char) : Bool := '\x7d' ∈ cs.takeWhile (· != '\n')

def bracedStop? (cs : List Char) : Option (Token × List Char) :=
  let digits := cs.takeWhile Char.isDigit
  if digits.isEmpty then none
  else match cs.dropWhile Char.isDigit with
    | '\x7d' :: rest => some (tabstop digits true, rest)
    | ':' :: '\x7d' :: rest => some (emptyDefault digits, rest)
    | ':' :: rest => if closesOnLine rest then some (opening digits, rest) else none
    | _ => none

def stop? (cs : List Char) : Option (Token × List Char) :=
  let digits := cs.takeWhile Char.isDigit
  if digits.isEmpty then
    match cs with
    | '\x7b' :: rest => bracedStop? rest
    | _ => none
  else some (tabstop digits false, cs.dropWhile Char.isDigit)

def next (c : Char) (cs : List Char) : Token × List Char :=
  if c = '$' then (stop? cs).getD (stray c, cs)
  else if c = '\x7d' then (brace, cs)
  else if c = '\\' then
    match cs with
    | e :: rest => if isSpecial e then (escaped e, rest) else (stray c, cs)
    | [] => (stray c, cs)
  else (plain c, cs)

theorem source_bracedStop? {cs rest : List Char} {token : Token}
    (h : bracedStop? cs = some (token, rest)) : token.source ++ rest = '$' :: '\x7b' :: cs := by
  have split := List.takeWhile_append_dropWhile (p := Char.isDigit) (l := cs)
  simp only [bracedStop?] at h
  split at h
  · cases h
  · split at h
    · next tail eq =>
      obtain ⟨rfl, rfl⟩ : tabstop (cs.takeWhile Char.isDigit) true = token ∧ tail = rest := by
        simpa using h
      rw [eq] at split
      simpa [source] using split
    · next tail eq =>
      obtain ⟨rfl, rfl⟩ : emptyDefault (cs.takeWhile Char.isDigit) = token ∧ tail = rest := by
        simpa using h
      rw [eq] at split
      simpa [source] using split
    · next tail _ eq =>
      split at h
      · obtain ⟨rfl, rfl⟩ : opening (cs.takeWhile Char.isDigit) = token ∧ tail = rest := by
          simpa using h
        rw [eq] at split
        simpa [source] using split
      · cases h
    · cases h

theorem source_stop? {cs rest : List Char} {token : Token}
    (h : stop? cs = some (token, rest)) : token.source ++ rest = '$' :: cs := by
  simp only [stop?] at h
  split at h
  · split at h
    · exact source_bracedStop? h
    · cases h
  · obtain ⟨rfl, rfl⟩ : tabstop (cs.takeWhile Char.isDigit) false = token ∧
        cs.dropWhile Char.isDigit = rest := by simpa using h
    simp [source, List.takeWhile_append_dropWhile]

theorem source_next (c : Char) (cs : List Char) :
    (next c cs).1.source ++ (next c cs).2 = c :: cs := by
  unfold next
  split
  · next h =>
    subst h
    cases eq : stop? cs with
    | none => simp [source]
    | some result => simpa using source_stop? eq
  · split
    · next h => simp [source, h]
    · split
      · next h =>
        subst h
        split
        · split <;> simp [source]
        · simp [source]
      · simp [source]

theorem source_length_pos (token : Token) : 0 < token.source.length := by
  cases token <;> simp [source]
  split <;> simp

theorem length_next (c : Char) (cs : List Char) : (next c cs).2.length < (c :: cs).length := by
  have total := congrArg List.length (source_next c cs)
  have := source_length_pos (next c cs).1
  simp only [List.length_append] at total
  omega

end Token

def tokens : List Char → List Token
  | [] => []
  | c :: cs => (Token.next c cs).1 :: tokens (Token.next c cs).2
termination_by cs => cs.length
decreasing_by exact Token.length_next c cs

def source (ts : List Token) : List Char := ts.flatMap Token.source

theorem source_tokens (cs : List Char) : source (tokens cs) = cs := by
  induction cs using tokens.induct with
  | case1 => simp [tokens, source]
  | case2 c cs ih =>
    rw [tokens, source, List.flatMap_cons]
    rw [source] at ih
    rw [ih, Token.source_next]

end Autocomplete.Snippet
