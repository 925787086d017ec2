namespace Autocomplete.Number

def digits (n : Nat) : List Char := Nat.toDigits 10 n

def decimal : Int → List Char
  | .ofNat n => digits n
  | .negSucc n => '-' :: digits (n + 1)

def text (n : Int) : String := String.ofList (decimal n)

/-- The length of the longest string of digits that is read or printed. -/
def digitLimit : Nat := 4300

structure DigitOverflow where
  count : Nat
  deriving DecidableEq, Repr

def limitMessage (detail : String) : String :=
  "Exceeds the limit (" ++ text digitLimit ++ " digits) for integer string conversion" ++ detail ++
    "; use sys.set_int_max_str_digits() to increase the limit"

def DigitOverflow.message (overflow : DigitOverflow) : String :=
  limitMessage (": value has " ++ text overflow.count ++ " digits")

def printed? (n : Int) : Option String :=
  if (digits n.natAbs).length ≤ digitLimit then some (text n) else none

def ofDigits (cs : List Char) : Except DigitOverflow Nat :=
  if cs.length ≤ digitLimit then .ok (Nat.ofDigitChars 10 cs 0) else .error ⟨cs.length⟩

theorem isDigit_of_mem_digits {n : Nat} {c : Char} (h : c ∈ digits n) : c.isDigit :=
  Nat.isDigit_of_mem_toDigits (by decide) (by decide) h

theorem digits_ne_nil (n : Nat) : digits n ≠ [] := Nat.toDigits_ne_nil

theorem ofDigits_digits {n : Nat} (short : (digits n).length ≤ digitLimit) :
    ofDigits (digits n) = .ok n := by
  rw [ofDigits, if_pos short, digits, Nat.ofDigitChars_toDigits (by decide) (by decide)]

theorem ofDigits_eq_error_iff {cs : List Char} {overflow : DigitOverflow} :
    ofDigits cs = .error overflow ↔ digitLimit < cs.length ∧ overflow = ⟨cs.length⟩ := by
  unfold ofDigits
  split
  · simp only [reduceCtorEq, false_iff]; omega
  · simp only [Except.error.injEq]
    exact ⟨fun h => ⟨by omega, h.symm⟩, fun h => h.2.symm⟩

end Autocomplete.Number
