namespace Autocomplete

structure NoElement where
  index : Int
  deriving DecidableEq, Repr

def indexBound : Int := 9223372036854775808

def NoElement.message (fault : NoElement) (sequence : String) : String :=
  if -indexBound ≤ fault.index ∧ fault.index < indexBound then sequence ++ " index out of range"
  else "cannot fit 'int' into an index-sized integer"

def elementAt (elements : List α) (index : Int) : Except NoElement α :=
  let position := if index < 0 then index + elements.length else index
  if position < 0 then .error ⟨index⟩
  else match elements[position.toNat]? with
    | some element => .ok element
    | none => .error ⟨index⟩

theorem elementAt_of_nonneg (elements : List α) (i : Nat) (h : i < elements.length) :
    elementAt elements i = .ok elements[i] := by
  have nonneg : ¬ (i : Int) < 0 := by omega
  simp [elementAt, nonneg, h]

end Autocomplete
