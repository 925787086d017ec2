namespace Autocomplete.Text

abbrev Ranges := List (Nat × Nat)

def Ranges.contains (table : Ranges) (c : Char) : Bool :=
  table.any fun range => range.1 ≤ c.toNat && c.toNat ≤ range.2

/-- The code points `first`, `first + step`, … up to `last`. -/
structure Stride where
  first : Nat
  last : Nat
  step : Nat

def Stride.contains (stride : Stride) (c : Char) : Bool :=
  stride.first ≤ c.toNat && c.toNat ≤ stride.last && (c.toNat - stride.first) % stride.step == 0

end Autocomplete.Text
