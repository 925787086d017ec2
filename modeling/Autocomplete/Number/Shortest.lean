import Autocomplete.Number.Binary64
import Autocomplete.Number.Decimal

/-!
# The shortest decimal of a double

A finite double is written with the fewest digits that read back as the same double, and with the
nearest of those decimals if there are several. From `10 ^ -4` up to `10 ^ 16` the notation is
positional, with a fraction of at least one digit; beyond, the exponent has two digits or more.
-/

namespace Autocomplete.Number.Binary64

/-- A positive double and the ends of the interval that rounds to it, as multiples of one unit. The
ends belong to the interval when the mantissa is even. -/
structure Interval where
  value : Nat
  low : Nat
  high : Nat
  closed : Bool
  deriving Repr

/-- The interval of `mantissa * 2 ^ exponent`, in units of `2 ^ (exponent - 2)`. Below a power of
two the doubles lie twice as dense. -/
def interval (mantissa : Nat) (exponent : Int) : Interval :=
  let dense := mantissa = leastLong ∧ minExponent < exponent
  ⟨4 * mantissa, if dense then 4 * mantissa - 1 else 4 * mantissa - 2, 4 * mantissa + 2,
    mantissa % 2 == 0⟩

def Interval.scale (i : Interval) (factor : Nat) : Interval :=
  ⟨i.value * factor, i.low * factor, i.high * factor, i.closed⟩

def Interval.contains (i : Interval) (n : Nat) : Bool :=
  if i.closed then i.low ≤ n && n ≤ i.high else i.low < n && n < i.high

def Interval.nearestMultiple? (i : Interval) (step : Nat) : Option Nat :=
  let below := i.value / step
  let above := below + 1
  match i.contains (below * step), i.contains (above * step) with
  | true, true =>
    let down := i.value - below * step
    let up := above * step - i.value
    if down < up then some below
    else if up < down then some above
    else some (below + below % 2)
  | true, false => some below
  | false, true => some above
  | false, false => none

/-- The coarsest of `fuel` grids, each ten times finer than the one before, that has a point in the
interval: the point and the power of ten of the grid. -/
def coarsest (mantissa : Nat) (exponent : Int) : (fuel : Nat) → (grid : Int) → Nat × Int
  | 0, grid => (0, grid)
  | fuel + 1, grid =>
    let unit := exponent - 2
    let ends := (interval mantissa exponent).scale (Nat.pow 2 unit.toNat * Nat.pow 10 (-grid).toNat)
    match ends.nearestMultiple? (Nat.pow 10 grid.toNat * Nat.pow 2 (-unit).toNat) with
    | some n => (n, grid)
    | none => coarsest mantissa exponent fuel (grid - 1)

def tenPowerAbove (mantissa : Nat) (exponent : Int) : Int :=
  if 0 ≤ exponent then (Nat.toDigits 10 (mantissa * Nat.pow 2 exponent.toNat)).length
  else
    let whole := mantissa / Nat.pow 2 (-exponent).toNat
    if whole = 0 then 2 - (Nat.toDigits 10 (Nat.pow 2 (-exponent).toNat / mantissa)).length
    else (Nat.toDigits 10 whole).length

def shortest (mantissa : Nat) (exponent : Int) : Nat × Int :=
  coarsest mantissa exponent 20 (tenPowerAbove mantissa exponent)

def exponentText (exponent : Int) : List Char :=
  let magnitude := digits exponent.natAbs
  (if exponent < 0 then '-' else '+') ::
    (if magnitude.length < 2 then '0' :: magnitude else magnitude)

def place (ds : List Char) (point : Int) : List Char :=
  if point ≤ -4 ∨ 16 < point then
    match ds with
    | [] => []
    | [d] => d :: 'e' :: exponentText (point - 1)
    | d :: rest => d :: '.' :: rest ++ 'e' :: exponentText (point - 1)
  else if point ≤ 0 then '0' :: '.' :: List.replicate (-point).toNat '0' ++ ds
  else
    let whole := point.toNat
    if ds.length ≤ whole then ds ++ List.replicate (whole - ds.length) '0' ++ ['.', '0']
    else ds.take whole ++ '.' :: ds.drop whole

def dropTrailingZeros (ds : List Char) : List Char :=
  (ds.reverse.dropWhile (· == '0')).reverse

def text : Binary64 → String
  | nan => "nan"
  | infinite negative => if negative then "-inf" else "inf"
  | finite negative mantissa exponent =>
    let sign := if negative then ['-'] else []
    if mantissa = 0 then String.ofList (sign ++ ['0', '.', '0'])
    else
      let (n, grid) := shortest mantissa exponent
      let ds := digits n
      String.ofList (sign ++ place (dropTrailingZeros ds) (ds.length + grid))

end Autocomplete.Number.Binary64
