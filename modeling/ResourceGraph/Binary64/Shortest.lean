/-
**The shortest decimal of a double.**

A decimal reads back as `x` when it lies in the interval of reals that round to `x`. `shortest`
tries the grids of 1, 2, … 17 significant digits in turn: on each it takes the two neighbours of the
magnitude, and the first grid with a neighbour inside the interval gives the answer, the nearer one
if both are inside, the even one at an exact tie.

`Layout` holds the choices that are the text's and not the number's: which exponents are written
positionally.
-/

import ResourceGraph.Binary64.Basic
import ResourceGraph.Text.Digits

namespace ResourceGraph.Binary64

/-- A decimal `digits · 10 ^ exponent`. -/
structure Decimal where
  digits : Nat
  exponent : Int
deriving DecidableEq, Repr

/-- `num / den · 10 ^ shift` as a quotient of naturals. -/
def shiftedTen (num den : Nat) (shift : Int) : Nat × Nat :=
  match shift with
  | .ofNat up => (num * Nat.pow 10 up, den)
  | .negSucc down => (num, den * Nat.pow 10 (down + 1))

/-- Whether `10 ^ exponent ≤ num / den`. -/
def tenPowerLe (exponent : Int) (num den : Nat) : Bool :=
  let (n, d) := shiftedTen num den (-exponent)
  d ≤ n

/-- The integer part of the decimal logarithm of `num / den`. -/
def floorLog10 (num den : Nat) : Int :=
  let guess := Int.fdiv (floorLog2 num den * 30103) 100000
  if tenPowerLe (guess + 1) num den then guess + 1
  else if tenPowerLe guess num den then guess
  else guess - 1

/-- The interval of reals that round to a nonzero double, as numerators over one denominator: lower
end, value, upper end. -/
structure Neighbourhood where
  lower : Nat
  value : Nat
  upper : Nat
  den : Nat
  closed : Bool

/-- The reals that round to the magnitude of `x`. The gap below a power of two is half as wide as
the gap above it; the ends belong to the interval when the significand is even. -/
def neighbourhood (x : Binary64) : Neighbourhood :=
  let m := x.significand
  let below := if x.fraction.val = 0 ∧ 1 < x.exponent.val then 1 else 2
  let (unit, den) := shifted 1 4 x.scale
  ⟨(4 * m - below) * unit, 4 * m * unit, (4 * m + 2) * unit, den, m % 2 == 0⟩

/-- Whether `digits · 10 ^ exponent` rounds to the double of the neighbourhood. -/
def Neighbourhood.holds (hood : Neighbourhood) (decimal : Decimal) : Bool :=
  let (n, d) := shiftedTen decimal.digits 1 decimal.exponent
  let point := n * hood.den
  let lower := hood.lower * d
  let upper := hood.upper * d
  if hood.closed then lower ≤ point && point ≤ upper else lower < point && point < upper

/-- The best point of the grid `10 ^ exponent` that rounds to the double, if there is one. -/
def Neighbourhood.onGrid? (hood : Neighbourhood) (exponent : Int) : Option Decimal :=
  let (n, d) := shiftedTen hood.value hood.den (-exponent)
  let floor := n / d
  let low : Decimal := ⟨floor, exponent⟩
  let high : Decimal := ⟨floor + 1, exponent⟩
  match hood.holds low && 0 < floor, hood.holds high with
  | true, true =>
    let twice := 2 * (n % d)
    if twice < d then some low
    else if d < twice then some high
    else if floor % 2 = 0 then some low else some high
  | true, false => some low
  | false, true => some high
  | false, false => none

/-- The shortest decimal that reads back as the magnitude of a nonzero double. -/
def shortest (x : Binary64) : Decimal :=
  let hood := neighbourhood x
  let top := floorLog10 hood.value hood.den
  let grids := (List.range 17).map fun (count : Nat) => top - (count : Int)
  (grids.findSome? hood.onGrid?).getD ⟨x.significand, 0⟩

/-- Which decimal exponents are written positionally. -/
structure Layout where
  lowest : Int
  highest : Int
deriving DecidableEq, Repr

/-- The exponent part: mark, explicit sign, digits. -/
def exponentText (exponent : Int) : List Char :=
  'e' :: (if exponent < 0 then '-' else '+') :: Text.decimalDigits exponent.natAbs

/-- The significant digits of a decimal, without zeros at the end. -/
def significantDigits (decimal : Decimal) : List Char :=
  ((Text.decimalDigits decimal.digits).reverse.dropWhile (· == '0')).reverse

/-- The digits of a number whose first digit stands at `10 ^ exponent`, in positional notation. -/
def positional (digits : List Char) (exponent : Int) : List Char :=
  match exponent with
  | .ofNat up =>
    let whole := digits.take (up + 1) ++ List.replicate (up + 1 - digits.length) '0'
    let rest := digits.drop (up + 1)
    whole ++ '.' :: (if rest.isEmpty then ['0'] else rest)
  | .negSucc down => '0' :: '.' :: (List.replicate down '0' ++ digits)

/-- The digits of a number whose first digit stands at `10 ^ exponent`, with an exponent. -/
def scientific (digits : List Char) (exponent : Int) : List Char :=
  match digits with
  | [] => ['0']
  | [only] => only :: exponentText exponent
  | first :: rest => first :: '.' :: (rest ++ exponentText exponent)

/-- The text of a double: its shortest decimal, positional for the exponents of the layout. -/
def render (layout : Layout) (x : Binary64) : String :=
  let sign := if x.negative then ['-'] else []
  let body :=
    if x.isZero then ['0', '.', '0']
    else
      let decimal := shortest x
      let exponent := decimal.exponent + (Text.decimalDigits decimal.digits).length - 1
      let digits := significantDigits decimal
      if layout.lowest ≤ exponent ∧ exponent ≤ layout.highest then positional digits exponent
      else scientific digits exponent
  String.ofList (sign ++ body)

end ResourceGraph.Binary64
