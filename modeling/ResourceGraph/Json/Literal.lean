/-
**Number literals.**

A literal is a sign, whole digits, and optionally a fraction and an exponent. `Literal.number?`
reads one without a fraction or an exponent as an integer if 64 bits hold it, and any other as a
double:

* the digits are gathered into a significand of 64 bits; whole digits that do not fit any more count
  as powers of ten, fraction digits that do not fit are dropped;
* the significand becomes a double, which is multiplied or divided by one power of ten, so the
  result is rounded twice and may differ from the nearest double in its last place;
* a literal past the largest double has no value.
-/

import ResourceGraph.Binary64.Basic
import ResourceGraph.Json.Basic
import ResourceGraph.Text.Digits

namespace ResourceGraph.Json

/-- The digits of a number literal. -/
structure Literal where
  negative : Bool
  whole : List Char
  fraction : List Char
  exponent : Option (Bool × List Char)
deriving DecidableEq, Repr

namespace Literal

/-- The largest significand. -/
def significandLimit : Nat := Nat.pow 2 64 - 1

/-- The largest exponent that is read as one. -/
def exponentLimit : Nat := Nat.pow 2 31 - 1

/-- Adds digits to a significand as long as it stays within its limit; the digits left over
follow. -/
def gather (significand : Nat) : List Char → Nat × List Char
  | [] => (significand, [])
  | digit :: rest =>
    let next := significand * 10 + Text.digitValue digit
    if next ≤ significandLimit then gather next rest else (significand, digit :: rest)

/-- A power of ten as a double. -/
def powerOfTen? (exponent : Nat) : Option Binary64 :=
  Binary64.nearest false (Nat.pow 10 exponent) 1

/-- A double multiplied or divided by a power of ten. Divisors past `10 ^ 308` are applied in two
steps; a third would leave zero. -/
def scaled? (value : Binary64) (exponent : Int) : Option Binary64 :=
  if value.isZero then some value
  else if 308 < exponent then none
  else if 0 ≤ exponent then do value.times (← powerOfTen? exponent.toNat)
  else if -308 ≤ exponent then do value.dividedBy (← powerOfTen? (-exponent).toNat)
  else if -616 ≤ exponent then do
    let lower ← value.dividedBy (← powerOfTen? 308)
    lower.dividedBy (← powerOfTen? (-exponent - 308).toNat)
  else some (Binary64.zero false)

/-- The double of a literal. -/
def double? (literal : Literal) : Option Binary64 := do
  let (whole, wholeLeft) := gather 0 literal.whole
  let (significand, fractionLeft) := gather whole literal.fraction
  let absorbed := literal.fraction.length - fractionLeft.length
  let start : Int := (wholeLeft.length : Int) - (absorbed : Int)
  let value ← Binary64.ofNat? significand
  let result ←
    match literal.exponent with
    | none => scaled? value start
    | some (downwards, digits) =>
      let exponent := Text.digitsValue digits
      if exponentLimit < exponent then
        if significand ≠ 0 && !downwards then none else some (Binary64.zero false)
      else scaled? value (if downwards then start - exponent else start + exponent)
  pure (result.withSign literal.negative)

/-- The integer of a literal without a fraction and an exponent, if 64 bits hold it. There is no
negative zero among the integers. -/
def integer? (literal : Literal) : Option Int :=
  let value := Text.digitsValue literal.whole
  if !literal.fraction.isEmpty || literal.exponent.isSome then none
  else if literal.negative then
    if 0 < value ∧ value ≤ Nat.pow 2 63 then some (-(value : Int)) else none
  else if value ≤ significandLimit then some value
  else none

/-- The number that a literal writes. -/
def number? (literal : Literal) : Option Number :=
  match literal.integer? with
  | some value => some (.integer value)
  | none => literal.double?.map .double

/-- The exponent at the start of the characters: the mark, a sign, and at least one digit. `none` if
the mark is there and no digit follows. -/
def takeExponent? : List Char → Option (Option (Bool × List Char) × List Char)
  | [] => some (none, [])
  | c :: rest =>
    if c ≠ 'e' ∧ c ≠ 'E' then some (none, c :: rest)
    else
      let (downwards, digits) :=
        match rest with
        | '+' :: digits => (false, digits)
        | '-' :: digits => (true, digits)
        | digits => (false, digits)
      let (run, rest) := Text.takeDigits digits
      if run.isEmpty then none else some (some (downwards, run), rest)

/-- The fraction at the start of the characters: a point and at least one digit. `none` if the point
is there and no digit follows. -/
def takeFraction? : List Char → Option (List Char × List Char)
  | '.' :: rest =>
    let (run, rest) := Text.takeDigits rest
    if run.isEmpty then none else some (run, rest)
  | rest => some ([], rest)

/-- The literal at the start of the characters, and what follows it. Whole digits start with a zero
only if it is the only one. -/
def take? (chars : List Char) : Option (Literal × List Char) := do
  let (negative, unsigned) :=
    match chars with
    | '-' :: rest => (true, rest)
    | rest => (false, rest)
  let (whole, rest) := Text.takeDigits unsigned
  let leadingZero := whole.head? == some '0' && whole.length ≠ 1
  if whole.isEmpty || leadingZero then none
  else
    let (fraction, rest) ← takeFraction? rest
    let (exponent, rest) ← takeExponent? rest
    pure (⟨negative, whole, fraction, exponent⟩, rest)

end Literal

end ResourceGraph.Json
