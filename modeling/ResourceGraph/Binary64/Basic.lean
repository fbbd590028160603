/-
**Finite double-precision numbers.**

`Binary64` holds exactly the finite IEEE 754 doubles: a sign, an exponent field below 2047 and a
fraction of 52 bits. The magnitude of a number is `significand · 2 ^ scale`. All arithmetic is exact
arithmetic on natural numbers followed by one rounding:

* `nearest`: the double nearest to a quotient of naturals, ties to even, `none` past the range;
* `times`, `dividedBy`: product and quotient of magnitudes, rounded once.
-/

namespace ResourceGraph

/-- A finite double: sign, exponent field and fraction field. -/
structure Binary64 where
  negative : Bool
  exponent : Fin 2047
  fraction : Fin (Nat.pow 2 52)
deriving DecidableEq, Repr

namespace Binary64

instance : Inhabited Binary64 := ⟨false, 0, 0⟩

/-- Zero of the given sign. -/
def zero (negative : Bool) : Binary64 := ⟨negative, 0, 0⟩

/-- The integer significand: the hidden bit is there unless the exponent field is zero. -/
def significand (x : Binary64) : Nat :=
  if x.exponent.val = 0 then x.fraction.val else Nat.pow 2 52 + x.fraction.val

/-- The power of two that scales the significand. -/
def scale (x : Binary64) : Int :=
  if x.exponent.val = 0 then -1074 else (x.exponent.val : Int) - 1075

/-- Whether the number is one of the two zeros. -/
def isZero (x : Binary64) : Bool :=
  x.significand == 0

/-- `num / den · 2 ^ shift` as a quotient of naturals. -/
def shifted (num den : Nat) (shift : Int) : Nat × Nat :=
  match shift with
  | .ofNat up => (num * Nat.pow 2 up, den)
  | .negSucc down => (num, den * Nat.pow 2 (down + 1))

/-- The magnitude as a quotient of naturals. -/
def magnitude (x : Binary64) : Nat × Nat :=
  shifted x.significand 1 x.scale

/-- The integer nearest to `num / den`, ties to even. -/
def roundHalfEven (num den : Nat) : Nat :=
  let quotient := num / den
  let twice := 2 * (num % den)
  if twice < den then quotient
  else if den < twice then quotient + 1
  else quotient + quotient % 2

/-- The integer part of the binary logarithm of `num / den`. -/
def floorLog2 (num den : Nat) : Int :=
  let guess : Int := (num.log2 : Int) - (den.log2 : Int)
  let (n, d) := shifted num den (-guess)
  if n < d then guess - 1 else guess

/-- The double of a rounded significand at most `2 ^ 53`; `none` past the largest double. -/
def assemble (negative : Bool) (rounded : Nat) (scale : Int) : Option Binary64 :=
  let (m, q) := if rounded = Nat.pow 2 53 then (Nat.pow 2 52, scale + 1) else (rounded, scale)
  let field := if m < Nat.pow 2 52 then 0 else (q + 1075).toNat
  if inRange : field < 2047 then
    some ⟨negative, ⟨field, inRange⟩, ⟨m % Nat.pow 2 52, Nat.mod_lt _ (by decide)⟩⟩
  else none

/-- The double nearest to `± num / den`, ties to even; `none` when it lies past the largest
double. -/
def nearest (negative : Bool) (num den : Nat) : Option Binary64 :=
  if num = 0 then some (zero negative)
  else
    let scale := max (floorLog2 num den - 52) (-1074)
    let (n, d) := shifted num den (-scale)
    assemble negative (roundHalfEven n d) scale

/-- The double nearest to a natural number. -/
def ofNat? (value : Nat) : Option Binary64 :=
  nearest false value 1

/-- The product of two magnitudes, rounded once. -/
def times (x y : Binary64) : Option Binary64 :=
  let (a, b) := x.magnitude
  let (c, d) := y.magnitude
  nearest false (a * c) (b * d)

/-- The quotient of two magnitudes, rounded once; `none` when the divisor is zero. -/
def dividedBy (x y : Binary64) : Option Binary64 :=
  let (a, b) := x.magnitude
  let (c, d) := y.magnitude
  if c = 0 then none else nearest false (a * d) (b * c)

/-- The same magnitude with the given sign. -/
def withSign (negative : Bool) (x : Binary64) : Binary64 :=
  { x with negative := negative }

/-- The double nearest to `± digits · 10 ^ exponent`, ties to even. Exponents that cannot matter are
cut off before any power is formed. -/
def ofDecimal? (negative : Bool) (digits : Nat) (exponent : Int) : Option Binary64 :=
  let length : Int := (Nat.toDigits 10 digits).length
  if digits = 0 then some (zero negative)
  else if 310 < exponent + length then none
  else if exponent + length < -330 then some (zero negative)
  else
    match exponent with
    | .ofNat up => nearest negative (digits * Nat.pow 10 up) 1
    | .negSucc down => nearest negative digits (Nat.pow 10 (down + 1))

end Binary64

end ResourceGraph
