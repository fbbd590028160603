/-
**What scalars stand for.**

A plain scalar without a tag is null, a Boolean, an integer, a float or a text, in this order.
Digits with a zero in front are a text. A tag of the common ones decides what a scalar has to be,
and any other makes it a text.
-/

import ResourceGraph.Json.Basic
import ResourceGraph.Text.Digits
import ResourceGraph.Text.Hex
import ResourceGraph.Text.Search
import ResourceGraph.Yaml.Fault

namespace ResourceGraph.Yaml.Meaning

/-- The words for null. -/
def isNullWord (text : String) : Bool :=
  ["null", "Null", "NULL", "~"].contains text

/-- The words for Booleans. -/
def boolOf? (text : String) : Option Bool :=
  if ["true", "True", "TRUE"].contains text then some true
  else if ["false", "False", "FALSE"].contains text then some false
  else none

/-- The characters behind a sign, if there is one. -/
def unsigned : List Char → List Char
  | '+' :: rest => rest
  | '-' :: rest => rest
  | rest => rest

/-- Digits with a zero in front. -/
def isPaddedNumber (text : List Char) : Bool :=
  match unsigned text with
  | '0' :: c :: rest => (c :: rest).all Char.isDigit
  | _ => false

/-- The digits of a number to a base of at most sixteen. -/
def numberOf? (base : Nat) (digits : List Char) : Option Nat :=
  if digits.isEmpty then none
  else
    digits.foldlM (fun value c =>
      (Text.hexValue? c).bind fun digit =>
        if digit < base then some (value * base + digit) else none) 0

/-- The marks of the bases. -/
def bases : List (List Char × Nat) :=
  [(['0', 'x'], 16), (['0', 'o'], 8), (['0', 'b'], 2)]

/-- The magnitude of an integer without a sign, in some base. -/
def magnitude? (text : List Char) : Option Nat :=
  (bases.findSome? fun base =>
      (Text.afterPrefix? base.1 text).bind fun digits => numberOf? base.2 digits).or
    (if isPaddedNumber text then none else numberOf? 10 text)

/-- The integer that a text writes. -/
def integerOf? : List Char → Option Int
  | '-' :: rest => (magnitude? rest).map fun value => -(value : Int)
  | '+' :: rest => (magnitude? rest).map fun value => (value : Int)
  | rest => (magnitude? rest).map fun value => (value : Int)

/-- Whether 64 bits hold an integer. -/
def fits64 (value : Int) : Bool :=
  -(Nat.pow 2 63) ≤ value && value < Nat.pow 2 64

/-- Whether 128 bits hold an integer. -/
def fits128 (value : Int) : Bool :=
  -(Nat.pow 2 127) ≤ value && value < Nat.pow 2 128

/-- The words for infinity and for what is no number; they have no value. -/
def isNoNumber (text : String) : Bool :=
  [".inf", ".Inf", ".INF", "+.inf", "+.Inf", "+.INF", "-.inf", "-.Inf", "-.INF", ".nan", ".NaN",
    ".NAN"].contains text

/-- The exponent at the end of a float. -/
def exponentOf? : List Char → Option Int
  | [] => some 0
  | c :: rest =>
    if c ≠ 'e' ∧ c ≠ 'E' then none
    else
      let (negative, digits) :=
        match rest with
        | '-' :: digits => (true, digits)
        | '+' :: digits => (false, digits)
        | digits => (false, digits)
      if digits.isEmpty || !digits.all Char.isDigit then none
      else
        let value : Int := Text.digitsValue digits
        some (if negative then -value else value)

/-- The float that a text writes: digits with a point somewhere or none, and an exponent. The
nearest double counts; there is none past the largest. -/
def floatOf? (text : List Char) : Option Binary64 := do
  let negative := text.head? == some '-'
  let (whole, rest) := Text.takeDigits (unsigned text)
  let (fraction, rest) :=
    match rest with
    | '.' :: rest => Text.takeDigits rest
    | rest => ([], rest)
  let exponent ← exponentOf? rest
  if whole.isEmpty && fraction.isEmpty then none
  else
    Binary64.ofDecimal? negative (Text.digitsValue (whole ++ fraction))
      (exponent - (fraction.length : Int))

/-- The value of an integer, if 64 bits hold it; one of up to 128 bits is a fault, and a wider one
is none. -/
def integerValue? (text : String) : Option (Except Fault Json) := do
  let value ← integerOf? text.toList
  if fits64 value then some (.ok (.number (.integer value)))
  else if fits128 value then some (.error (.scalar text))
  else none

/-- The value of a float; infinity and no number are null. -/
def floatValue? (text : String) : Option Json :=
  if isNoNumber text then some .null
  else (floatOf? text.toList).map fun value => .number (.double value)

/-- The value of a plain scalar without a tag. -/
def ofPlain (text : String) : Except Fault Json :=
  if text.isEmpty || isNullWord text then .ok .null
  else
    match boolOf? text with
    | some value => .ok (.bool value)
    | none =>
      match integerValue? text with
      | some value => value
      | none =>
        if isPaddedNumber text.toList then .ok (.string text)
        else .ok ((floatValue? text).getD (.string text))

/-- A common tag. -/
def commonTag (name : String) : String :=
  "tag:yaml.org,2002:" ++ name

/-- The value of a scalar with a tag. -/
def ofTagged (tag text : String) : Except Fault Json :=
  if tag = commonTag "bool" then
    (boolOf? text).elim (.error (.scalar text)) fun value => .ok (.bool value)
  else if tag = commonTag "int" then (integerValue? text).getD (.error (.scalar text))
  else if tag = commonTag "float" then (floatValue? text).elim (.error (.scalar text)) .ok
  else if tag = commonTag "null" then
    if isNullWord text then .ok .null else .error (.scalar text)
  else .ok (.string text)

/-- Whether a tag is one of the document's own. -/
def isCustomTag (tag : String) : Bool :=
  tag.startsWith "!"

/-- The value of a scalar. -/
def ofScalar (tag : Option String) (text : String) (plain : Bool) : Except Fault Json :=
  match tag with
  | some tag => if isCustomTag tag then .error .customTag else ofTagged tag text
  | none => if plain then ofPlain text else .ok (.string text)

end ResourceGraph.Yaml.Meaning
