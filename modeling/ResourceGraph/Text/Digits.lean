/-
**Decimal digits.**

Natural numbers are written without leading zeros and read from any run of ASCII digits.
-/

namespace ResourceGraph.Text

/-- The value of an ASCII digit. -/
def digitValue (c : Char) : Nat :=
  c.toNat - 48

/-- The number that a run of ASCII digits writes, continuing from `start`. -/
def digitsFrom (start : Nat) (digits : List Char) : Nat :=
  digits.foldl (fun value c => value * 10 + digitValue c) start

/-- The number that a run of ASCII digits writes. -/
def digitsValue (digits : List Char) : Nat :=
  digitsFrom 0 digits

/-- The ASCII digits at the start of the characters, and what follows them. -/
def takeDigits (chars : List Char) : List Char × List Char :=
  (chars.takeWhile Char.isDigit, chars.dropWhile Char.isDigit)

/-- The decimal digits of a number. -/
def decimalDigits (value : Nat) : List Char :=
  Nat.toDigits 10 value

/-- A number in at least `width` digits, filled up with zeros on the left. -/
def padded (width value : Nat) : String :=
  let digits := decimalDigits value
  String.ofList (List.replicate (width - digits.length) '0' ++ digits)

/-- Both cases of the ASCII letters made equal. -/
def foldCase (chars : List Char) : List Char :=
  chars.map Char.toLower

end ResourceGraph.Text
