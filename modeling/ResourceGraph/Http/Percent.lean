/-
**Percent encoding.**

A byte that must not stand in an address is written as a percent sign and two hexadecimal digits.
Which characters may stand depends on the part of the address; other characters are never kept.
-/

import ResourceGraph.Text.Digits

namespace ResourceGraph.Percent

/-- The upper-case digit of a value below sixteen. -/
def upperHexDigit (value : Nat) : Char :=
  if value < 10 then Char.ofNat (48 + value) else Char.ofNat (55 + value)

/-- A byte as a percent sign and two digits. -/
def encodedByte (byte : UInt8) : List Char :=
  ['%', upperHexDigit (byte.toNat / 16), upperHexDigit (byte.toNat % 16)]

/-- The bytes of a character. -/
def encodedChar (c : Char) : List Char :=
  (String.singleton c).toUTF8.toList.flatMap encodedByte

/-- The characters, with all those encoded that are not kept. -/
def encode (keeps : Char → Bool) (chars : List Char) : List Char :=
  chars.flatMap fun c => if keeps c then [c] else encodedChar c

/-- Printable ASCII characters without the blank. -/
def isGraphic (c : Char) : Bool :=
  0x21 ≤ c.toNat && c.toNat ≤ 0x7E

/-- The characters that are kept in a path. -/
def keptInPath (c : Char) : Bool :=
  isGraphic c && !(['"', '<', '>', '\x60', '#', '?', '\x7b', '\x7d'].contains c)

/-- The characters that are kept in a query. -/
def keptInQuery (c : Char) : Bool :=
  isGraphic c && !(['"', '#', '<', '>', '\''].contains c)

/-- The characters that are kept in a field of a form. -/
def keptInForm (c : Char) : Bool :=
  c.isAlphanum || ['*', '-', '.', '_'].contains c

/-- A name or value of a form, where a plus sign stands for a blank. -/
def formText (text : String) : List Char :=
  text.toList.flatMap fun c => if c = ' ' then ['+'] else encode keptInForm [c]

/-- The fields of a form. -/
def form (fields : List (String × String)) : String :=
  String.ofList (['&'].intercalate (fields.map fun field =>
    formText field.1 ++ '=' :: formText field.2))

end ResourceGraph.Percent
