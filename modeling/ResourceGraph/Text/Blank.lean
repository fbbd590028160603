/-
**White space and trimming.**

Blank characters are those with the Unicode property `White_Space`. Trimming removes them at both
ends and nowhere else; a text is blank when nothing is left.
-/

namespace ResourceGraph.Text

/-- The characters with the Unicode property `White_Space`. -/
def isBlank (c : Char) : Bool :=
  let code := c.toNat
  (9 ≤ code && code ≤ 13) || code == 0x20 || code == 0x85 || code == 0xA0 || code == 0x1680 ||
    (0x2000 ≤ code && code ≤ 0x200A) || code == 0x2028 || code == 0x2029 || code == 0x202F ||
    code == 0x205F || code == 0x3000

/-- The characters from the first that is not blank on. -/
def trimLeft (chars : List Char) : List Char :=
  chars.dropWhile isBlank

/-- The characters up to the last that is not blank. -/
def trimRight (chars : List Char) : List Char :=
  (chars.reverse.dropWhile isBlank).reverse

/-- The text without its blank characters at both ends. -/
def trim (text : String) : String :=
  String.ofList (trimRight (trimLeft text.toList))

/-- Nothing but blank characters. -/
def isBlankText (text : String) : Bool :=
  text.toList.all isBlank

end ResourceGraph.Text
