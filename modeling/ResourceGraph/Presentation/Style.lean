/-
**Styled text.**

A style is written as an escape sequence before the text and a closing one after it. Where the text
itself closes a style, the style is opened again.
-/

namespace ResourceGraph

/-- The ways in which text stands out. -/
inductive Style where
  | red
  | green
  | yellow
  | bold
  | dimmed
  | boldRed
deriving DecidableEq, Repr

namespace Style

/-- The codes of a style. -/
def codes : Style → String
  | red => "31"
  | green => "32"
  | yellow => "33"
  | bold => "1"
  | dimmed => "2"
  | boldRed => "1;31"

/-- The sequence that opens a style. -/
def opening (style : Style) : List Char :=
  '\x1b' :: '[' :: (style.codes.toList ++ ['m'])

/-- The sequence that closes every style. -/
def closing : List Char := ['\x1b', '[', '0', 'm']

/-- The characters, with the style opened again after each closing sequence. The characters before
come in reverse order. -/
def reopened (style : Style) (before : List Char) : List Char → List Char
  | [] => []
  | c :: rest =>
    let before := c :: before
    let reopening := if closing.reverse.isPrefixOf before then style.opening else []
    c :: (reopening ++ reopened style before rest)

/-- The text in a style, or plain. -/
def paint (style : Style) (inColor : Bool) (text : String) : String :=
  if inColor then String.ofList (style.opening ++ style.reopened [] text.toList ++ closing)
  else text

end Style

end ResourceGraph
