/-
**Positions in a text.**

A cursor is the rest of a text with the line, the column and the index that it starts at. Past the
end the cursor sees a null character, which no text holds.
-/

namespace ResourceGraph.Yaml

/-- What no text holds. -/
def endMark : Char := '\x00'

/-- Line breaks: CR, LF, NEL, LS and PS. -/
def isBreak (c : Char) : Bool :=
  c == '\n' || c == '\r' || c == '\u0085' || c == '\u2028' || c == '\u2029'

/-- A space or a tab. -/
def isGap (c : Char) : Bool :=
  c == ' ' || c == '\t'

/-- A line break or the end. -/
def isBreakOrEnd (c : Char) : Bool :=
  isBreak c || c == endMark

/-- A space, a tab, a line break or the end. -/
def isGapOrEnd (c : Char) : Bool :=
  isGap c || isBreakOrEnd c

/-- A letter, a digit, a hyphen or an underscore. -/
def isWord (c : Char) : Bool :=
  c.isAlphanum || c == '-' || c == '_'

/-- Whether a text may hold a character. -/
def isAllowed (c : Char) : Bool :=
  let code := c.toNat
  code == 0x09 || code == 0x0A || code == 0x0D || (0x20 ≤ code && code ≤ 0x7E) || code == 0x85 ||
    (0xA0 ≤ code && code ≤ 0xD7FF) || (0xE000 ≤ code && code ≤ 0xFFFD) || 0x10000 ≤ code

/-- The rest of a text and where it starts. -/
structure Cursor where
  rest : List Char
  line : Nat
  column : Nat
  index : Nat
deriving DecidableEq, Repr

namespace Cursor

/-- The start of a text. -/
def start (text : List Char) : Cursor := ⟨text, 0, 0, 0⟩

/-- The character some places ahead. -/
def peek (cursor : Cursor) (ahead : Nat) : Char :=
  (cursor.rest.drop ahead).headD endMark

/-- The character at the cursor. -/
def head (cursor : Cursor) : Char :=
  cursor.rest.headD endMark

/-- Whether nothing is left. -/
def isAtEnd (cursor : Cursor) : Bool :=
  cursor.head == endMark

/-- Moves past characters of one line. -/
def advance (cursor : Cursor) (count : Nat) : Cursor :=
  ⟨cursor.rest.drop count, cursor.line, cursor.column + count, cursor.index + count⟩

/-- Moves past a line break; CR and LF together are one. -/
def nextLine (cursor : Cursor) : Cursor :=
  match cursor.rest with
  | '\r' :: '\n' :: rest => ⟨rest, cursor.line + 1, 0, cursor.index + 2⟩
  | c :: rest => if isBreak c then ⟨rest, cursor.line + 1, 0, cursor.index + 1⟩ else cursor
  | [] => cursor

/-- What the line break at the cursor stands for: LS and PS for themselves, any other for LF. -/
def breakText (cursor : Cursor) : List Char :=
  let c := cursor.head
  if c = '\u2028' ∨ c = '\u2029' then [c] else if isBreak c then ['\n'] else []

/-- Moves past the characters of a class on one line. -/
def skipWhile (cursor : Cursor) (keep : Char → Bool) : Cursor :=
  cursor.advance (cursor.rest.takeWhile keep).length

/-- Moves past a comment, if there is one. -/
def skipComment (cursor : Cursor) : Cursor :=
  if cursor.head = '#' then cursor.skipWhile fun c => !isBreak c else cursor

/-- Whether a line starts here with a mark of three characters that stands alone. -/
def hasMark (cursor : Cursor) (mark : Char) : Bool :=
  cursor.column == 0 && cursor.peek 0 == mark && cursor.peek 1 == mark && cursor.peek 2 == mark &&
    isGapOrEnd (cursor.peek 3)

/-- Whether a document starts or ends here. -/
def isAtDocumentMark (cursor : Cursor) : Bool :=
  cursor.hasMark '-' || cursor.hasMark '.'

end Cursor

end ResourceGraph.Yaml
