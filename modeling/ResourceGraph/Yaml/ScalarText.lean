/-
**Plain and quoted scalars.**

Inside a scalar, blanks and line breaks between two words are a `Gap`: on one line they stay, over
several lines a single break becomes a space and further breaks stay breaks.
-/

import ResourceGraph.Text.Hex
import ResourceGraph.Yaml.Cursor
import ResourceGraph.Yaml.Fault

namespace ResourceGraph.Yaml

/-- Blanks and line breaks between words. -/
structure Gap where
  /-- Blanks before the first break. -/
  blanks : List Char
  /-- What the first break stands for, if there is one; an escaped break stands for nothing. -/
  first : Option (List Char)
  /-- What the further breaks stand for. -/
  further : List Char
deriving DecidableEq, Repr

namespace Gap

/-- Nothing. -/
def none : Gap := ⟨[], Option.none, []⟩

/-- A gap that starts with an escaped break. -/
def escapedBreak : Gap := ⟨[], some [], []⟩

/-- What a gap stands for between two words. -/
def text (gap : Gap) : List Char :=
  match gap.first with
  | .none => gap.blanks
  | some ['\n'] => if gap.further.isEmpty then [' '] else gap.further
  | some first => first ++ gap.further

/-- The gap from a cursor on, and where it ends. With an indentation, a tab before it is a fault. -/
def take (indentation : Option Int) (gap : Gap) (cursor : Cursor) :
    Nat → Except Fault (Gap × Cursor)
  | 0 => .ok (gap, cursor)
  | fuel + 1 =>
    let c := cursor.head
    if isGap c then
      if gap.first.isSome && c == '\t' && indentation.any ((cursor.column : Int) < ·) then
        .error .tabIndentation
      else if gap.first.isSome then take indentation gap (cursor.advance 1) fuel
      else take indentation { gap with blanks := gap.blanks ++ [c] } (cursor.advance 1) fuel
    else if isBreak c then
      let next :=
        if gap.first.isSome then { gap with further := gap.further ++ cursor.breakText }
        else ⟨[], some cursor.breakText, []⟩
      take indentation next cursor.nextLine fuel
    else .ok (gap, cursor)

end Gap

/-! ### Plain scalars -/

/-- The marks that end a plain scalar inside a flow collection. -/
def isFlowMark (c : Char) : Bool :=
  c == ',' || c == '[' || c == ']' || c == '\x7b' || c == '\x7d'

/-- The characters of a plain scalar up to a blank or a mark that ends it. -/
def plainWord (inFlow : Bool) : List Char → Except Fault (List Char)
  | [] => .ok []
  | c :: rest =>
    let next := rest.headD endMark
    if isGapOrEnd c then .ok []
    else if inFlow && c == ':' && (isFlowMark next || next == '?') then .error .misplacedValue
    else if (c == ':' && isGapOrEnd next) || (inFlow && isFlowMark c) then .ok []
    else (plainWord inFlow rest).map (c :: ·)

/-- The text of a plain scalar, where it ends, and whether it ends after a line break. -/
def plainText (inFlow : Bool) (indentation : Int) (text : List Char) (gap : Gap) (cursor : Cursor) :
    Nat → Except Fault (List Char × Cursor × Bool)
  | 0 => .ok (text, cursor, gap.first.isSome)
  | fuel + 1 =>
    if cursor.isAtDocumentMark || cursor.head == '#' then .ok (text, cursor, gap.first.isSome)
    else do
      let word ← plainWord inFlow cursor.rest
      let text := if word.isEmpty then text else text ++ gap.text ++ word
      let gap := if word.isEmpty then gap else Gap.none
      let cursor := cursor.advance word.length
      if isGap cursor.head || isBreak cursor.head then
        let (gap, cursor) ← Gap.take (some indentation) gap cursor (cursor.rest.length + 1)
        if !inFlow && (cursor.column : Int) < indentation then
          return (text, cursor, gap.first.isSome)
        else plainText inFlow indentation text gap cursor fuel
      else return (text, cursor, gap.first.isSome)

/-! ### Quoted scalars -/

/-- The character that a letter after a backslash stands for. -/
def escapedChar? (c : Char) : Option Char :=
  match c with
  | '0' => some '\x00'
  | 'a' => some '\x07'
  | 'b' => some '\x08'
  | 't' => some '\t'
  | '\t' => some '\t'
  | 'n' => some '\n'
  | 'v' => some '\x0b'
  | 'f' => some '\x0c'
  | 'r' => some '\r'
  | 'e' => some '\x1b'
  | ' ' => some ' '
  | '"' => some '"'
  | '/' => some '/'
  | '\\' => some '\\'
  | 'N' => some '\u0085'
  | '_' => some '\u00a0'
  | 'L' => some '\u2028'
  | 'P' => some '\u2029'
  | _ => none

/-- The number of hexadecimal digits after a letter that starts a code. -/
def codeLength? (c : Char) : Option Nat :=
  match c with
  | 'x' => some 2
  | 'u' => some 4
  | 'U' => some 8
  | _ => none

/-- The character that the escape sequence after a backslash stands for, and its length. -/
def escapeSequence (after : List Char) : Except Fault (Char × Nat) :=
  match after with
  | [] => .error .escape
  | c :: digits =>
    match escapedChar? c, codeLength? c with
    | some decoded, _ => .ok (decoded, 1)
    | none, some length =>
      let code := digits.take length
      match (if code.length = length then Text.hexNumber? code else none) with
      | some value =>
        if (0xD800 ≤ value ∧ value ≤ 0xDFFF) ∨ 0x10FFFF < value then .error .escape
        else .ok (Char.ofNat value, length + 1)
      | none => .error .escape
    | none, none => .error .escape

/-- The characters of a quoted scalar up to a blank, its closing quote or an escaped break; the
number of characters read, and whether an escaped break follows. -/
def quotedWord (double : Bool) (text : List Char) (count : Nat) (rest : List Char) :
    Nat → Except Fault (List Char × Nat × Bool)
  | 0 => .ok (text.reverse, count, false)
  | fuel + 1 =>
    match rest with
    | [] => .ok (text.reverse, count, false)
    | c :: after =>
      let next := after.headD endMark
      if isGapOrEnd c then .ok (text.reverse, count, false)
      else if !double && c == '\'' && next == '\'' then
        quotedWord double ('\'' :: text) (count + 2) (after.drop 1) fuel
      else if c == (if double then '"' else '\'') then .ok (text.reverse, count, false)
      else if double && c == '\\' && isBreak next then .ok (text.reverse, count + 1, true)
      else if double && c == '\\' then do
        let (decoded, length) ← escapeSequence after
        quotedWord double (decoded :: text) (count + 1 + length) (after.drop length) fuel
      else quotedWord double (c :: text) (count + 1) after fuel

/-- The text of a quoted scalar from behind its opening quote on, and what follows its closing
one. -/
def quotedText (double : Bool) (text : List Char) (cursor : Cursor) :
    Nat → Except Fault (List Char × Cursor)
  | 0 => .error .unclosedQuote
  | fuel + 1 =>
    if cursor.isAtDocumentMark || cursor.isAtEnd then .error .unclosedQuote
    else do
      let (word, count, escaped) ←
        quotedWord double [] 0 cursor.rest (cursor.rest.length + 1)
      let text := text ++ word
      let cursor := cursor.advance count
      let cursor := if escaped then cursor.nextLine else cursor
      if cursor.head == (if double then '"' else '\'') then return (text, cursor.advance 1)
      else
        let gap := if escaped then Gap.escapedBreak else Gap.none
        let (gap, cursor) ← Gap.take none gap cursor (cursor.rest.length + 1)
        quotedText double (text ++ gap.text) cursor fuel

end ResourceGraph.Yaml
