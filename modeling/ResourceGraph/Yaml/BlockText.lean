/-
**Block scalars.**

A header says whether lines are kept or folded, what happens to the breaks at the end, and perhaps
how far the text is indented. A folded text joins two lines by a space, unless one of them starts
with a blank or an empty line stands between them.
-/

import ResourceGraph.Text.Digits
import ResourceGraph.Yaml.Cursor
import ResourceGraph.Yaml.Fault

namespace ResourceGraph.Yaml

/-- What happens to the line breaks at the end of a block scalar. -/
inductive Chomping where
  /-- All are dropped. -/
  | strip
  /-- One is kept. -/
  | clip
  /-- All are kept. -/
  | keep
deriving DecidableEq, Repr

/-- The header of a block scalar after its mark. -/
structure BlockHeader where
  chomping : Chomping
  /-- How much deeper than its surroundings the text is indented, if that is given. -/
  increment : Option Nat
deriving DecidableEq, Repr

/-- The chomping that a character gives. -/
def chompingOf? (c : Char) : Option Chomping :=
  if c = '+' then some .keep else if c = '-' then some .strip else none

/-- The indentation that a character gives; zero is a fault. -/
def incrementOf? (c : Char) : Except Fault (Option Nat) :=
  if c = '0' then .error .blockHeader
  else .ok (if c.isDigit then some (Text.digitValue c) else none)

/-- The header at a cursor and what follows its line. -/
def blockHeader (cursor : Cursor) : Except Fault (BlockHeader × Cursor) := do
  let (header, length) ←
    match chompingOf? cursor.head with
    | some chomping => do
      let increment ← incrementOf? (cursor.peek 1)
      pure (BlockHeader.mk chomping increment, if increment.isSome then 2 else 1)
    | none => do
      let increment ← incrementOf? cursor.head
      match increment, chompingOf? (cursor.peek 1) with
      | some _, some chomping => pure (BlockHeader.mk chomping increment, 2)
      | some _, none => pure (BlockHeader.mk .clip increment, 1)
      | none, _ => pure (BlockHeader.mk .clip none, 0)
  let cursor := ((cursor.advance length).skipWhile isGap).skipComment
  if isBreakOrEnd cursor.head then return (header, cursor.nextLine) else throw .blockHeader

/-- The spaces at a cursor, up to an indentation. -/
def skipIndentation (indentation : Option Nat) (cursor : Cursor) : Cursor :=
  let spaces := (cursor.rest.takeWhile (· == ' ')).length
  cursor.advance (indentation.elim spaces fun limit => min spaces (limit - cursor.column))

/-- The empty lines at a cursor: what their breaks stand for, the widest indentation among them and
the line after them, and where that line starts. A tab inside the indentation is a fault. -/
def emptyLines (indentation : Option Nat) (widest : Nat) (breaks : List Char) (cursor : Cursor) :
    Nat → Except Fault (List Char × Nat × Cursor)
  | 0 => .ok (breaks, widest, cursor)
  | fuel + 1 =>
    let cursor := skipIndentation indentation cursor
    let widest := max widest cursor.column
    if cursor.head == '\t' && indentation.all (cursor.column < ·) then .error .tabIndentation
    else if isBreak cursor.head then
      emptyLines indentation widest (breaks ++ cursor.breakText) cursor.nextLine fuel
    else .ok (breaks, widest, cursor)

/-- The text of a block scalar so far. -/
structure BlockText where
  text : List Char
  /-- What the break after the last line stands for. -/
  lastBreak : List Char
  /-- What the breaks of the empty lines after it stand for. -/
  emptyBreaks : List Char
  /-- Whether the last line starts with a blank. -/
  startsBlank : Bool
deriving DecidableEq, Repr

/-- The text with a line added. -/
def BlockText.add (block : BlockText) (folded : Bool) (line : List Char) : List Char :=
  let startsBlank := isGap (line.headD endMark)
  let joint :=
    if folded && block.lastBreak == ['\n'] && !block.startsBlank && !startsBlank then
      if block.emptyBreaks.isEmpty then [' '] else block.emptyBreaks
    else block.lastBreak ++ block.emptyBreaks
  block.text ++ joint ++ line

/-- The lines of a block scalar with a known indentation. -/
def blockLines (folded : Bool) (indentation : Nat) (block : BlockText) (cursor : Cursor) :
    Nat → Except Fault (BlockText × Cursor)
  | 0 => .ok (block, cursor)
  | fuel + 1 =>
    if cursor.column == indentation && !cursor.isAtEnd then do
      let line := cursor.rest.takeWhile fun c => !isBreakOrEnd c
      let text := block.add folded line
      let cursor := cursor.advance line.length
      let lastBreak := cursor.breakText
      let next := cursor.nextLine
      let (breaks, _, cursor) ← emptyLines (some indentation) 0 [] next (next.rest.length + 1)
      blockLines folded indentation
        ⟨text, lastBreak, breaks, isGap (line.headD endMark)⟩ cursor fuel
    else .ok (block, cursor)

/-- The text of a block scalar from behind its mark on, and where it ends. Without an indentation of
its own, the text is indented as its first line that is not empty, and deeper than its
surroundings. -/
def blockText (folded : Bool) (surroundings : Int) (cursor : Cursor) :
    Except Fault (List Char × Cursor) := do
  let (header, cursor) ← blockHeader cursor
  let given := header.increment.map fun increment => (max surroundings 0).toNat + increment
  let (breaks, widest, cursor) ← emptyLines given 0 [] cursor (cursor.rest.length + 1)
  let indentation := given.getD (max (max widest (surroundings + 1).toNat) 1)
  let (block, cursor) ←
    blockLines folded indentation ⟨[], [], breaks, false⟩ cursor (cursor.rest.length + 1)
  match header.chomping with
  | .strip => return (block.text, cursor)
  | .clip => return (block.text ++ block.lastBreak, cursor)
  | .keep => return (block.text ++ block.lastBreak ++ block.emptyBreaks, cursor)

end ResourceGraph.Yaml
