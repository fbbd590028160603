/-
**The tokens of a text.**

Tokens are read one after the other. Outside flow collections the columns of the tokens open and
close block collections; the open ones are kept as a stack of columns. That a scalar is a key is
known only at the colon behind it: until then its place is kept as a `Candidate`, and the colon puts
the key token, and the start of a mapping if there is none yet, at that place.

* `Token.ofText`: the tokens of a text.
-/

import ResourceGraph.Yaml.BlockText
import ResourceGraph.Yaml.NameText
import ResourceGraph.Yaml.ScalarText

namespace ResourceGraph.Yaml

/-- The place of a token that may turn out to be a key. -/
structure Candidate where
  /-- The number of tokens before it. -/
  place : Nat
  line : Nat
  column : Nat
  index : Nat
  /-- It starts a line at the column of an open block mapping, so it has to be a key. -/
  required : Bool
deriving DecidableEq, Repr

/-- What is known between two tokens. -/
structure Scan where
  cursor : Cursor
  /-- The tokens read, latest first. -/
  tokens : List Token
  /-- The number of tokens read. -/
  count : Nat
  /-- The column of the innermost block collection; `-1` outside of all. -/
  indent : Int
  /-- The columns of the block collections around it. -/
  outer : List Int
  /-- The number of open flow collections. -/
  flowDepth : Nat
  /-- Whether a key may start here. -/
  keyAllowed : Bool
  /-- The candidates of the open flow collections, innermost first, and of the block around them. -/
  candidates : List (Option Candidate)
deriving DecidableEq, Repr

namespace Scan

/-- The state before the first token. -/
def start (text : List Char) : Scan :=
  ⟨Cursor.start text, [], 0, -1, [], 0, true, [none]⟩

/-- Whether some flow collection is open. -/
def inFlow (scan : Scan) : Bool :=
  0 < scan.flowDepth

/-- Adds a token. -/
def push (scan : Scan) (token : Token) : Scan :=
  { scan with tokens := token :: scan.tokens, count := scan.count + 1 }

/-- Adds a token before those read since a place. -/
def insertAt (scan : Scan) (place : Nat) (token : Token) : Scan :=
  let later := scan.count - place
  { scan with
    tokens := scan.tokens.take later ++ token :: scan.tokens.drop later
    count := scan.count + 1 }

/-! ### Keys -/

/-- Replaces the innermost candidate. -/
def setCandidate (scan : Scan) (candidate : Option Candidate) : Scan :=
  { scan with candidates := candidate :: scan.candidates.drop 1 }

/-- The innermost candidate. -/
def candidate? (scan : Scan) : Option Candidate :=
  (scan.candidates.head?).bind id

/-- Gives the innermost candidate up, which must not be required. -/
def dropCandidate (scan : Scan) : Except Fault Scan :=
  if scan.candidate?.any (·.required) then .error .missingValueMark
  else .ok (scan.setCandidate none)

/-- The most characters of a key. -/
def keyLimit : Nat := 1024

/-- Whether a candidate is on another line, or too far back. -/
def isStale (cursor : Cursor) (candidate : Candidate) : Bool :=
  candidate.line < cursor.line || candidate.index + keyLimit < cursor.index

/-- Gives all stale candidates up, which must not be required. -/
def dropStale (scan : Scan) : Except Fault Scan :=
  if scan.candidates.any fun candidate =>
      candidate.any fun found => isStale scan.cursor found && found.required then
    .error .missingValueMark
  else
    .ok { scan with
      candidates := scan.candidates.map fun candidate =>
        candidate.filter fun found => !isStale scan.cursor found }

/-- Makes the next token a candidate, where a key may start. -/
def saveCandidate (scan : Scan) : Except Fault Scan := do
  if !scan.keyAllowed then return scan
  let scan ← scan.dropCandidate
  let cursor := scan.cursor
  return scan.setCandidate (some ⟨scan.count, cursor.line, cursor.column, cursor.index,
    !scan.inFlow && scan.indent == cursor.column⟩)

/-! ### Indentation -/

/-- Opens a block collection at a column, unless one is open there. Its token goes to a place, or
behind the tokens read. -/
def openBlock (scan : Scan) (column : Nat) (place : Option Nat) (token : Token) : Scan :=
  if scan.inFlow || (column : Int) ≤ scan.indent then scan
  else
    let scan := place.elim (scan.push token) fun place => scan.insertAt place token
    { scan with indent := column, outer := scan.indent :: scan.outer }

/-- Closes block collections as long as they are deeper than a column. -/
def closeDeeper (column : Int) (indent : Int) (scan : Scan) : List Int → Scan
  | [] => { scan with indent := indent, outer := [] }
  | next :: outer =>
    if column < indent then closeDeeper column next (scan.push .blockEnd) outer
    else { scan with indent := indent, outer := next :: outer }

/-- Closes the block collections that are deeper than a column. -/
def closeBlocks (scan : Scan) (column : Int) : Scan :=
  if scan.inFlow then scan else closeDeeper column scan.indent scan scan.outer

/-! ### Between tokens -/

/-- Moves past blanks, comments and line breaks. A tab is a blank only where no key may start. -/
def skipBetween (inFlow : Bool) (keyAllowed : Bool) (cursor : Cursor) : Nat → Bool × Cursor
  | 0 => (keyAllowed, cursor)
  | fuel + 1 =>
    let cursor :=
      if cursor.column == 0 && cursor.head == '\ufeff' then cursor.advance 1 else cursor
    let cursor :=
      cursor.skipWhile fun c => c == ' ' || ((inFlow || !keyAllowed) && c == '\t')
    let cursor := cursor.skipComment
    if isBreak cursor.head then
      skipBetween inFlow (keyAllowed || !inFlow) cursor.nextLine fuel
    else (keyAllowed, cursor)

/-- The state at the next token. -/
def toNextToken (scan : Scan) : Except Fault Scan := do
  let (keyAllowed, cursor) :=
    skipBetween scan.inFlow scan.keyAllowed scan.cursor (scan.cursor.rest.length + 1)
  let scan ← { scan with cursor := cursor, keyAllowed := keyAllowed }.dropStale
  return scan.closeBlocks cursor.column

/-! ### Tokens -/

/-- Adds a token of some characters. -/
def mark (scan : Scan) (length : Nat) (keyAllowed : Bool) (token : Token) : Scan :=
  { scan with cursor := scan.cursor.advance length, keyAllowed := keyAllowed }.push token

/-- Adds a token that a reader found, after which no key may start. -/
def name (scan : Scan) (found : Token × Cursor) : Scan :=
  { scan with cursor := found.2, keyAllowed := false }.push found.1

/-- The end of the text: all blocks are closed. -/
def finish (scan : Scan) : Except Fault Scan :=
  (scan.closeBlocks (-1)).dropCandidate

/-- A token at the start of a line that ends what is open. -/
def documentToken (scan : Scan) : Except Fault Scan :=
  (scan.closeBlocks (-1)).dropCandidate

/-- The start of a flow collection. -/
def openFlow (scan : Scan) (token : Token) : Except Fault Scan := do
  let scan ← scan.saveCandidate
  return { scan with flowDepth := scan.flowDepth + 1, candidates := none :: scan.candidates }.mark
    1 true token

/-- The end of a flow collection. -/
def closeFlow (scan : Scan) (token : Token) : Except Fault Scan := do
  let scan ← scan.dropCandidate
  let scan :=
    if scan.inFlow then
      { scan with flowDepth := scan.flowDepth - 1, candidates := scan.candidates.drop 1 }
    else scan
  return scan.mark 1 false token

/-- The comma in a flow collection. -/
def flowEntry (scan : Scan) : Except Fault Scan := do
  return (← scan.dropCandidate).mark 1 true .flowEntry

/-- The mark of an entry of a block sequence. -/
def blockEntry (scan : Scan) : Except Fault Scan := do
  if !scan.inFlow && !scan.keyAllowed then throw .misplacedEntry
  let scan := scan.openBlock scan.cursor.column none .blockSequence
  return (← scan.dropCandidate).mark 1 true .blockEntry

/-- The mark of a key that is not a candidate. -/
def keyMark (scan : Scan) : Except Fault Scan := do
  if !scan.inFlow && !scan.keyAllowed then throw .misplacedEntry
  let scan := scan.openBlock scan.cursor.column none .blockMapping
  return (← scan.dropCandidate).mark 1 (!scan.inFlow) .key

/-- The mark of a value. The candidate before it is a key. -/
def valueMark (scan : Scan) : Except Fault Scan :=
  match scan.candidate? with
  | some found =>
    let scan :=
      (scan.insertAt found.place .key).openBlock found.column (some found.place) .blockMapping
    .ok ((scan.setCandidate none).mark 1 false .value)
  | none =>
    if !scan.inFlow && !scan.keyAllowed then .error .misplacedValue
    else .ok ((scan.openBlock scan.cursor.column none .blockMapping).mark 1 (!scan.inFlow) .value)

/-- A block scalar. -/
def blockScalar (scan : Scan) (folded : Bool) : Except Fault Scan := do
  let scan ← scan.dropCandidate
  let (text, cursor) ← blockText folded scan.indent (scan.cursor.advance 1)
  return { scan with cursor := cursor, keyAllowed := true }.push
    (.scalar (String.ofList text) false)

/-- A quoted scalar. -/
def quotedScalar (scan : Scan) (double : Bool) : Except Fault Scan := do
  let scan ← scan.saveCandidate
  let cursor := scan.cursor.advance 1
  let (text, cursor) ← quotedText double [] cursor (cursor.rest.length + 1)
  return scan.name (.scalar (String.ofList text) false, cursor)

/-- A plain scalar. After a line break a key may start again. -/
def plainScalar (scan : Scan) : Except Fault Scan := do
  let scan ← scan.saveCandidate
  let (text, cursor, afterBreak) ←
    plainText scan.inFlow (scan.indent + 1) [] Gap.none scan.cursor (scan.cursor.rest.length + 1)
  return { scan with cursor := cursor, keyAllowed := afterBreak }.push
    (.scalar (String.ofList text) true)

/-- An anchor or an alias. -/
def nameToken (scan : Scan) (token : String → Token) : Except Fault Scan := do
  let scan ← scan.saveCandidate
  let (name, cursor) ← nameText (scan.cursor.advance 1)
  return scan.name (token name, cursor)

/-- A tag. -/
def tagToken (scan : Scan) : Except Fault Scan := do
  let scan ← scan.saveCandidate
  let (name, cursor) ← tagText scan.inFlow scan.cursor
  return scan.name (.tag name, cursor)

/-- The characters that no plain scalar starts with. -/
def indicators : List Char :=
  "-?:,[]#&*!|>'\"%@".toList ++ ['\x7b', '\x7d', '\u0060']

/-- Whether a plain scalar starts at the cursor. -/
def startsPlain (scan : Scan) : Bool :=
  let c := scan.cursor.head
  let next := scan.cursor.peek 1
  !(isGapOrEnd c || indicators.contains c) || (c == '-' && !isGap next) ||
    (!scan.inFlow && (c == '?' || c == ':') && !isGapOrEnd next)

/-- Reads the token at the cursor. -/
def next (scan : Scan) : Except Fault Scan :=
  let cursor := scan.cursor
  let c := cursor.head
  let alone := isGapOrEnd (cursor.peek 1)
  if cursor.column == 0 && c == '%' then do
    let scan ← scan.documentToken
    return scan.name (← directive scan.cursor)
  else if cursor.hasMark '-' then do
    return (← scan.documentToken).mark 3 false .documentStart
  else if cursor.hasMark '.' then do
    return (← scan.documentToken).mark 3 false .documentEnd
  else if c == '[' then scan.openFlow .flowSequenceStart
  else if c == '\x7b' then scan.openFlow .flowMappingStart
  else if c == ']' then scan.closeFlow .flowSequenceEnd
  else if c == '\x7d' then scan.closeFlow .flowMappingEnd
  else if c == ',' then scan.flowEntry
  else if c == '-' && alone then scan.blockEntry
  else if c == '?' && (scan.inFlow || alone) then scan.keyMark
  else if c == ':' && (scan.inFlow || alone) then scan.valueMark
  else if c == '*' then scan.nameToken .alias
  else if c == '&' then scan.nameToken .anchor
  else if c == '!' then scan.tagToken
  else if c == '|' && !scan.inFlow then scan.blockScalar false
  else if c == '>' && !scan.inFlow then scan.blockScalar true
  else if c == '\'' then scan.quotedScalar false
  else if c == '"' then scan.quotedScalar true
  else if scan.startsPlain then scan.plainScalar
  else .error .unexpectedCharacter

/-- Reads tokens up to the end of the text. -/
def all (scan : Scan) : Nat → Except Fault Scan
  | 0 => scan.finish
  | fuel + 1 => do
    let scan ← scan.toNextToken
    if scan.cursor.isAtEnd then scan.finish else all (← scan.next) fuel

end Scan

/-- The tokens of a text. -/
def Token.ofText (text : String) : Except Fault (List Token) := do
  let chars := text.toList
  if !chars.all isAllowed then throw .controlCharacter
  let scan ← (Scan.start chars).all (chars.length + 1)
  return scan.tokens.reverse

end ResourceGraph.Yaml
