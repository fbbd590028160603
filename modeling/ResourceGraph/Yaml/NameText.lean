/-
**Names, tags and directives.**

Anchors and aliases have names of word characters. A tag is a handle and a suffix, or a whole
address in angle brackets; octets of it may be written with percent signs. A directive gives the
version of a document or what a handle stands for.
-/

import ResourceGraph.Text.Digits
import ResourceGraph.Text.Hex
import ResourceGraph.Yaml.Cursor
import ResourceGraph.Yaml.Fault
import ResourceGraph.Yaml.Token

namespace ResourceGraph.Yaml

/-! ### Anchors and aliases -/

/-- What may stand directly behind the name of an anchor or alias. -/
def endsName (c : Char) : Bool :=
  isGapOrEnd c || c == '?' || c == ':' || c == ',' || c == ']' || c == '\x7d' || c == '%' ||
    c == '@' || c.toNat == 0x60

/-- The name behind the mark of an anchor or alias. -/
def nameText (cursor : Cursor) : Except Fault (String × Cursor) :=
  let name := cursor.rest.takeWhile isWord
  let cursor := cursor.advance name.length
  if name.isEmpty || !endsName cursor.head then .error .anchorName
  else .ok (String.ofList name, cursor)

/-! ### Tags -/

/-- The characters of a tag; in angle brackets some more are allowed. -/
def isTagChar (bracketed : Bool) (c : Char) : Bool :=
  isWord c || ";/?:@&=+$.%!~*'()".toList.contains c || (bracketed && ",[]".toList.contains c)

/-- An octet written with a percent sign. -/
def percentOctet : List Char → Except Fault (Nat × List Char)
  | '%' :: high :: low :: rest =>
    match Text.hexNumber? [high, low] with
    | some octet => .ok (octet, rest)
    | none => .error .tag
  | _ => .error .tag

/-- The number of octets of a character, and the bits that its first octet gives. -/
def leadingOctet (octet : Nat) : Except Fault (Nat × Nat) :=
  if octet < 0x80 then .ok (1, octet)
  else if 0xC0 ≤ octet ∧ octet < 0xE0 then .ok (2, octet % 0x20)
  else if 0xE0 ≤ octet ∧ octet < 0xF0 then .ok (3, octet % 0x10)
  else if 0xF0 ≤ octet ∧ octet < 0xF8 then .ok (4, octet % 0x08)
  else .error .tag

/-- The further octets of a character. -/
def trailingOctets (value : Nat) (rest : List Char) : Nat → Except Fault (Nat × List Char)
  | 0 => .ok (value, rest)
  | count + 1 => do
    let (octet, rest) ← percentOctet rest
    if 0x80 ≤ octet ∧ octet < 0xC0 then trailingOctets (value * 0x40 + octet % 0x40) rest count
    else throw .tag

/-- A character written as octets with percent signs. -/
def percentChar (rest : List Char) : Except Fault (Char × List Char) := do
  let (octet, rest) ← percentOctet rest
  let (width, value) ← leadingOctet octet
  let (value, rest) ← trailingOctets value rest (width - 1)
  return (Char.ofNat value, rest)

/-- The characters of a tag, decoded, and what follows them. -/
def tagChars (bracketed : Bool) (text : List Char) (rest : List Char) :
    Nat → Except Fault (List Char × List Char)
  | 0 => .ok (text.reverse, rest)
  | fuel + 1 =>
    match rest with
    | [] => .ok (text.reverse, rest)
    | c :: after =>
      if !isTagChar bracketed c then .ok (text.reverse, rest)
      else if c == '%' then do
        let (decoded, rest) ← percentChar rest
        tagChars bracketed (decoded :: text) rest fuel
      else tagChars bracketed (c :: text) after fuel

/-- The part of a tag at a cursor. -/
def tagPart (bracketed : Bool) (cursor : Cursor) : Except Fault (List Char × Cursor) := do
  let (text, rest) ← tagChars bracketed [] cursor.rest cursor.rest.length
  return (text, cursor.advance (cursor.rest.length - rest.length))

/-- A handle at a cursor: word characters between exclamation marks, of which the second may be
missing. -/
def handleText (cursor : Cursor) : Except Fault (List Char × Cursor) :=
  if cursor.head != '!' then .error .tag
  else
    let word := (cursor.advance 1).rest.takeWhile isWord
    let after := cursor.advance (1 + word.length)
    if after.head == '!' then .ok ('!' :: (word ++ ['!']), after.advance 1)
    else .ok ('!' :: word, after)

/-- Whether a handle has both exclamation marks. -/
def isFullHandle (handle : List Char) : Bool :=
  1 < handle.length && handle.getLast? == some '!'

/-- The parts of a tag at a cursor. -/
def tagParts (cursor : Cursor) : Except Fault (TagName × Cursor) := do
  if cursor.peek 1 == '<' then
    let (text, cursor) ← tagPart true (cursor.advance 2)
    if text.isEmpty || cursor.head != '>' then throw .tag
    return (⟨"", String.ofList text⟩, cursor.advance 1)
  else
    let (handle, cursor) ← handleText cursor
    let (suffix, cursor) ← tagPart false cursor
    if isFullHandle handle then
      if suffix.isEmpty then throw .tag
      return (⟨String.ofList handle, String.ofList suffix⟩, cursor)
    else
      let suffix := handle.drop 1 ++ suffix
      if suffix.isEmpty then return (⟨"", "!"⟩, cursor)
      return (⟨"!", String.ofList suffix⟩, cursor)

/-- The tag at a cursor, which a blank ends, or a comma inside a flow collection. -/
def tagText (inFlow : Bool) (cursor : Cursor) : Except Fault (TagName × Cursor) := do
  let (name, cursor) ← tagParts cursor
  if isGapOrEnd cursor.head || (inFlow && cursor.head == ',') then return (name, cursor)
  else throw .tag

/-! ### Directives -/

/-- The most digits that a version number has. -/
def versionDigits : Nat := 9

/-- A number of a version. -/
def versionNumber (cursor : Cursor) : Except Fault (Nat × Cursor) :=
  let digits := cursor.rest.takeWhile Char.isDigit
  if digits.isEmpty || versionDigits < digits.length then .error .directive
  else .ok (Text.digitsValue digits, cursor.advance digits.length)

/-- The version of a document. -/
def versionDirective (cursor : Cursor) : Except Fault (Token × Cursor) := do
  let (major, cursor) ← versionNumber (cursor.skipWhile isGap)
  if cursor.head != '.' then throw .directive
  let (minor, cursor) ← versionNumber (cursor.advance 1)
  return (.version major minor, cursor)

/-- What a handle stands for. -/
def tagDirective (cursor : Cursor) : Except Fault (Token × Cursor) := do
  let (handle, cursor) ← handleText (cursor.skipWhile isGap)
  if handle.length ≠ 1 ∧ handle.getLast? ≠ some '!' then throw .directive
  if !isGap cursor.head then throw .directive
  let (text, cursor) ← tagPart true (cursor.skipWhile isGap)
  if text.isEmpty || !isGapOrEnd cursor.head then throw .directive
  return (.tagPrefix (String.ofList handle) (String.ofList text), cursor)

/-- The directive at a cursor and what follows its line. -/
def directive (cursor : Cursor) : Except Fault (Token × Cursor) := do
  let cursor := cursor.advance 1
  let name := cursor.rest.takeWhile isWord
  let cursor := cursor.advance name.length
  if !isGapOrEnd cursor.head then throw .directive
  let (token, cursor) ←
    if name = "YAML".toList then versionDirective cursor
    else if name = "TAG".toList then tagDirective cursor
    else throw .directive
  let cursor := (cursor.skipWhile isGap).skipComment
  if isBreakOrEnd cursor.head then return (token, cursor.nextLine) else throw .directive

end ResourceGraph.Yaml
