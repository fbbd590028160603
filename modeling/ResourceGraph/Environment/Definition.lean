/-
**Definitions of variables.**

A definition is a name, an equals sign and a value, after the word `export` or not. In a value,
single quotes keep everything as it is; a backslash keeps the next character, and `\n` is a line
break; `$NAME` and `$` with a name in braces stand for the value of a variable. Unquoted, a value
ends at a blank, and only a comment may follow.

* `Definition.ofLine`: the definition in a line, if there is one, or where the line goes wrong.
-/

import ResourceGraph.Text.Alphanumeric
import ResourceGraph.Text.Blank
import ResourceGraph.Text.Search

namespace ResourceGraph

/-- A variable with its value. -/
structure Definition where
  name : String
  value : String
deriving DecidableEq, Repr

namespace Definition

/-! ### Values -/

/-- Where the reader of a value is. -/
inductive Place where
  /-- Outside quotes, or inside double ones. -/
  | plain (quoted : Bool)
  /-- After a backslash. -/
  | escape (quoted : Bool)
  /-- Inside single quotes. -/
  | literal
  /-- In the name of a variable, whose characters come in reverse order. -/
  | reference (quoted braced : Bool) (name : List Char)
  /-- After the end of the value. -/
  | after

/-- The character that a backslash and the next one stand for. -/
def unescaped? (c : Char) : Option Char :=
  if c = 'n' then some '\n'
  else if c = '\\' || c = '\'' || c = '"' || c = '$' || c = ' ' then some c
  else none

/-- The value of a variable whose name comes in reverse order. -/
def substituted (lookup : String → Option String) (name : List Char) : List Char :=
  ((lookup (String.ofList name.reverse)).getD "").toList

/-- Why a value is none. -/
inductive ValueFault where
  /-- A character must not stand where it does; the rest starts with it. -/
  | at (rest : List Char)
  /-- A quote or a brace is open at the end. -/
  | unfinished
deriving DecidableEq, Repr

/-- What a value ends with. -/
def atEnd (lookup : String → Option String) : Place → Except ValueFault (List Char)
  | .plain quoted => if quoted then .error .unfinished else .ok []
  | .escape quoted => if quoted then .error .unfinished else .ok []
  | .literal => .error .unfinished
  | .reference quoted braced name =>
    if quoted || braced then .error .unfinished else .ok (substituted lookup name)
  | .after => .ok []

/-- The characters of a value, from a place on. -/
def valueFrom (lookup : String → Option String) :
    Place → List Char → Except ValueFault (List Char)
  | place, [] => atEnd lookup place
  | .after, c :: rest =>
    if c = ' ' || c = '\t' then valueFrom lookup .after rest
    else if c = '#' then .ok []
    else .error (.at (c :: rest))
  | .escape quoted, c :: rest =>
    match unescaped? c with
    | some c => (c :: ·) <$> valueFrom lookup (.plain quoted) rest
    | none => .error (.at (c :: rest))
  | .literal, c :: rest =>
    if c = '\'' then valueFrom lookup (.plain false) rest
    else (c :: ·) <$> valueFrom lookup .literal rest
  | .reference quoted braced name, c :: rest =>
    if Text.isAlphanumeric c then valueFrom lookup (.reference quoted braced (c :: name)) rest
    else if braced then
      if c = '\x7d' then
        (substituted lookup name ++ ·) <$> valueFrom lookup (.plain quoted) rest
      else valueFrom lookup (.reference quoted true (c :: name)) rest
    else if c = '\x7b' && name.isEmpty then valueFrom lookup (.reference quoted true []) rest
    else if c = '$' then
      (substituted lookup name ++ ·) <$> valueFrom lookup (.reference quoted false []) rest
    else (substituted lookup name ++ c :: ·) <$> valueFrom lookup (.plain quoted) rest
  | .plain quoted, c :: rest =>
    if c = '$' then valueFrom lookup (.reference quoted false []) rest
    else if c = '"' then valueFrom lookup (.plain !quoted) rest
    else if c = '\\' then valueFrom lookup (.escape quoted) rest
    else if !quoted && c = '\'' then valueFrom lookup .literal rest
    else if !quoted && (c = ' ' || c = '\t') then valueFrom lookup .after rest
    else (c :: ·) <$> valueFrom lookup (.plain quoted) rest

/-! ### Lines -/

/-- Where a line goes wrong: in a text, at a position in it. -/
structure Fault where
  text : String
  position : Nat
deriving DecidableEq, Repr

/-- The bytes that some characters take. -/
def byteCount (chars : List Char) : Nat :=
  (String.ofList chars).utf8ByteSize

/-- A fault in a line, before its rest. -/
def faultIn (line content rest : List Char) : Fault :=
  ⟨String.ofList line, byteCount content - byteCount rest⟩

/-- A fault in a value. -/
def faultOfValue (chars : List Char) : ValueFault → Fault
  | .at rest => ⟨String.ofList chars, chars.length - rest.length⟩
  | .unfinished => ⟨String.ofList chars, byteCount chars - 1⟩

/-- Whether a name may start with a character. -/
def startsName (c : Char) : Bool :=
  c.isAlpha || c == '_'

/-- Whether a name may go on with a character. -/
def continuesName (c : Char) : Bool :=
  c.isAlphanum || c == '_' || c == '.'

/-- The name at the start of the characters, and what follows it and the blanks after it; the
characters themselves if there is none. -/
def leadingName (chars : List Char) : Except (List Char) (String × List Char) :=
  if (chars.head?.map startsName).getD false then
    .ok (String.ofList (chars.takeWhile continuesName),
      Text.trimLeft (chars.dropWhile continuesName))
  else .error chars

/-- What follows an equals sign. -/
def afterEquals : List Char → Except (List Char) (List Char)
  | '=' :: rest => .ok rest
  | other => .error other

/-- The name that a line defines, and what follows the equals sign. -/
def nameAndRest (chars : List Char) : Except (List Char) (String × List Char) := do
  let (first, rest) ← leadingName chars
  match afterEquals rest with
  | .ok value => return (first, value)
  | .error _ =>
    if first == "export" then
      let (second, rest) ← leadingName rest
      return (second, ← afterEquals rest)
    else throw rest

/-- The definition of a name by what follows the equals sign. Nothing or a comment is the empty
value. -/
def ofValue (lookup : String → Option String) (name : String) (chars : List Char) :
    Except Fault Definition :=
  if chars.isEmpty || chars.head? == some '#' then .ok ⟨name, ""⟩
  else
    match valueFrom lookup (.plain false) chars with
    | .ok value => .ok ⟨name, String.ofList value⟩
    | .error fault => .error (faultOfValue chars fault)

/-- The definition in a line, if it is not blank and no comment. -/
def ofLine (lookup : String → Option String) (line : List Char) :
    Except Fault (Option Definition) :=
  let trimmed := Text.trimRight line
  let content := Text.trimLeft trimmed
  if content.isEmpty || content.head? == some '#' then .ok none
  else
    match nameAndRest content with
    | .error rest => .error (faultIn line trimmed rest)
    | .ok (name, rest) => some <$> ofValue lookup name (Text.trimLeft rest)

end Definition

end ResourceGraph
