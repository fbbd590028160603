/-
**The text of a value.**

Two layouts: `compact` without any blank, and `pretty` with one field or item a line, indented by
two spaces a level, where empty lists and mappings stay on one line. Fields are written in the order
they are stored in. Integers are written plainly; a double is written as its shortest decimal,
positional from `10 ^ -5` to below `10 ^ 16`.
-/

import ResourceGraph.Binary64.Shortest
import ResourceGraph.Json.Basic
import ResourceGraph.Text.Hex

namespace ResourceGraph

/-- Doubles from `10 ^ -5` to below `10 ^ 16` are written without an exponent. -/
def Number.layout : Binary64.Layout := ⟨-5, 15⟩

/-- The text of a number. -/
def Number.text : Number → String
  | .integer value => toString value
  | .double value => value.render layout

namespace Json

/-- A character inside a string literal. -/
def escaped (c : Char) : List Char :=
  if c = '"' then ['\\', '"']
  else if c = '\\' then ['\\', '\\']
  else if c = '\n' then ['\\', 'n']
  else if c = '\r' then ['\\', 'r']
  else if c = '\t' then ['\\', 't']
  else if c = '\x08' then ['\\', 'b']
  else if c = '\x0c' then ['\\', 'f']
  else if c.toNat < 32 then '\\' :: 'u' :: '0' :: '0' :: Text.hexByte (UInt8.ofNat c.toNat)
  else [c]

/-- A string literal. -/
def quoted (text : String) : List Char :=
  '"' :: (text.toList.flatMap escaped ++ ['"'])

/-- The text of a value that holds no other value. -/
def scalarText : Json → List Char
  | .bool true => "true".toList
  | .bool false => "false".toList
  | .number value => value.text.toList
  | .string text => quoted text
  | _ => "null".toList

mutual

/-- The characters of a value, without blanks. -/
def compactChars : Json → List Char
  | .array items => '[' :: (compactItems items ++ [']'])
  | .object fields => '\x7b' :: (compactFields fields ++ ['\x7d'])
  | other => scalarText other

/-- The items of a list, with commas between them. -/
def compactItems : List Json → List Char
  | [] => []
  | [item] => compactChars item
  | item :: rest => compactChars item ++ ',' :: compactItems rest

/-- The fields of a mapping, with commas between them. -/
def compactFields : List (String × Json) → List Char
  | [] => []
  | [(key, value)] => quoted key ++ ':' :: compactChars value
  | (key, value) :: rest => quoted key ++ ':' :: (compactChars value ++ ',' :: compactFields rest)

end

/-- The text of a value, without blanks. -/
def compact (value : Json) : String :=
  String.ofList value.compactChars

/-- The break before an item at a level. -/
def lineBreak (level : Nat) : List Char :=
  '\n' :: List.replicate (2 * level) ' '

mutual

/-- The characters of a value, one item a line. -/
def prettyChars (level : Nat) : Json → List Char
  | .array [] => ['[', ']']
  | .array (item :: rest) =>
    '[' :: (prettyItems (level + 1) (item :: rest) ++ lineBreak level ++ [']'])
  | .object [] => ['\x7b', '\x7d']
  | .object (field :: rest) =>
    '\x7b' :: (prettyFields (level + 1) (field :: rest) ++ lineBreak level ++ ['\x7d'])
  | other => scalarText other

/-- The items of a list, each on its own line. -/
def prettyItems (level : Nat) : List Json → List Char
  | [] => []
  | [item] => lineBreak level ++ prettyChars level item
  | item :: rest => lineBreak level ++ prettyChars level item ++ ',' :: prettyItems level rest

/-- The fields of a mapping, each on its own line. -/
def prettyFields (level : Nat) : List (String × Json) → List Char
  | [] => []
  | [(key, value)] => lineBreak level ++ quoted key ++ ':' :: ' ' :: prettyChars level value
  | (key, value) :: rest =>
    lineBreak level ++ quoted key ++ ':' :: ' ' :: (prettyChars level value ++
      ',' :: prettyFields level rest)

end

/-- The text of a value, one item a line. -/
def pretty (value : Json) : String :=
  String.ofList (value.prettyChars 0)

end Json

end ResourceGraph
