/-
**Text of the data format, as written.**

`Source` is the tree of a text before anything is decided about its meaning: fields stand in the
order of the text, a repeated key is there as often as it is written, and a literal of the right
shape that stands for nothing (a number past all doubles, half of a surrogate pair) is kept as
`none`. `Source.json?` gives the value: sorted fields, of which the last of a key counts, and no
value at all if some literal has none.

* `Source.ofText? limit text`: the tree of a text that nests fewer than `limit` lists and mappings;
* `Json.ofText?`: the value of a text.
-/

import ResourceGraph.Json.Basic
import ResourceGraph.Json.Literal
import ResourceGraph.Text.Hex

namespace ResourceGraph.Json

/-- The tree of a text. -/
inductive Source where
  | null
  | bool (value : Bool)
  | number (value : Option Number)
  | string (text : Option String)
  | array (items : List Source)
  | object (fields : List (Option String × Source))
deriving Inhabited

namespace Source

mutual

/-- The value of a tree. -/
def json? : Source → Option Json
  | null => some .null
  | bool value => some (.bool value)
  | number value => value.map .number
  | string text => text.map .string
  | array items => (itemValues? items).map .array
  | object fields => (fieldValues? fields).map fun pairs => .object (Fields.ofList pairs)

/-- The values of the items of a list. -/
def itemValues? : List Source → Option (List Json)
  | [] => some []
  | item :: rest => do
    let value ← json? item
    let values ← itemValues? rest
    pure (value :: values)

/-- The keys and values of the fields of a mapping. -/
def fieldValues? : List (Option String × Source) → Option (List (String × Json))
  | [] => some []
  | (key, field) :: rest => do
    let name ← key
    let value ← json? field
    let values ← fieldValues? rest
    pure ((name, value) :: values)

end

/-- The blanks between the parts of a text. -/
def isSpace (c : Char) : Bool :=
  c == ' ' || c == '\n' || c == '\t' || c == '\r'

/-- The characters from the first that is no blank on. -/
def skipSpace (chars : List Char) : List Char :=
  chars.dropWhile isSpace

/-- Four hexadecimal digits. -/
def takeUnit? : List Char → Option (Nat × List Char)
  | a :: b :: c :: d :: rest => (Text.hexNumber? [a, b, c, d]).map (·, rest)
  | _ => none

/-- The character that a letter after a backslash stands for. -/
def shortEscape? (c : Char) : Option Char :=
  if c = '"' ∨ c = '\\' ∨ c = '/' then some c
  else if c = 'b' then some '\x08'
  else if c = 'f' then some '\x0c'
  else if c = 'n' then some '\n'
  else if c = 'r' then some '\r'
  else if c = 't' then some '\t'
  else none

/-- One character of a string, which may be no character at all: half of a surrogate pair. -/
def takeEscape? : List Char → Option (Option Char × List Char)
  | 'u' :: digits => do
    let (unit, rest) ← takeUnit? digits
    if 0xD800 ≤ unit ∧ unit < 0xDC00 then
      match rest with
      | '\\' :: 'u' :: more =>
        let (second, after) ← takeUnit? more
        if 0xDC00 ≤ second ∧ second < 0xE000 then
          pure (some (Char.ofNat (0x10000 + (unit - 0xD800) * 0x400 + (second - 0xDC00))), after)
        else pure (none, rest)
      | _ => pure (none, rest)
    else if 0xDC00 ≤ unit ∧ unit < 0xE000 then pure (none, rest)
    else pure (some (Char.ofNat unit), rest)
  | c :: rest => (shortEscape? c).map fun decoded => (some decoded, rest)
  | [] => none

/-- The characters of a string up to its closing quote, and what follows the quote. -/
def takeString? (fuel : Nat) (read : List (Option Char)) (chars : List Char) :
    Option (Option String × List Char) :=
  match fuel, chars with
  | 0, _ => none
  | _, [] => none
  | fuel + 1, c :: rest =>
    if c = '"' then some ((read.reverse.mapM id).map String.ofList, rest)
    else if c = '\\' then do
      let (decoded, rest) ← takeEscape? rest
      takeString? fuel (decoded :: read) rest
    else if c.toNat < 32 then none
    else takeString? fuel (some c :: read) rest

/-- A word at the start of the characters. -/
def takeWord? (word : String) (value : Source) (chars : List Char) : Option (Source × List Char) :=
  if word.toList.isPrefixOf chars then some (value, chars.drop word.length) else none

mutual

/-- The value at the start of the characters, and what follows it. The depth says how many lists and
mappings may still be entered. -/
def take? (fuel depth : Nat) (chars : List Char) : Option (Source × List Char) :=
  match fuel with
  | 0 => none
  | fuel + 1 =>
    match skipSpace chars with
    | [] => none
    | '"' :: rest => do
      let (text, rest) ← takeString? (rest.length + 1) [] rest
      pure (.string text, rest)
    | '[' :: rest =>
      match depth, skipSpace rest with
      | 0, _ => none
      | _, ']' :: rest => some (.array [], rest)
      | depth + 1, rest => do
        let (items, rest) ← takeItems? fuel depth rest
        pure (.array items, rest)
    | '\x7b' :: rest =>
      match depth, skipSpace rest with
      | 0, _ => none
      | _, '\x7d' :: rest => some (.object [], rest)
      | depth + 1, rest => do
        let (fields, rest) ← takeFields? fuel depth rest
        pure (.object fields, rest)
    | 'n' :: rest => takeWord? "null" .null ('n' :: rest)
    | 't' :: rest => takeWord? "true" (.bool true) ('t' :: rest)
    | 'f' :: rest => takeWord? "false" (.bool false) ('f' :: rest)
    | other => do
      let (literal, rest) ← Literal.take? other
      pure (.number literal.number?, rest)

/-- The items of a list up to its closing bracket. -/
def takeItems? (fuel depth : Nat) (chars : List Char) : Option (List Source × List Char) :=
  match fuel with
  | 0 => none
  | fuel + 1 => do
    let (item, rest) ← take? fuel depth chars
    match skipSpace rest with
    | ',' :: rest =>
      let (items, rest) ← takeItems? fuel depth rest
      pure (item :: items, rest)
    | ']' :: rest => pure ([item], rest)
    | _ => none

/-- The fields of a mapping up to its closing brace. -/
def takeFields? (fuel depth : Nat) (chars : List Char) :
    Option (List (Option String × Source) × List Char) :=
  match fuel with
  | 0 => none
  | fuel + 1 =>
    match skipSpace chars with
    | '"' :: rest => do
      let (key, rest) ← takeString? (rest.length + 1) [] rest
      match skipSpace rest with
      | ':' :: rest =>
        let (value, rest) ← take? fuel depth rest
        match skipSpace rest with
        | ',' :: rest =>
          let (fields, rest) ← takeFields? fuel depth rest
          pure ((key, value) :: fields, rest)
        | '\x7d' :: rest => pure ([(key, value)], rest)
        | _ => none
      | _ => none
    | _ => none

end

/-- The tree of a text that holds one value and nests fewer than `limit` lists and mappings. -/
def ofText? (limit : Nat) (text : String) : Option Source := do
  let chars := text.toList
  let (source, rest) ← take? (2 * chars.length + 2) (limit - 1) chars
  if (skipSpace rest).isEmpty then some source else none

end Source

/-- The number of nested lists and mappings at which a text is refused. -/
def nestingLimit : Nat := 128

/-- The value of a text. -/
def ofText? (text : String) : Option Json :=
  (Source.ofText? nestingLimit text).bind Source.json?

end ResourceGraph.Json
