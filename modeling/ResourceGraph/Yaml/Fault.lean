/-
**Faults of a YAML text.**

Why a text has no value.
-/

namespace ResourceGraph.Yaml

/-- Why a text has no value. -/
inductive Fault where
  /-- The text holds a control character. -/
  | controlCharacter
  /-- No token starts with the character. -/
  | unexpectedCharacter
  /-- A directive is unknown, incomplete or repeated. -/
  | directive
  /-- A name after an anchor or alias mark is missing or ends badly. -/
  | anchorName
  /-- A tag is incomplete or ends badly, or its handle is not declared. -/
  | tag
  /-- A tab stands where the indentation has to be spaces. -/
  | tabIndentation
  /-- The header of a block scalar is followed by something else. -/
  | blockHeader
  /-- A quoted scalar does not end. -/
  | unclosedQuote
  /-- An escape sequence is unknown or incomplete. -/
  | escape
  /-- A colon stands where no mapping value can start. -/
  | misplacedValue
  /-- An entry or a key stands where none can start. -/
  | misplacedEntry
  /-- A key is not followed by a value mark on its line. -/
  | missingValueMark
  /-- The tokens do not form a document. -/
  | unexpectedToken
  /-- An alias names no anchor. -/
  | unknownAnchor (name : String)
  /-- The text holds more than one document. -/
  | severalDocuments
  /-- Lists and mappings nest too deep. -/
  | nesting
  /-- Aliases repeat too much. -/
  | repetition
  /-- A key is no scalar. -/
  | keyNotScalar
  /-- A value carries a tag of its own. -/
  | customTag
  /-- A scalar does not fit its tag, or an integer does not fit 64 bits. -/
  | scalar (text : String)
deriving DecidableEq, Repr

/-- The wording of a fault. -/
def Fault.message : Fault → String
  | controlCharacter => "control characters are not allowed"
  | unexpectedCharacter => "found a character that cannot start any token"
  | directive => "did not find a complete directive"
  | anchorName => "did not find an anchor name"
  | tag => "did not find a complete tag"
  | tabIndentation => "found a tab where indentation is expected"
  | blockHeader => "did not find a line break after a block scalar header"
  | unclosedQuote => "found the end of a quoted scalar too early"
  | escape => "found an unknown escape sequence"
  | misplacedValue => "mapping values are not allowed here"
  | misplacedEntry => "entries and keys are not allowed here"
  | missingValueMark => "could not find a colon after a key"
  | unexpectedToken => "did not find expected node content"
  | unknownAnchor name => "unknown anchor " ++ name
  | severalDocuments => "there is more than one document"
  | nesting => "nested too deep"
  | repetition => "repetition limit exceeded"
  | keyNotScalar => "expected a scalar as a key"
  | customTag => "custom tags are not supported"
  | scalar text => "invalid scalar " ++ text

end ResourceGraph.Yaml
