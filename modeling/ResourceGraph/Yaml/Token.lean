/-
**Tokens.**

The marks, names and scalars that a YAML text is made of. The starts and ends of block collections
have tokens too, though they have no characters: they follow from the indentation.
-/

namespace ResourceGraph.Yaml

/-- How a tag is written: the handle that stands for a prefix, and what follows it. -/
structure TagName where
  handle : String
  suffix : String
deriving DecidableEq, Repr

/-- A token. -/
inductive Token where
  /-- The version that a document is written in. -/
  | version (major minor : Nat)
  /-- What a handle stands for. -/
  | tagPrefix (handle text : String)
  | documentStart
  | documentEnd
  | blockSequence
  | blockMapping
  /-- The end of a block sequence or mapping. -/
  | blockEnd
  | flowSequenceStart
  | flowSequenceEnd
  | flowMappingStart
  | flowMappingEnd
  /-- An entry of a block sequence. -/
  | blockEntry
  /-- The comma between entries of a flow collection. -/
  | flowEntry
  | key
  | value
  | alias (name : String)
  | anchor (name : String)
  | tag (name : TagName)
  /-- A scalar; a plain one may stand for something else than a text. -/
  | scalar (text : String) (plain : Bool)
deriving DecidableEq, Repr

end ResourceGraph.Yaml
