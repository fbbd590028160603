/-
**Nodes.**

The tree of a document: scalars, sequences and mappings with their anchors and tags, and aliases.
The kind of name that anchors and aliases have is a parameter: a tree is read with texts, and then
linked, which replaces them by numbers.

* `Node.document`: the tree of the only document among tokens.
-/

import ResourceGraph.Yaml.Fault
import ResourceGraph.Yaml.Token

namespace ResourceGraph.Yaml

/-- What a node carries beside its content. -/
structure Properties (ρ : Type) where
  anchor : Option ρ
  tag : Option String
deriving DecidableEq, Repr

/-- A node. -/
inductive Node (ρ : Type) where
  | alias (target : ρ)
  | scalar (properties : Properties ρ) (text : String) (plain : Bool)
  | sequence (properties : Properties ρ) (items : List (Node ρ))
  | mapping (properties : Properties ρ) (entries : List (Node ρ × Node ρ))
deriving Repr

namespace Node

/-- No anchor and no tag. -/
def bare {ρ : Type} : Properties ρ := ⟨none, none⟩

/-- The node where nothing is written. -/
def empty {ρ : Type} (properties : Properties ρ) : Node ρ :=
  scalar properties "" true

/-- What the tag handles of a document stand for. -/
abbrev Handles := List (String × String)

/-- The handles that every document knows. -/
def commonHandles : Handles :=
  [("!", "!"), ("!!", "tag:yaml.org,2002:")]

/-- A tag in full. -/
def fullTag (handles : Handles) (name : TagName) : Except Fault String :=
  if name.handle.isEmpty then .ok name.suffix
  else
    match handles.lookup name.handle with
    | some text => .ok (text ++ name.suffix)
    | none => .error .tag

/-- The anchor and the tag before a node, in either order. -/
def takeProperties (handles : Handles) :
    List Token → Except Fault (Properties String × List Token)
  | .anchor name :: .tag tag :: rest => do return (⟨some name, some (← fullTag handles tag)⟩, rest)
  | .tag tag :: .anchor name :: rest => do return (⟨some name, some (← fullTag handles tag)⟩, rest)
  | .anchor name :: rest => .ok (⟨some name, none⟩, rest)
  | .tag tag :: rest => do return (⟨none, some (← fullTag handles tag)⟩, rest)
  | rest => .ok (bare, rest)

/-- The tag that only says that there is none. -/
def withoutLoneTag (properties : Properties String) : Properties String :=
  if properties.tag = some "!" then { properties with tag := none } else properties

/-- Whether the next token is one of some. -/
def startsWith (stops : List Token) (tokens : List Token) : Bool :=
  tokens.head?.any stops.contains

/-- Where a node may stand. -/
inductive Place where
  /-- Inside a flow collection. -/
  | flow
  /-- In a block. -/
  | block
  /-- In a block mapping, where a sequence may start without further indentation. -/
  | entry
deriving DecidableEq, Repr

mutual

/-- The node at the start of the tokens, and what follows it. -/
def take (handles : Handles) (place : Place) (tokens : List Token) :
    Nat → Except Fault (Node String × List Token)
  | 0 => .error .unexpectedToken
  | fuel + 1 =>
    match tokens with
    | .alias name :: rest => .ok (.alias name, rest)
    | _ => do
      let (properties, rest) ← takeProperties handles tokens
      match rest with
      | .scalar text plain :: rest =>
        return (.scalar (withoutLoneTag properties) text plain, rest)
      | .flowSequenceStart :: rest =>
        let (items, rest) ← takeFlowItems handles true rest fuel
        return (.sequence properties items, rest)
      | .flowMappingStart :: rest =>
        let (entries, rest) ← takeFlowEntries handles true rest fuel
        return (.mapping properties entries, rest)
      | .blockSequence :: items =>
        if place = .flow then takeEmpty properties rest
        else
          let (items, rest) ← takeBlockItems handles items fuel
          return (.sequence properties items, rest)
      | .blockMapping :: entries =>
        if place = .flow then takeEmpty properties rest
        else
          let (entries, rest) ← takeBlockEntries handles entries fuel
          return (.mapping properties entries, rest)
      | .blockEntry :: _ =>
        if place = .entry then
          let (items, rest) ← takeLooseItems handles rest fuel
          return (.sequence properties items, rest)
        else takeEmpty properties rest
      | _ => takeEmpty properties rest

/-- The node of an anchor or a tag without content. -/
def takeEmpty (properties : Properties String) (rest : List Token) :
    Except Fault (Node String × List Token) :=
  if properties.anchor.isSome || properties.tag.isSome then .ok (empty properties, rest)
  else .error .unexpectedToken

/-- A node, or the empty one if a token follows that ends it. -/
def takeUnless (handles : Handles) (place : Place) (stops : List Token) (tokens : List Token) :
    Nat → Except Fault (Node String × List Token)
  | 0 => .error .unexpectedToken
  | fuel + 1 =>
    if startsWith stops tokens then .ok (empty bare, tokens) else take handles place tokens fuel

/-- The value of an entry, which is empty if its mark is missing. -/
def takeValue (handles : Handles) (place : Place) (stops : List Token) (tokens : List Token) :
    Nat → Except Fault (Node String × List Token)
  | 0 => .error .unexpectedToken
  | fuel + 1 =>
    match tokens with
    | .value :: rest => takeUnless handles place stops rest fuel
    | _ => .ok (empty bare, tokens)

/-- The items of a block sequence. -/
def takeBlockItems (handles : Handles) (tokens : List Token) :
    Nat → Except Fault (List (Node String) × List Token)
  | 0 => .error .unexpectedToken
  | fuel + 1 =>
    match tokens with
    | .blockEntry :: rest => do
      let (item, rest) ← takeUnless handles .block [.blockEntry, .blockEnd] rest fuel
      let (items, rest) ← takeBlockItems handles rest fuel
      return (item :: items, rest)
    | .blockEnd :: rest => .ok ([], rest)
    | _ => .error .unexpectedToken

/-- The items of a sequence that is not indented further than the mapping around it. -/
def takeLooseItems (handles : Handles) (tokens : List Token) :
    Nat → Except Fault (List (Node String) × List Token)
  | 0 => .error .unexpectedToken
  | fuel + 1 =>
    match tokens with
    | .blockEntry :: rest => do
      let (item, rest) ←
        takeUnless handles .block [.blockEntry, .key, .value, .blockEnd] rest fuel
      let (items, rest) ← takeLooseItems handles rest fuel
      return (item :: items, rest)
    | _ => .ok ([], tokens)

/-- The entries of a block mapping. -/
def takeBlockEntries (handles : Handles) (tokens : List Token) :
    Nat → Except Fault (List (Node String × Node String) × List Token)
  | 0 => .error .unexpectedToken
  | fuel + 1 =>
    match tokens with
    | .key :: rest => do
      let stops := [Token.key, .value, .blockEnd]
      let (key, rest) ← takeUnless handles .entry stops rest fuel
      let (value, rest) ← takeValue handles .entry stops rest fuel
      let (entries, rest) ← takeBlockEntries handles rest fuel
      return ((key, value) :: entries, rest)
    | .blockEnd :: rest => .ok ([], rest)
    | _ => .error .unexpectedToken

/-- The items of a flow sequence. A key mark makes an item a mapping of one entry; if nothing stands
behind the mark, the token there is lost. -/
def takeFlowItems (handles : Handles) (first : Bool) (tokens : List Token) :
    Nat → Except Fault (List (Node String) × List Token)
  | 0 => .error .unexpectedToken
  | fuel + 1 =>
    match tokens with
    | .flowSequenceEnd :: rest => .ok ([], rest)
    | _ => do
      match ← takeComma first tokens with
      | .flowSequenceEnd :: rest => return ([], rest)
      | .key :: rest =>
        let (key, rest) ←
          if startsWith [.value, .flowEntry, .flowSequenceEnd] rest then
            pure (empty bare, rest.drop 1)
          else take handles .flow rest fuel
        let (value, rest) ←
          takeValue handles .flow [.flowEntry, .flowSequenceEnd] rest fuel
        let (items, rest) ← takeFlowItems handles false rest fuel
        return (.mapping bare [(key, value)] :: items, rest)
      | rest =>
        let (item, rest) ← take handles .flow rest fuel
        let (items, rest) ← takeFlowItems handles false rest fuel
        return (item :: items, rest)

/-- The entries of a flow mapping. Without a key mark there is a key and no value. -/
def takeFlowEntries (handles : Handles) (first : Bool) (tokens : List Token) :
    Nat → Except Fault (List (Node String × Node String) × List Token)
  | 0 => .error .unexpectedToken
  | fuel + 1 =>
    match tokens with
    | .flowMappingEnd :: rest => .ok ([], rest)
    | _ => do
      match ← takeComma first tokens with
      | .flowMappingEnd :: rest => return ([], rest)
      | .key :: rest =>
        let (key, rest) ←
          takeUnless handles .flow [.value, .flowEntry, .flowMappingEnd] rest fuel
        let (value, rest) ← takeValue handles .flow [.flowEntry, .flowMappingEnd] rest fuel
        let (entries, rest) ← takeFlowEntries handles false rest fuel
        return ((key, value) :: entries, rest)
      | rest =>
        let (key, rest) ← take handles .flow rest fuel
        let (entries, rest) ← takeFlowEntries handles false rest fuel
        return ((key, empty bare) :: entries, rest)

/-- The tokens behind the comma that separates entries; there is none before the first. -/
def takeComma (first : Bool) (tokens : List Token) : Except Fault (List Token) :=
  if first then .ok tokens
  else
    match tokens with
    | .flowEntry :: rest => .ok rest
    | _ => .error .unexpectedToken

end

/-! ### Documents -/

/-- The directives before a document: whether its version is given, and its handles. -/
def takeDirectives (versioned : Bool) (handles : Handles) :
    List Token → Except Fault (Handles × List Token)
  | .version major minor :: rest =>
    if versioned || major ≠ 1 || (minor ≠ 1 && minor ≠ 2) then .error .directive
    else takeDirectives true handles rest
  | .tagPrefix handle text :: rest =>
    if (handles.lookup handle).isSome then .error .directive
    else takeDirectives versioned (handles ++ [(handle, text)]) rest
  | rest => .ok (handles ++ commonHandles, rest)

/-- Whether a token stands before a document. -/
def opensDocument : Token → Bool
  | .version .. => true
  | .tagPrefix .. => true
  | .documentStart => true
  | _ => false

/-- The content of a document, which may be empty behind its start mark. -/
def takeContent (handles : Handles) (tokens : List Token) :
    Except Fault (Node String × List Token) :=
  if tokens.head?.all fun token => opensDocument token || token == .documentEnd then
    .ok (empty bare, tokens)
  else take handles .block tokens (4 * tokens.length + 4)

/-- The first document. -/
def takeDocument (tokens : List Token) : Except Fault (Node String × List Token) := do
  if tokens.head?.any opensDocument then
    let (handles, rest) ← takeDirectives false [] tokens
    match rest with
    | .documentStart :: rest => takeContent handles rest
    | _ => throw .unexpectedToken
  else take commonHandles .block tokens (4 * tokens.length + 4)

/-- The tree of the only document; a text without tokens holds the empty node. -/
def document (tokens : List Token) : Except Fault (Node String) := do
  if tokens.isEmpty then return empty bare
  let (node, rest) ← takeDocument tokens
  if rest.all (· == .documentEnd) then return node else throw .severalDocuments

end Node

end ResourceGraph.Yaml
