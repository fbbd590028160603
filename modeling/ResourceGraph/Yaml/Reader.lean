/-
**The value of a text.**

Aliases are linked to anchors before the tree is turned into a value: an alias stands for the latest
anchor of its name before it. Links are numbers, counted by the names known so far; the latest node
with a number counts. So if a name is anchored again, its new number may be given once more, to the
next new name.

* `Json.ofYaml`: the value of a text.
-/

import ResourceGraph.Yaml.Meaning
import ResourceGraph.Yaml.Node
import ResourceGraph.Yaml.TokenStream

namespace ResourceGraph.Yaml

/-! ### Linking -/

/-- The numbers of the anchored names, latest first. -/
abbrev Names := List (String × Nat)

/-- The number of different names. -/
def distinctNames (names : Names) : Nat :=
  (names.map (·.1)).eraseDups.length

/-- Gives the anchor of a node a number. -/
def linkProperties (names : Names) (properties : Properties String) : Names × Properties Nat :=
  match properties.anchor with
  | none => (names, ⟨none, properties.tag⟩)
  | some name =>
    let number := distinctNames names
    ((name, number) :: names, ⟨some number, properties.tag⟩)

mutual

/-- Replaces the names in a tree by numbers. -/
def link (names : Names) : Node String → Except Fault (Names × Node Nat)
  | .alias name =>
    match names.lookup name with
    | some number => .ok (names, .alias number)
    | none => .error (.unknownAnchor name)
  | .scalar properties text plain =>
    let (names, properties) := linkProperties names properties
    .ok (names, .scalar properties text plain)
  | .sequence properties items => do
    let (names, properties) := linkProperties names properties
    let (names, items) ← linkItems names items
    return (names, .sequence properties items)
  | .mapping properties entries => do
    let (names, properties) := linkProperties names properties
    let (names, entries) ← linkEntries names entries
    return (names, .mapping properties entries)

/-- Replaces the names in some trees by numbers. -/
def linkItems (names : Names) : List (Node String) → Except Fault (Names × List (Node Nat))
  | [] => .ok (names, [])
  | item :: rest => do
    let (names, item) ← link names item
    let (names, items) ← linkItems names rest
    return (names, item :: items)

/-- Replaces the names in some entries by numbers. -/
def linkEntries (names : Names) :
    List (Node String × Node String) → Except Fault (Names × List (Node Nat × Node Nat))
  | [] => .ok (names, [])
  | (key, value) :: rest => do
    let (names, key) ← link names key
    let (names, value) ← link names value
    let (names, entries) ← linkEntries names rest
    return (names, (key, value) :: entries)

end

/-- A node with its number, if it has one. -/
def numbered (properties : Properties Nat) (node : Node Nat) : List (Nat × Node Nat) :=
  (properties.anchor.map fun number => (number, node)).toList

mutual

/-- The nodes of a tree that have numbers, outermost and earliest first. -/
def targets : Node Nat → List (Nat × Node Nat)
  | .alias _ => []
  | .scalar properties text plain => numbered properties (.scalar properties text plain)
  | .sequence properties items =>
    numbered properties (.sequence properties items) ++ targetsInItems items
  | .mapping properties entries =>
    numbered properties (.mapping properties entries) ++ targetsInEntries entries

/-- The nodes of some trees that have numbers. -/
def targetsInItems : List (Node Nat) → List (Nat × Node Nat)
  | [] => []
  | item :: rest => targets item ++ targetsInItems rest

/-- The nodes of some entries that have numbers. -/
def targetsInEntries : List (Node Nat × Node Nat) → List (Nat × Node Nat)
  | [] => []
  | (key, value) :: rest => targets key ++ targets value ++ targetsInEntries rest

end

mutual

/-- The size of a tree: a collection counts for its start and its end. -/
def size : Node Nat → Nat
  | .alias _ => 1
  | .scalar .. => 1
  | .sequence _ items => 2 + sizeOfItems items
  | .mapping _ entries => 2 + sizeOfEntries entries

/-- The size of some trees. -/
def sizeOfItems : List (Node Nat) → Nat
  | [] => 0
  | item :: rest => size item + sizeOfItems rest

/-- The size of some entries. -/
def sizeOfEntries : List (Node Nat × Node Nat) → Nat
  | [] => 0
  | (key, value) :: rest => size key + size value + sizeOfEntries rest

end

/-! ### Values -/

/-- The nodes that aliases stand for; the latest with a number counts. -/
structure Links where
  latest : List (Nat × Node Nat)

/-- The links of a tree. -/
def Links.of (node : Node Nat) : Links :=
  ⟨(targets node).reverse⟩

/-- The node that an alias stands for. -/
def Links.follow (links : Links) (number jumps : Nat) : Except Fault (Node Nat × Nat) :=
  match jumps, links.latest.lookup number with
  | 0, _ => .error .repetition
  | jumps + 1, some node => .ok (node, jumps)
  | _, none => .error (.unknownAnchor (toString number))

/-- Applies a step to each item of a list, counting down the jumps that are left. -/
def threading {α β : Type} (step : α → Nat → Except Fault (β × Nat)) (jumps : Nat) :
    List α → Except Fault (List β × Nat)
  | [] => .ok ([], jumps)
  | item :: rest => do
    let (value, jumps) ← step item jumps
    let (values, jumps) ← threading step jumps rest
    return (value :: values, jumps)

/-- The text of a key: a scalar, or an alias of one, as it is written. -/
def keyText (links : Links) (key : Node Nat) (jumps : Nat) : Except Fault (String × Nat) := do
  let (node, jumps) ←
    match key with
    | .alias number => links.follow number jumps
    | other => pure (other, jumps)
  match node with
  | .scalar _ text _ => return (text, jumps)
  | _ => throw .keyNotScalar

/-- The nesting that remains inside a collection, which must not carry a tag of the document's
own. -/
def enter (tag : Option String) (depth : Nat) : Except Fault Nat :=
  if tag.any Meaning.isCustomTag then .error .customTag
  else
    match depth with
    | 0 => .error .nesting
    | depth + 1 => .ok depth

/-- The value of a tree, and the jumps that are left. -/
def valueOf (links : Links) (depth : Nat) (node : Node Nat) (jumps : Nat) :
    Nat → Except Fault (Json × Nat)
  | 0 => .error .nesting
  | fuel + 1 =>
    match node with
    | .alias number => do
      let (node, jumps) ← links.follow number jumps
      valueOf links depth node jumps fuel
    | .scalar properties text plain =>
      (Meaning.ofScalar properties.tag text plain).map (·, jumps)
    | .sequence properties items => do
      let depth ← enter properties.tag depth
      let (values, jumps) ←
        threading (fun item jumps => valueOf links depth item jumps fuel) jumps items
      return (.array values, jumps)
    | .mapping properties entries => do
      let depth ← enter properties.tag depth
      let (fields, jumps) ←
        threading (fun entry jumps => do
          let (key, jumps) ← keyText links entry.1 jumps
          let (value, jumps) ← valueOf links depth entry.2 jumps fuel
          return ((key, value), jumps)) jumps entries
      return (.object (Fields.ofList fields), jumps)

/-- The number of nested collections that a text may have. -/
def nestingLimit : Nat := 128

/-- The jumps that aliases may take, for each node of a tree. -/
def jumpsPerNode : Nat := 100

/-- The value of a linked tree. -/
def value (node : Node Nat) : Except Fault Json := do
  let (value, _) ←
    valueOf (Links.of node) nestingLimit node (size node * jumpsPerNode) (2 * nestingLimit + 3)
  return value

end ResourceGraph.Yaml

namespace ResourceGraph

/-- The value of a YAML text. -/
def Json.ofYaml (text : String) : Except Yaml.Fault Json := do
  let tokens ← Yaml.Token.ofText text
  let node ← Yaml.Node.document tokens
  let (_, node) ← Yaml.link [] node
  Yaml.value node

end ResourceGraph
