/-
**Placeholders.**

A placeholder is a string of the exact form of a dollar sign and a reference in braces, where the
reference is not empty and holds no brace. Keys and strings that merely contain such a form are
none.

* `Json.placeholders`: the references that the strings of a value name, first occurrence first;
* `Json.resolve`: the value with every placeholder replaced whose reference has an identifier.
-/

import ResourceGraph.Json.Basic
import ResourceGraph.Text.Search

namespace ResourceGraph

namespace Placeholder

/-- The characters before a reference. -/
def opening : List Char := ['$', '\x7b']

/-- The characters after a reference. -/
def closing : List Char := ['\x7d']

/-- Whether a reference can be named by a placeholder. -/
def isReference (chars : List Char) : Bool :=
  !chars.isEmpty && chars.all fun c => c != '\x7b' && c != '\x7d'

/-- The reference that a placeholder names; `none` for any other text. -/
def reference? (text : String) : Option String := do
  let inner ← Text.beforeSuffix? closing (← Text.afterPrefix? opening text.toList)
  if isReference inner then some (String.ofList inner) else none

end Placeholder

/-- The identifiers that references stand for; the latest entry of a reference counts. -/
structure Identifiers where
  entries : List (String × String)
deriving DecidableEq, Repr

namespace Identifiers

/-- No identifiers. -/
def empty : Identifiers := ⟨[]⟩

/-- The identifier of a reference. -/
def get? (ids : Identifiers) (reference : String) : Option String :=
  (ids.entries.find? fun entry => entry.1 == reference).map (·.2)

/-- Sets the identifier of a reference. -/
def publish (ids : Identifiers) (reference identifier : String) : Identifiers :=
  ⟨(reference, identifier) :: ids.entries⟩

/-- The identifier that stands in where the service's own is not known. -/
def synthetic (reference : String) : String :=
  "dry-run-" ++ reference

/-- Sets the identifier of a reference to the one that stands in. -/
def publishSynthetic (ids : Identifiers) (reference : String) : Identifiers :=
  ids.publish reference (synthetic reference)

end Identifiers

namespace Json

/-- Adds a reference unless it is there. -/
def addReference (found : List String) (reference : String) : List String :=
  if found.contains reference then found else found ++ [reference]

mutual

/-- Adds the references that the strings of a value name. -/
def gatherPlaceholders (found : List String) : Json → List String
  | string text => (Placeholder.reference? text).elim found (addReference found)
  | array items => gatherItems found items
  | object fields => gatherFields found fields
  | _ => found

/-- Adds the references that the strings of some items name. -/
def gatherItems (found : List String) : List Json → List String
  | [] => found
  | item :: rest => gatherItems (gatherPlaceholders found item) rest

/-- Adds the references that the strings of some fields name. -/
def gatherFields (found : List String) : List (String × Json) → List String
  | [] => found
  | (_, value) :: rest => gatherFields (gatherPlaceholders found value) rest

end

/-- The references that the strings of a value name, each once, in order of first occurrence. -/
def placeholders (value : Json) : List String :=
  gatherPlaceholders [] value

mutual

/-- The value with every placeholder replaced whose reference has an identifier. -/
def resolve (ids : Identifiers) : Json → Json
  | string text => string (((Placeholder.reference? text).bind ids.get?).getD text)
  | array items => array (resolveItems ids items)
  | object fields => object (resolveFields ids fields)
  | other => other

/-- Items with their placeholders replaced. -/
def resolveItems (ids : Identifiers) : List Json → List Json
  | [] => []
  | item :: rest => resolve ids item :: resolveItems ids rest

/-- Fields with the placeholders in their values replaced. -/
def resolveFields (ids : Identifiers) : List (String × Json) → List (String × Json)
  | [] => []
  | (key, value) :: rest => (key, resolve ids value) :: resolveFields ids rest

end

end Json

end ResourceGraph
