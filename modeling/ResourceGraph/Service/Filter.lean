/-
**Query filters.**

A filter is a conjunction of clauses. A text inside a clause is quoted: a backslash stands before
every quote and every backslash of the text, so no text can end its literal early.
-/

import ResourceGraph.Text.Search

namespace ResourceGraph

/-- A clause of a filter. -/
inductive Clause where
  /-- The field equals the text. -/
  | equals (field value : String)
  /-- The field contains the text. -/
  | contains (field value : String)
deriving DecidableEq, Repr

/-- A conjunction of clauses. -/
abbrev Filter := List Clause

namespace Filter

/-- A character inside a literal. -/
def escaped (c : Char) : List Char :=
  if c = '\\' ∨ c = '"' then ['\\', c] else [c]

/-- The characters of a literal. -/
def quotedChars (value : List Char) : List Char :=
  '"' :: (value.flatMap escaped ++ ['"'])

/-- A text as a literal. -/
def quoted (value : String) : String :=
  String.ofList (quotedChars value.toList)

/-- The text of a clause. -/
def clauseText : Clause → String
  | .equals field value => field ++ " == " ++ quoted value
  | .contains field value => field ++ ".Contains(" ++ quoted value ++ ")"

/-- The text of a filter. -/
def text (filter : Filter) : String :=
  Text.join " && " (filter.map clauseText)

/-- The clause on a workspace, if there is one. -/
def inWorkspace : Option String → Filter
  | none => []
  | some workspace => [.equals "workspace" workspace]

end Filter

end ResourceGraph
