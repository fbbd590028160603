/-
**Environments.**

The variables that a program sees, by name. A variable that is set keeps its value when a file of
definitions is read.
-/

namespace ResourceGraph

/-- Variables with their values, each name at most once. -/
structure Environment where
  entries : List (String × String)
deriving DecidableEq, Repr

namespace Environment

/-- The value of a variable. -/
def get? (environment : Environment) (name : String) : Option String :=
  environment.entries.lookup name

/-- Sets a variable, unless it is set. -/
def define (environment : Environment) (name value : String) : Environment :=
  match environment.get? name with
  | some _ => environment
  | none => ⟨environment.entries ++ [(name, value)]⟩

end Environment

end ResourceGraph
