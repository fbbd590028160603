/-
**Log entries.**

An entry is a level and a message. `Logged` pairs a value with the entries written on the way to it,
earliest first; binding appends.
-/

namespace ResourceGraph

/-- How much an entry matters. -/
inductive Level where
  | debug
  | info
  | warn
  | error
deriving DecidableEq, Repr

/-- An entry of the log. -/
structure LogEntry where
  level : Level
  message : String
deriving DecidableEq, Repr

/-- The name of a level. -/
def Level.name : Level → String
  | .debug => "DEBUG"
  | .info => "INFO"
  | .warn => "WARN"
  | .error => "ERROR"

/-- A value and the entries written on the way to it. -/
structure Logged (α : Type) where
  entries : List LogEntry
  value : α
deriving DecidableEq, Repr

namespace Logged

/-- A value without entries. -/
def plain {α : Type} (value : α) : Logged α :=
  ⟨[], value⟩

/-- Goes on from the value; the entries of both parts follow each other. -/
def andThen {α β : Type} (first : Logged α) (next : α → Logged β) : Logged β :=
  let second := next first.value
  ⟨first.entries ++ second.entries, second.value⟩

instance : Monad Logged where
  pure := plain
  bind := andThen

/-- One entry. -/
def write (level : Level) (message : String) : Logged Unit :=
  ⟨[⟨level, message⟩], ()⟩

end Logged

end ResourceGraph
