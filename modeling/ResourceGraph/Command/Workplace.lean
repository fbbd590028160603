/-
**Workplaces.**

What a command works with besides its own arguments: the files, the library, the settings and the
way results are shown. Variables of the environment say where data is kept and whether output is in
color.
-/

import ResourceGraph.Command.Arguments
import ResourceGraph.Document.Library

namespace ResourceGraph

namespace Environment

/-- The directory for data: the one that is named, if its path is absolute, else one in the home
directory. -/
def dataDirectory (environment : Environment) : Option String :=
  let named := (environment.get? "XDG_DATA_HOME").filter fun path => path.toList.head? == some '/'
  let home := (environment.get? "HOME").filter fun path => !path.isEmpty
  named.or (home.map fun path => Path.join path ".local/share")

/-- Whether a variable is set, and not to zero. -/
def isOn (environment : Environment) (name : String) : Option Bool :=
  (environment.get? name).map (· != "0")

/-- Whether output is in color: when it is demanded; else never when it is ruled out; else on a
terminal, unless colors are turned off. -/
def wantsColor (environment : Environment) (terminal : Bool) : Bool :=
  if environment.isOn "CLICOLOR_FORCE" == some true then true
  else if (environment.isOn "NO_COLOR").isSome then false
  else terminal && (environment.isOn "CLICOLOR").getD true

end Environment

/-- What a command works with. -/
structure Workplace where
  tree : FileTree
  library : Library
  settings : Settings
  view : Presentation
deriving DecidableEq, Repr

/-- The workplace that some arguments ask for. -/
def Arguments.workplace (arguments : Arguments) (tree : FileTree) (environment : Environment)
    (terminal : Bool) : Workplace where
  tree := tree
  library :=
    match arguments.documentsDirectory with
    | some root => ⟨root⟩
    | none => Library.standard tree environment.dataDirectory
  settings := arguments.settings
  view := ⟨arguments.format, environment.wantsColor terminal⟩

end ResourceGraph
