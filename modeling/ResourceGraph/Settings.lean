/-
**Settings.**

The address and the key of the service count only if they are not blank; blanks around them are
dropped.
-/

import ResourceGraph.Failure

namespace ResourceGraph

/-- The settings of a run. -/
structure Settings where
  apiUrl : Option String
  apiKey : Option String
  workspace : Option String
  tool : String
deriving DecidableEq, Repr

namespace Settings

/-- The tool's name when none is given. -/
def defaultTool : String := "seedbed"

/-- The environment variable that holds the service's address. -/
def apiUrlVariable : String := "SEEDBED_API_URL"

/-- The environment variable that holds the service's key. -/
def apiKeyVariable : String := "SEEDBED_API_KEY"

/-- A setting that has to be there. -/
def required (name : String) (value : Option String) : Except Failure String :=
  match (value.map Text.trim).filter fun text => !text.isEmpty with
  | some text => .ok text
  | none => .error (.missingSetting name)

/-- The service's address. -/
def requiredUrl (settings : Settings) : Except Failure String :=
  required apiUrlVariable settings.apiUrl

/-- The service's key. -/
def requiredKey (settings : Settings) : Except Failure String :=
  required apiKeyVariable settings.apiKey

end Settings

end ResourceGraph
