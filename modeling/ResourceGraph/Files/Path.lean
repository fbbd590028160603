/-
**Paths.**

A path is a text with slashes. Joining and taking names apart work on the text alone; what a path
leads to is the matter of `Files/Tree`.
-/

import ResourceGraph.Text.Search

namespace ResourceGraph.Path

/-- A path below another one. -/
def join (parent child : String) : String :=
  if parent.isEmpty then child
  else if parent.toList.getLast? = some '/' then parent ++ child
  else parent ++ "/" ++ child

/-- A file name cut at its last dot: the stem and the extension. A dot at the start cuts nothing. -/
def splitName (name : String) : String × Option String :=
  let reversed := name.toList.reverse
  let extension := reversed.takeWhile (· != '.')
  match reversed.drop extension.length with
  | '.' :: c :: stem => (String.ofList (c :: stem).reverse, some (String.ofList extension.reverse))
  | _ => (name, none)

end ResourceGraph.Path
