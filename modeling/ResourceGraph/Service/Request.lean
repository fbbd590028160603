/-
**Requests to the resource service.**

A request is a method, a path below the service's address, query parameters and perhaps a body. A
reply is the value in the body of the service's answer, or the failure of the call.
-/

import ResourceGraph.Failure

namespace ResourceGraph

/-- A request method. -/
inductive Method where
  | get
  | post
  | put
  | patch
  | delete
  | other (name : String)
deriving DecidableEq, Repr

namespace Method

/-- The name of a method. -/
def name : Method → String
  | get => "GET"
  | post => "POST"
  | put => "PUT"
  | patch => "PATCH"
  | delete => "DELETE"
  | other name => name

/-- The method of a name. -/
def ofName (name : String) : Method :=
  if name = "GET" then get
  else if name = "POST" then post
  else if name = "PUT" then put
  else if name = "PATCH" then patch
  else if name = "DELETE" then delete
  else other name

end Method

/-- A request. -/
structure Request where
  method : Method
  path : String
  query : List (String × String)
  body : Option Json
deriving DecidableEq, Repr

namespace Request

/-- A request that posts a body. -/
def post (path : String) (body : Json) : Request :=
  ⟨.post, path, [], some body⟩

/-- A request that deletes what is at a path. -/
def delete (path : String) : Request :=
  ⟨.delete, path, [], none⟩

/-- How messages name a request. -/
def label (request : Request) : String :=
  request.method.name ++ " " ++ request.path

end Request

/-- What comes back for a request. -/
abbrev Reply := Except Failure Json

end ResourceGraph
