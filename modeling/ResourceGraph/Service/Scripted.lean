/-
**Scripted services.**

A scripted service has a queue of replies for each route, and perhaps a standing reply for when the
queue is used up. A route that has neither is answered with null.
-/

import ResourceGraph.Service.Dialogue

namespace ResourceGraph

/-- The replies of one route, named like its requests. -/
structure Route where
  label : String
  queue : List Reply
  standing : Option Reply

/-- The routes of a service. -/
abbrev Script := List Route

namespace Script

/-- Adds replies to a route; the latest standing reply counts. -/
def add (script : Script) (route : Route) : Script :=
  match script with
  | [] => [route]
  | first :: rest =>
    if first.label = route.label then
      ⟨first.label, first.queue ++ route.queue, route.standing.or first.standing⟩ :: rest
    else first :: add rest route

/-- The next reply on a route, and the script after it. -/
def next (label : String) : Script → Reply × Script
  | [] => (.ok .null, [])
  | route :: rest =>
    if route.label = label then
      match route.queue with
      | reply :: queue => (reply, { route with queue := queue } :: rest)
      | [] => (route.standing.getD (.ok .null), route :: rest)
    else
      let (reply, after) := next label rest
      (reply, route :: after)

/-- The service of a script. -/
def service : Service Script := fun request script =>
  script.next request.label

end Script

end ResourceGraph
