/-
**What teardown deletes.**

Every deletion follows at once on a query that was restricted to the cleanup tag, and to the
workspace if there is one, and it carries what that query found: for a kind deleted by name the
first match, for a kind that is swept all of them. No identifier is empty, so nothing but a single
resource is named.

* `Teardown.Backed`: a deletion with the query that backs it;
* `Course.backed`: every deletion of a course is backed;
* `Course.deleted`, `visit_deleted`: what counts as deleted was deleted.
-/

import ResourceGraph.Proofs.Teardown.Course

namespace ResourceGraph

namespace Teardown

open Dialogue

/-! ### Deletions of a course -/

/-- **The deletion is backed by the query before it**, and carries what the query found. -/
structure Backed (scope : Scope) (resource : Resource) (query : Request) (found : Json)
    (deletion : Request) (id : String) (more : List String) : Prop where
  /-- By name, the query asks for resources of the kind that have the name of the resource and the
  cleanup tag, in the workspace if there is one. -/
  looksUp : resource.kind.isSwept = false →
    query = ⟨.post, resource.kind.endpoint.queryPath, [], some (.object
      [("filter", .string (Filter.text (resource.kind.endpoint.nameClause resource.name ::
        resource.kind.endpoint.tagClause scope.tag ::
        (scope.workspace.map (Clause.equals "workspace")).toList))),
      ("take", .number (.integer resource.kind.endpoint.matchLimit))])⟩
  /-- Before a sweep, it asks for up to 1000 of the kind that have the cleanup tag, in the workspace
  if there is one. -/
  gathers : resource.kind.isSwept = true →
    query = ⟨.post, resource.kind.endpoint.queryPath, [], some (.object
      [("filter", .string (Filter.text (resource.kind.endpoint.tagClause scope.tag ::
        (scope.workspace.map (Clause.equals "workspace")).toList))),
      ("take", .number (.integer 1000))])⟩
  /-- By name, the first match that the query found is deleted. -/
  first : resource.kind.isSwept = false → more = [] ∧ scope.Finds resource.kind found id
  /-- A sweep deletes all that the query found, in order. -/
  all : resource.kind.isSwept = true →
    id :: more = (entriesUnder resource.kind.endpoint.collection found).filterMap idOf?
  /-- No identifier is empty. -/
  named : ∀ given ∈ id :: more, given ≠ ""
  /-- A deletion at a path names the identifier there, so its path goes on after the collection. -/
  below : ∀ collection, resource.kind.endpoint.deletion = .atPath collection →
    deletion = ⟨.delete, collection ++ "/" ++ id, [], none⟩ ∧ deletion.path ≠ collection ∧
      deletion.path ≠ collection ++ "/"
  /-- One that is posted carries the identifier, and nothing else but the constants of the kind. -/
  posted : ∀ path idsKey constants failed,
    resource.kind.endpoint.deletion = .posted path idsKey constants failed →
      deletion = ⟨.post, path, [], some (.object (constants.insert idsKey (.array [.string id])))⟩
  /-- A sweep carries all the identifiers. -/
  sweeps : ∀ path failed limit, resource.kind.endpoint.deletion = .sweep path failed limit →
    deletion = ⟨.post, path, [], some (.object [("ids", .array ((id :: more).map .string))])⟩

/-- A path below a collection is not that of the collection. -/
theorem append_ne_of_ne_empty (collection : String) {id : String} (named : id ≠ "") :
    collection ++ "/" ++ id ≠ collection ∧ collection ++ "/" ++ id ≠ collection ++ "/" := by
  have filled : id.length ≠ 0 := fun empty => named (String.length_eq_zero_iff.mp empty)
  constructor
  · intro same
    have lengths := congrArg String.length same
    simp only [String.length_append] at lengths
    omega
  · intro same
    have lengths := congrArg String.length same
    simp only [String.length_append] at lengths
    omega

theorem inWorkspace_eq (workspace : Option String) :
    Filter.inWorkspace workspace = (workspace.map (Clause.equals "workspace")).toList := by
  cases workspace with
  | none => rfl
  | some workspace => rfl

/-- What a query found backs the deletion after it. -/
theorem backed_of_targets {scope : Scope} {resource : Resource} {found : Json} {id : String}
    {more : List String} (targets : scope.targets resource.kind found = id :: more) :
    Backed scope resource (query scope resource) found
      (Scope.deletionRequest resource.kind id more) id more := by
  obtain ⟨first, all⟩ := Scope.targets_eq_cons targets
  have named : ∀ given ∈ id :: more, given ≠ "" := by
    intro given member
    rw [← targets] at member
    exact Scope.mem_targets_ne_empty member
  refine ⟨fun unswept => ?_, fun swept => ?_, first, all, named, ?_, ?_, ?_⟩
  · rw [query, Scope.deletionQuery_of_not_isSwept unswept, ← inWorkspace_eq]
    rfl
  · rw [query, Scope.deletionQuery_of_isSwept swept, ← inWorkspace_eq]
    rfl
  · intro collection manner
    have sent : Scope.deletionRequest resource.kind id more =
        .delete (collection ++ "/" ++ id) := by
      rw [Scope.deletionRequest, manner]
    rw [sent]
    exact ⟨rfl, append_ne_of_ne_empty collection (named id List.mem_cons_self)⟩
  · intro path idsKey constants failed manner
    rw [Scope.deletionRequest, manner]
    rfl
  · intro path failed limit manner
    rw [Scope.deletionRequest, manner]
    rfl

section Course

variable {options : RunOptions} {scope : Scope} {tags : List String} {swept : List Kind}
  {resource : Resource} {exchanges : List Exchange}
  {outcome : Except Failure (ResourceResult × List Kind)}

theorem not_isDeletion_query (scope : Scope) (resource : Resource) :
    ¬ (query scope resource).IsDeletion := by
  obtain ⟨filter, limit, same⟩ := scope.exists_deletionQuery_eq resource.kind resource.name
  rw [query, same]
  exact Scope.not_isDeletion_query _ _ _

/-- There is no deletion where the query is all that is sent. -/
theorem not_isDeletion_of_singleton {found reply : Reply} {first rest : List Exchange}
    {deletion : Request}
    (split : [(query scope resource, found)] = first ++ (deletion, reply) :: rest) :
    ¬ deletion.IsDeletion := by
  have member : (deletion, reply) ∈ [(query scope resource, found)] := by
    rw [split]
    exact List.mem_append_right _ List.mem_cons_self
  cases List.mem_singleton.mp member
  exact not_isDeletion_query scope resource

/-- **Every deletion of a course is backed** by the query just before it. -/
theorem Course.backed (course : Course options scope tags swept resource exchanges outcome)
    {first rest : List Exchange} {deletion : Request} {reply : Reply}
    (split : exchanges = first ++ (deletion, reply) :: rest) (deletes : deletion.IsDeletion) :
    ∃ found id more, first = [(query scope resource, .ok found)] ∧
      Backed scope resource (query scope resource) found deletion id more := by
  cases course with
  | filteredOut out => simp at split
  | dryRun kept dry => simp at split
  | cleaned kept wet cleaned => simp at split
  | queryFailed asks => exact absurd deletes (not_isDeletion_of_singleton split)
  | notFound asks nothing => exact absurd deletes (not_isDeletion_of_singleton split)
  | @deletes found id more answer asks targets =>
    -- the query deletes nothing, so the deletion is the second exchange
    cases first with
    | nil =>
      obtain ⟨same, _⟩ := List.cons.inj split
      cases same
      exact absurd deletes (not_isDeletion_query scope resource)
    | cons asked first =>
      obtain ⟨rfl, later⟩ := List.cons.inj split
      cases first with
      | nil =>
        obtain ⟨same, _⟩ := List.cons.inj later
        cases same
        exact ⟨found, id, more, rfl, backed_of_targets targets⟩
      | cons other first => simp at later

/-- **What counts as deleted** was asked for, deleted, and the deletion was accepted. -/
theorem Course.deleted {result : ResourceResult} {next : List Kind}
    (course : Course options scope tags swept resource exchanges (.ok (result, next)))
    (deleted : result.action = .deleted) :
    ∃ found id more answer, exchanges = [(query scope resource, .ok found),
        (Scope.deletionRequest resource.kind id more, answer)] ∧
      scope.targets resource.kind found = id :: more ∧ result.serverId = some id ∧
      Scope.Accepted resource.kind answer := by
  generalize reached : Except.ok (result, next) = outcome at course
  have failed {failure : Failure}
      (same : Except.ok (result, next) = concluded scope swept resource (.error failure)) :
      False := by
    unfold concluded settle at same
    dsimp only at same
    split at same
    · cases same
    · cases same
      cases deleted
  cases course with
  | filteredOut out =>
    cases reached
    cases deleted
  | dryRun kept dry =>
    cases reached
    cases deleted
  | cleaned kept wet cleaned =>
    cases reached
    cases deleted
  | queryFailed asks => exact (failed reached).elim
  | notFound asks nothing =>
    cases reached
    cases deleted
  | @deletes found id more answer asks targets =>
    cases concludes : Scope.deletionOutcome resource.kind id more answer with
    | error failure =>
      rw [concludes] at reached
      exact (failed reached).elim
    | ok done =>
      rw [concludes] at reached
      cases reached
      rcases Scope.deletionOutcome_eq_ok concludes with rfl | ⟨rfl | rfl, accepted⟩
      · cases deleted
      · exact ⟨found, id, more, answer, rfl, targets, rfl, accepted⟩
      · exact ⟨found, id, more, answer, rfl, targets, rfl, accepted⟩

end Course

/-! ### Deletions of a visit -/

section Visits

variable {σ : Type} (service : Service σ) (state : σ) (options : RunOptions) (tags : List String)
  (document : Document) {here : Visit σ (List Kind)}

theorem mem_resources (member : here ∈ document.teardownVisits service state options tags) :
    here.resource ∈ document.resources := by
  rw [← List.mem_reverse]
  exact (Walk.visits_resources_prefix service _ _ _ document.resources.reverse).subset
    (List.mem_map_of_mem member)

/-- **What a visit says is deleted** was deleted. -/
theorem visit_deleted (member : here ∈ document.teardownVisits service state options tags)
    (deleted : here.recorded.action = .deleted) :
    ∃ found id more deletion answer,
      here.exchanges = [(query (options.scope document) here.resource, .ok found),
        (deletion, answer)] ∧
      Backed (options.scope document) here.resource
        (query (options.scope document) here.resource) found deletion id more ∧
      here.recorded.serverId = some id ∧ Scope.Accepted here.resource.kind answer := by
  have course := visit_course service state options _ tags member
  cases reached : here.outcome with
  | error cause =>
    rw [Visit.recorded, reached] at deleted
    cases deleted
  | ok pair =>
    obtain ⟨result, next⟩ := pair
    have recorded : here.recorded = result := by
      rw [Visit.recorded, reached]
    rw [reached] at course
    rw [recorded] at deleted ⊢
    obtain ⟨found, id, more, answer, exchanged, targets, named, accepted⟩ := course.deleted deleted
    exact ⟨found, id, more, _, answer, exchanged, backed_of_targets targets, named, accepted⟩

end Visits

end Teardown

/-! ### Runs -/

section Run

open Dialogue

/-- **What teardown deletes.** Every deletion of a run follows at once on a query that backs it: one
of the same kind, restricted to the cleanup tag, to the workspace if there is one and to the name if
the kind is not swept, whose reply holds what the deletion carries. What the run says is deleted was
deleted by such a request, which was accepted, and the result names its first identifier. -/
theorem teardown_deletes {σ : Type} (service : Service σ) (state : σ) (options : RunOptions)
    (occasion : Occasion) (tags : List String) (document : Document) :
    let run := converse service state (document.teardown options occasion tags)
    let visited := document.teardownVisits service state options tags
    let scope : Scope := ⟨options.workspace, document.cleanupTag options.tool⟩
    run.result.report.results = visited.map Visit.recorded ∧
      run.exchanges = visited.flatMap Visit.exchanges ∧
      (∀ before deletion reply after, run.exchanges = before ++ (deletion, reply) :: after →
        deletion.IsDeletion →
          ∃ resource ∈ document.resources, ∃ earlier query found id more,
            before = earlier ++ [(query, .ok found)] ∧
            Teardown.Backed scope resource query found deletion id more) ∧
      ∀ here ∈ visited, here.recorded.action = .deleted →
        ∃ query found id more deletion answer,
          here.exchanges = [(query, .ok found), (deletion, answer)] ∧
          Teardown.Backed scope here.resource query found deletion id more ∧
          here.recorded.serverId = some id ∧ Scope.Accepted here.resource.kind answer := by
  rw [converse_teardown]
  dsimp only
  rw [RunOutcome.report_ofWalk]
  refine ⟨rfl, rfl, ?_, ?_⟩
  · intro before deletion reply after split deletes
    obtain ⟨earlier, here, later, first, rest, visited, exchanged, rfl⟩ :=
      exists_of_flatMap_eq_append split
    have member : here ∈ document.teardownVisits service state options tags := by
      rw [visited]
      exact List.mem_append_right _ List.mem_cons_self
    have course := Teardown.visit_course service state options _ tags member
    obtain ⟨found, id, more, rfl, backed⟩ := course.backed exchanged deletes
    exact ⟨here.resource, Teardown.mem_resources service state options tags document member,
      _, _, found, id, more, rfl, backed⟩
  · intro here member deleted
    obtain ⟨found, id, more, deletion, answer, exchanged, backed, named, accepted⟩ :=
      Teardown.visit_deleted service state options tags document member deleted
    exact ⟨_, found, id, more, deletion, answer, exchanged, backed, named, accepted⟩

/-- A document with one location. -/
def solitary : Document where
  formatVersion := "1.0"
  name := "solitary"
  title := "Solitary"
  description := none
  author := none
  tags := []
  setupMinutes := none
  resources := [⟨.location, "Lab", [], "lab", []⟩]

/-- What the service says of its location. -/
def labEntries : Json :=
  .object [("locations", .array [.object [("id", .string "loc-1")]])]

/-- A service that has a location. -/
def keeping : Service Unit := fun _ _ =>
  (.ok labEntries, ())

/-- A run that deletes. -/
def thoroughly : RunOptions := ⟨false, some "main", "seedbed", .fail, false⟩

/-- The visit of the location. -/
def labRemoval : Visit Unit (List Kind) :=
  Walk.visit keeping (Teardown.handle thoroughly (thoroughly.scope solitary) []) [] ()
    ⟨.location, "Lab", [], "lab", []⟩

/-- The location that the service found is deleted. -/
theorem teardown_deletes_lab :
    let lab : Resource := ⟨.location, "Lab", [], "lab", []⟩
    let scope : Scope := ⟨some "main", "seedbed-example:solitary"⟩
    let asked : Exchange := (Teardown.query scope lab, .ok labEntries)
    let deletion := Request.delete "/nilocation/v1/locations/loc-1"
    (solitary.teardownVisits keeping () thoroughly []).flatMap Visit.exchanges =
        [asked] ++ (deletion, .ok labEntries) :: [] ∧
      deletion.IsDeletion ∧ labRemoval.recorded.action = .deleted ∧
      (∃ resource ∈ solitary.resources, ∃ query found id more,
        Teardown.Backed scope resource query found deletion id more) ∧
      ∃ query found id more deletion answer,
        labRemoval.exchanges = [(query, .ok found), (deletion, answer)] ∧
        Teardown.Backed scope lab query found deletion id more ∧
        labRemoval.recorded.serverId = some id ∧ Scope.Accepted .location answer := by
  intro lab scope asked deletion
  have split : (solitary.teardownVisits keeping () thoroughly []).flatMap Visit.exchanges =
      [asked] ++ (deletion, .ok labEntries) :: [] := rfl
  have deletes : deletion.IsDeletion := Or.inl rfl
  have removed : labRemoval.recorded.action = .deleted := rfl
  obtain ⟨_, exchanges, deletions, deleted⟩ :=
    teardown_deletes keeping () thoroughly .epoch [] solitary
  obtain ⟨resource, member, _, query, found, id, more, _, backed⟩ :=
    deletions _ _ _ _ (exchanges.trans split) deletes
  exact ⟨split, deletes, removed, ⟨resource, member, query, found, id, more, backed⟩,
    deleted labRemoval (List.mem_singleton_self labRemoval) removed⟩

end Run

end ResourceGraph
