/-
**In which order teardown deletes.**

Teardown walks in reverse declared order, so a resource is deleted before those it refers to, as
long as resources are deleted one by one. A kind that is swept is deleted as a whole, at the last
declared resource of the kind. Such a sweep overtakes a resource that is only deleted later, and may
refer to one of the kind.

* `Teardown.Covers`: handling a resource deletes another one;
* `Document.Overtakes`: a resource is deleted with one that is handled before another is deleted;
* `Teardown.Stocked`: the service has every resource of the document, and deletes what it is told
  to;
* `Stocked.deletes`, `Stocked.covers`: a visit deletes exactly what its resource covers;
* `exists_deletes_of_covers`: by then all of that is deleted, at this visit or an earlier one;
* `deletesFirst_of_not_overtakes`, `not_deletesFirst_of_overtakes`: a resource is deleted first
  exactly if it is not overtaken;
* `isSwept_of_overtakes`: only a kind that is swept overtakes what refers to it.
-/

import ResourceGraph.Proofs.Document.Acceptance
import ResourceGraph.Proofs.Document.Findings
import ResourceGraph.Proofs.Teardown.Passing

namespace ResourceGraph

namespace Teardown

/-- Handling the one resource deletes the other: it is the same one, or its kind is swept. -/
def Covers (resource other : Resource) : Prop :=
  resource = other ∨ other.kind.isSwept = true ∧ resource.kind = other.kind

end Teardown

/-- **A resource overtakes another one**: a resource that covers it is declared after all that cover
the other one. If the resource is not swept with others, this says that it is declared after them
itself. -/
def Document.Overtakes (document : Document) (one other : Resource) : Prop :=
  ∃ before last after, document.resources = before ++ last :: after ∧ Teardown.Covers last one ∧
    ∀ later ∈ last :: after, ¬ Teardown.Covers later other

namespace Teardown

variable {σ : Type}

/-- **The service has every resource of the document**, each under its own identifier, and does what
a visit asks for. -/
structure Stocked (scope : Scope) (document : Document) (id : Resource → String)
    (here : Visit σ (List Kind)) : Prop where
  /-- A query by name is answered with the identifier of the resource. -/
  named : here.resource.kind.isSwept = false →
    ∀ reply, (query scope here.resource, reply) ∈ here.exchanges →
      ∃ found, reply = .ok found ∧ scope.Finds here.resource.kind found (id here.resource)
  /-- The query of a sweep is answered with the identifiers of all resources of the kind. -/
  swept : here.resource.kind.isSwept = true →
    ∀ reply, (query scope here.resource, reply) ∈ here.exchanges →
      ∃ found, reply = .ok found ∧ ∀ given, given ∈ scope.targets here.resource.kind found ↔
        ∃ other ∈ document.resources, other.kind = here.resource.kind ∧ id other = given
  /-- What is to be deleted is deleted. -/
  accepted : ∀ deletion reply, (deletion, reply) ∈ here.exchanges → deletion.IsDeletion →
    Scope.Accepted here.resource.kind reply

/-- Wherever the second is deleted, the first is deleted before or by the same request. -/
def DeletesFirst (requests : List Request) (first second : String) : Prop :=
  ∀ before deletion after, requests = before ++ deletion :: after → deletion.Deletes second →
    ∃ request ∈ before ++ [deletion], request.Deletes first

/-! ### What a visit deletes -/

section Visit

variable {options : RunOptions} {scope : Scope} {tags : List String} {document : Document}
  {id : Resource → String} {here : Visit σ (List Kind)}

theorem Stocked.answered (stocked : Stocked scope document id here) {reply : Reply}
    (asked : (query scope here.resource, reply) ∈ here.exchanges) : ∃ found, reply = .ok found := by
  cases sweeps : here.resource.kind.isSwept with
  | false =>
    obtain ⟨found, answered, _⟩ := stocked.named sweeps reply asked
    exact ⟨found, answered⟩
  | true =>
    obtain ⟨found, answered, _⟩ := stocked.swept sweeps reply asked
    exact ⟨found, answered⟩

/-- **Nothing fails** at a service that has everything. -/
theorem Stocked.passes (stocked : Stocked scope document id here) (told : Told here)
    (course : Course options scope tags here.known here.resource here.exchanges here.outcome) :
    here.recorded.action ≠ .failed := by
  intro failed
  obtain ⟨⟨request, reply⟩, member, failure, fails⟩ := told.failed_iff.mp failed
  have sent := course.isFor request (List.mem_map_of_mem member)
  cases fails with
  | answered there =>
    rcases sent with rfl | ⟨first, more, rfl⟩
    · obtain ⟨found, impossible⟩ := stocked.answered member
      cases impossible
    · obtain ⟨answer, impossible, _⟩ :=
        stocked.accepted _ _ member (isDeletion_deletionRequest _ _ _)
      cases impossible
  | refused deletes listed found =>
    obtain ⟨answer, same, nothing⟩ := stocked.accepted _ _ member deletes
    cases same
    rw [Scope.deletionProblem?_eq_none_iff.mpr (nothing _ listed)] at found
    cases found

/-- A query by name that finds an identifier takes it and no other one. -/
theorem targets_eq_singleton {kind : Kind} {found : Json} {given : String}
    (named : kind.isSwept = false) (finds : scope.Finds kind found given) :
    scope.targets kind found = [given] := by
  cases targets : scope.targets kind found with
  | nil =>
    have first := scope.head?_matchesIn_eq_some_iff.mpr finds
    unfold Scope.targets at targets
    unfold Kind.isSwept at named
    split at targets
    · rename_i manner
      rw [manner] at named
      cases named
    · rw [first] at targets
      cases targets
  | cons first more =>
    obtain ⟨rfl, also⟩ := (Scope.targets_eq_cons targets).1 named
    rw [also.unique finds]

/-- **A visit that asks deletes what its resource covers**, and nothing else of the document. -/
theorem Stocked.deletes (stocked : Stocked scope document id here)
    (declared : here.resource ∈ document.resources)
    (distinct : ∀ one ∈ document.resources, ∀ other ∈ document.resources, id one = id other →
      one = other)
    (done : Done options scope tags here) (asks : Asks options tags here.known here.resource) :
    ∃ first more, here.requests =
        [query scope here.resource, Scope.deletionRequest here.resource.kind first more] ∧
      ∀ other ∈ document.resources,
        id other ∈ Scope.carried here.resource.kind first more ↔ Covers here.resource other := by
  cases done with
  | silent idle => exact absurd asks idle
  | @asked found done deletions _ sent _ deletes =>
    have asked : (query scope here.resource, .ok found) ∈ here.exchanges := by
      rw [sent]
      exact List.mem_cons_self
    have requests (first : String) (more : List String) (answer : Reply)
        (same : deletions = [(Scope.deletionRequest here.resource.kind first more, answer)]) :
        here.requests =
          [query scope here.resource, Scope.deletionRequest here.resource.kind first more] := by
      rw [Visit.requests, sent, same]
      rfl
    cases sweeps : here.resource.kind.isSwept with
    | false =>
      obtain ⟨_, same, finds⟩ := stocked.named sweeps _ asked
      cases same
      rw [targets_eq_singleton sweeps finds] at deletes
      rcases deletes with ⟨nothing, _⟩ | ⟨first, more, answer, targets, same, _⟩
      · cases nothing
      · cases targets
        refine ⟨_, _, requests _ _ answer same, fun other member => ?_⟩
        rw [Scope.carried, sweeps, if_neg Bool.false_ne_true, List.mem_singleton]
        constructor
        · exact fun same => Or.inl (distinct _ declared _ member same.symm)
        · rintro (rfl | ⟨swept, same⟩)
          · rfl
          · rw [← same, sweeps] at swept
            cases swept
    | true =>
      obtain ⟨_, same, all⟩ := stocked.swept sweeps _ asked
      cases same
      rcases deletes with ⟨nothing, _⟩ | ⟨first, more, answer, targets, same, _⟩
      · have some := (all (id here.resource)).mpr ⟨here.resource, declared, rfl, rfl⟩
        rw [nothing] at some
        cases some
      · refine ⟨first, more, requests _ _ answer same, fun other member => ?_⟩
        rw [Scope.carried, sweeps, if_pos rfl, ← targets, all]
        constructor
        · rintro ⟨one, among, kind, same⟩
          obtain rfl := distinct _ among _ member same
          refine Or.inr ⟨?_, kind.symm⟩
          rw [kind]
          exact sweeps
        · rintro (rfl | ⟨_, kind⟩)
          · exact ⟨_, declared, rfl, rfl⟩
          · exact ⟨other, member, kind.symm, rfl⟩

/-- **What a visit deletes, its resource covers**, and the visit asked before. -/
theorem Stocked.covers (stocked : Stocked scope document id here)
    (declared : here.resource ∈ document.resources)
    (distinct : ∀ one ∈ document.resources, ∀ other ∈ document.resources, id one = id other →
      one = other)
    (done : Done options scope tags here) {request : Request} (sent : request ∈ here.requests)
    {other : Resource} (member : other ∈ document.resources)
    (deletes : request.Deletes (id other)) :
    Asks options tags here.known here.resource ∧ Covers here.resource other ∧
      ∀ one ∈ document.resources, Covers here.resource one → request.Deletes (id one) := by
  have asks : Asks options tags here.known here.resource := by
    cases done with
    | silent idle nothing =>
      rw [Visit.requests, nothing] at sent
      cases sent
    | asked asks => exact asks
  obtain ⟨first, more, requests, carries⟩ := stocked.deletes declared distinct done asks
  rw [requests, List.mem_cons, List.mem_singleton] at sent
  rcases sent with rfl | rfl
  · -- a query deletes nothing
    obtain ⟨kind, given, others, same, _⟩ := deletes
    refine absurd ?_ (not_isDeletion_query scope here.resource)
    rw [same]
    exact isDeletion_deletionRequest kind given others
  · refine ⟨asks, (carries other member).mp (Request.deletes_deletionRequest_iff.mp deletes), ?_⟩
    exact fun one among covers =>
      Request.deletes_deletionRequest_iff.mpr ((carries one among).mpr covers)

end Visit

/-! ### What a run has deleted -/

section Visits

variable (service : Service σ) (state : σ) (options : RunOptions) (document : Document)
  {id : Resource → String}
  (distinct : ∀ one ∈ document.resources, ∀ other ∈ document.resources,
    id one = id other → one = other)
  (stocked : ∀ here ∈ document.teardownVisits service state options [],
    Stocked (options.scope document) document id here)

include stocked

theorem passes_of_stocked :
    ∀ here ∈ document.teardownVisits service state options [], here.recorded.action ≠ .failed := by
  intro here member
  exact (stocked here member).passes (visit_told service state options _ [] member)
    (visit_course service state options _ [] member)

include distinct

/-- **What a resource covers is deleted once the resource is handled.** -/
theorem exists_deletes_of_covers
    (wet : options.dryRun = false) {before after : List (Visit σ (List Kind))}
    {here : Visit σ (List Kind)}
    (split : document.teardownVisits service state options [] = before ++ here :: after)
    {other : Resource} (member : other ∈ document.resources) (covers : Covers here.resource other) :
    ∃ earlier ∈ before ++ [here], ∃ request ∈ earlier.requests, request.Deletes (id other) := by
  have passes := passes_of_stocked service state options document stocked
  -- a visit that asks deletes what its resource covers
  have deletes (visit : Visit σ (List Kind))
      (visited : visit ∈ document.teardownVisits service state options [])
      (asks : Asks options [] visit.known visit.resource) (covers : Covers visit.resource other) :
      ∃ request ∈ visit.requests, request.Deletes (id other) := by
    have declared := mem_resources service state options [] document visited
    have done := done_of_mem service state options [] document passes visited
    obtain ⟨first, more, requests, carries⟩ :=
      (stocked visit visited).deletes declared distinct done asks
    refine ⟨Scope.deletionRequest visit.resource.kind first more, ?_,
      Request.deletes_deletionRequest_iff.mpr ((carries other member).mpr covers)⟩
    rw [requests]
    exact List.mem_cons_of_mem _ (List.mem_singleton_self _)
  have visited : ∀ visit ∈ before ++ [here],
      visit ∈ document.teardownVisits service state options [] := by
    intro visit among
    rw [split, List.append_cons]
    exact List.mem_append_left _ among
  have last : here ∈ before ++ [here] := List.mem_concat_self
  by_cases cleaned : Cleaned here.known here.resource
  · obtain ⟨sweeps, swept⟩ := cleaned
    obtain ⟨_, _, _, known, _⟩ := Walk.exists_of_visits_eq_append service _ _ _ split
    rw [known] at swept
    obtain ⟨earlier, among, same, asks⟩ :=
      (swept_visits service state options [] document passes sweeps wet split).asked swept
    -- the visit that swept the kind covers the resource too
    have also : Covers earlier.resource other := by
      refine Or.inr ?_
      rw [same]
      rcases covers with rfl | ⟨swept, kind⟩
      · exact ⟨sweeps, rfl⟩
      · exact ⟨swept, kind⟩
    have among : earlier ∈ before ++ [here] := List.mem_append_left _ among
    exact ⟨earlier, among, deletes earlier (visited earlier among) asks also⟩
  · exact ⟨here, last, deletes here (visited here last) ⟨rfl, wet, cleaned⟩ covers⟩

/-- **A resource that is not overtaken is deleted first.** -/
theorem deletesFirst_of_not_overtakes
    {first second : Resource} (declaredFirst : first ∈ document.resources)
    (declaredSecond : second ∈ document.resources) (guarded : ¬ document.Overtakes second first) :
    DeletesFirst ((document.teardownVisits service state options []).flatMap Visit.requests)
      (id first) (id second) := by
  intro before deletion after parts deletes
  obtain ⟨earlier, here, later, sent, rest, split, requests, rfl⟩ :=
    exists_of_flatMap_eq_append parts
  have member : here ∈ document.teardownVisits service state options [] := by
    rw [split]
    exact List.mem_append_cons_self
  have among : deletion ∈ here.requests := by
    rw [requests]
    exact List.mem_append_cons_self
  have passes := passes_of_stocked service state options document stocked
  obtain ⟨asks, covers, also⟩ := (stocked here member).covers
    (mem_resources service state options [] document member) distinct
    (done_of_mem service state options [] document passes member) among declaredSecond deletes
  -- the resources handled so far are the last ones declared
  obtain ⟨others, reversed, _⟩ := Walk.exists_of_visits_eq_append service _ _ _ split
  have declared : document.resources =
      others.reverse ++ here.resource :: (earlier.map Visit.resource).reverse := by
    rw [← List.reverse_reverse document.resources, reversed, List.reverse_append,
      List.reverse_cons, List.append_assoc, List.singleton_append]
  obtain ⟨cover, handled, coversFirst⟩ : ∃ cover ∈ here.resource ::
      (earlier.map Visit.resource).reverse, Covers cover first := by
    by_contra none
    exact guarded ⟨_, _, _, declared, covers, fun cover handled counts =>
      none ⟨cover, handled, counts⟩⟩
  rcases List.mem_cons.mp handled with rfl | handled
  · exact ⟨deletion, List.mem_concat_self,
      also first declaredFirst coversFirst⟩
  · obtain ⟨visit, visited, rfl⟩ := List.mem_map.mp (List.mem_reverse.mp handled)
    obtain ⟨front, back, rfl⟩ := List.append_of_mem visited
    rw [List.append_assoc, List.cons_append] at split
    obtain ⟨deleting, early, request, sent, deleted⟩ :=
      exists_deletes_of_covers service state options
        document distinct stocked asks.wet split declaredFirst coversFirst
    refine ⟨request, List.mem_append_left _ (List.mem_append_left _ ?_), deleted⟩
    refine List.mem_flatMap.mpr ⟨deleting, ?_, sent⟩
    rw [List.append_cons]
    exact List.mem_append_left _ early

/-- **A resource that is overtaken is not.** -/
theorem not_deletesFirst_of_overtakes
    (wet : options.dryRun = false)
    {first second : Resource} (declaredFirst : first ∈ document.resources)
    (declaredSecond : second ∈ document.resources) (overtakes : document.Overtakes second first) :
    ¬ DeletesFirst ((document.teardownVisits service state options []).flatMap Visit.requests)
      (id first) (id second) := by
  intro ordered
  have passes := passes_of_stocked service state options document stocked
  obtain ⟨front, last, back, declared, covers, apart⟩ := overtakes
  have all := resources_of_passes service state options [] document passes
  rw [declared, List.reverse_append, List.reverse_cons, List.append_assoc,
    List.singleton_append] at all
  obtain ⟨before, rest, split, handled, others⟩ := List.map_eq_append_iff.mp all
  obtain ⟨here, after, rfl, rfl, _⟩ := List.map_eq_cons_iff.mp others
  -- by then the second is deleted, and no resource was handled that covers the first
  obtain ⟨deleting, early, request, sent, deleted⟩ := exists_deletes_of_covers service state options
    document distinct stocked wet split declaredSecond covers
  obtain ⟨start, rest, parts⟩ := List.append_of_mem early
  obtain ⟨sentBefore, sentAfter, requests⟩ := List.append_of_mem sent
  have whole : (document.teardownVisits service state options []).flatMap Visit.requests =
      (start.flatMap Visit.requests ++ sentBefore) ++
        request :: (sentAfter ++ (rest ++ after).flatMap Visit.requests) := by
    rw [split, List.append_cons, parts]
    simp only [List.flatMap_append, List.flatMap_cons, requests, List.append_assoc,
      List.cons_append]
  obtain ⟨other, among, deletesFirst⟩ := ordered _ _ _ whole deleted
  obtain ⟨visit, visited, requested⟩ : ∃ visit ∈ before ++ [here], other ∈ visit.requests := by
    rw [parts]
    rcases List.mem_append.mp among with among | same
    · rcases List.mem_append.mp among with among | among
      · obtain ⟨visit, visited, requested⟩ := List.mem_flatMap.mp among
        exact ⟨visit, List.mem_append_left _ visited, requested⟩
      · refine ⟨deleting, List.mem_append_cons_self, ?_⟩
        rw [requests]
        exact List.mem_append_left _ among
    · obtain rfl := List.mem_singleton.mp same
      exact ⟨deleting, List.mem_append_cons_self, sent⟩
  have member : visit ∈ document.teardownVisits service state options [] := by
    rw [split, List.append_cons]
    exact List.mem_append_left _ visited
  refine apart visit.resource ?_ ((stocked visit member).covers
    (mem_resources service state options [] document member) distinct
    (done_of_mem service state options [] document passes member) requested declaredFirst
    deletesFirst).2.1
  rcases List.mem_append.mp visited with early | same
  · refine List.mem_cons_of_mem _ (List.mem_reverse.mp ?_)
    rw [← handled]
    exact List.mem_map_of_mem early
  · rw [List.mem_singleton.mp same]
    exact List.mem_cons_self

end Visits

end Teardown

/-- **Only a kind that is swept overtakes what refers to it**, if references point back. -/
theorem Document.isSwept_of_overtakes {source : String} {raw : Json} {document : Document}
    {warnings : List String}
    (accepted : (Document.validate source raw).value = .ok ⟨document, warnings⟩)
    (backward : ∀ index resource reference,
      Document.forwardReference index resource reference ∉ warnings)
    {resource referenced : Resource} (declared : resource ∈ document.resources)
    (refers : Json.References (.object resource.properties) referenced.reference)
    (overtakes : document.Overtakes referenced resource) : referenced.kind.isSwept = true := by
  obtain ⟨before, last, after, split, covers, apart⟩ := overtakes
  rcases covers with rfl | ⟨sweeps, _⟩
  · rw [split, List.mem_append] at declared
    rcases declared with early | late
    · -- otherwise two resources would be declared under the reference
      obtain ⟨front, back, rfl⟩ := List.append_of_mem early
      rw [List.append_assoc, List.cons_append] at split
      obtain ⟨earlier, among, same⟩ :=
        Document.exists_before_of_validate accepted backward split refers
      have distinct : document.references.Nodup := by
        cases Document.denotes_of_validate_eq_ok accepted with
        | mapping declares => exact declares.distinct
      rw [Document.references, split, List.map_append] at distinct
      refine absurd same ((List.nodup_append.mp distinct).2.2 _ (List.mem_map_of_mem among) _
        (List.mem_map_of_mem ?_))
      exact List.mem_cons_of_mem _ List.mem_append_cons_self
    · exact absurd (Or.inl rfl) (apart resource late)
  · exact sweeps

/-! ### Runs -/

section Run

open Dialogue Teardown

/-- **Teardown and references.** Let a document be accepted without a forward reference, and let the
service have every resource under an identifier of its own. Where a resource refers to another one
of a kind that is deleted by name, it is deleted first. Where the kind is swept, it is deleted first
unless it is overtaken: if a resource of the swept kind is declared after it, and after all of its
own kind if that is swept too, then the sweep comes first. -/
theorem teardown_protects {σ : Type} (service : Service σ) (state : σ) (options : RunOptions)
    (occasion : Occasion) (document : Document) (source : String) (raw : Json)
    (warnings : List String) (id : Resource → String)
    (accepted : (Document.validate source raw).value = .ok ⟨document, warnings⟩)
    (backward : ∀ index resource reference,
      Document.forwardReference index resource reference ∉ warnings)
    (distinct : ∀ one ∈ document.resources, ∀ other ∈ document.resources, id one = id other →
      one = other)
    (stocked : ∀ here ∈ document.teardownVisits service state options [],
      Stocked (options.scope document) document id here) :
    let run := converse service state (document.teardown options occasion [])
    let requests := run.exchanges.map Prod.fst
    ∀ resource ∈ document.resources, ∀ referenced ∈ document.resources,
      Json.References (.object resource.properties) referenced.reference →
        (referenced.kind.isSwept = false →
          DeletesFirst requests (id resource) (id referenced)) ∧
        (¬ document.Overtakes referenced resource →
          DeletesFirst requests (id resource) (id referenced)) ∧
        (options.dryRun = false → document.Overtakes referenced resource →
          ¬ DeletesFirst requests (id resource) (id referenced)) := by
  rw [converse_teardown]
  dsimp only
  rw [List.map_flatMap]
  intro resource declared referenced also refers
  have guards : ¬ document.Overtakes referenced resource →
      DeletesFirst ((document.teardownVisits service state options []).flatMap Visit.requests)
        (id resource) (id referenced) :=
    deletesFirst_of_not_overtakes service state options document distinct stocked declared also
  refine ⟨fun named => guards fun overtakes => ?_, guards, fun wet overtakes => ?_⟩
  · have sweeps := Document.isSwept_of_overtakes accepted backward declared refers overtakes
    rw [named] at sweeps
    cases sweeps
  · exact not_deletesFirst_of_overtakes service state options document distinct stocked wet declared
      also overtakes

/-- A file that the location refers to. -/
def firstFile : Resource := ⟨.file, "a.csv", [], "a", []⟩

/-- A location that refers to the first file. -/
def filedLab : Resource := ⟨.location, "Lab", [("file", .string "${a}")], "lab", []⟩

/-- A file that nothing refers to. -/
def secondFile : Resource := ⟨.file, "b.csv", [], "b", []⟩

/-- A system that refers to the location. -/
def labBench : Resource := ⟨.system, "Bench", [("location", .string "${lab}")], "bench", []⟩

/-- A location that refers to a file, and a system that refers to the location. -/
def attached : Document where
  formatVersion := "1.0"
  name := "attached"
  title := "Attached"
  description := none
  author := none
  tags := []
  setupMinutes := none
  resources := [firstFile, filedLab, secondFile, labBench]

/-- The identifiers under which the service has them. -/
def attachedId (resource : Resource) : String :=
  match resource.kind with
  | .location => "loc-1"
  | .system => "sys-1"
  | _ => "f-" ++ resource.reference

theorem attachedId_distinct : ∀ one ∈ attached.resources, ∀ other ∈ attached.resources,
    attachedId one = attachedId other → one = other := by
  decide

/-- What the service says of the two files. -/
def fileEntries : Json :=
  .object [("availableFiles",
    .array [.object [("id", .string "f-a")], .object [("id", .string "f-b")]])]

/-- A service that has two files, a location and a system. -/
def archive : Service Unit := fun request _ =>
  (.ok (if request.path = "/nifile/v1/service-groups/Default/query-files-linq" then fileEntries
    else workshopEntries), ())

theorem archive_stocked : ∀ here ∈ attached.teardownVisits archive () thoroughly [],
    Stocked (thoroughly.scope attached) attached attachedId here := by
  intro here member
  have replied : ∀ exchange ∈ here.exchanges, exchange.2 = (archive exchange.1 ()).1 := by
    intro exchange among
    obtain ⟨_, same⟩ := (Walk.served_of_mem archive _ _ _ member).exists_of_mem among
    exact same
  have declared := mem_resources archive () thoroughly [] attached member
  refine ⟨fun named reply asked => ?_, fun sweeps reply asked => ?_,
    fun deletion reply among _ => ?_⟩
  · have only : ∀ resource ∈ attached.resources, resource.kind.isSwept = false →
        resource = filedLab ∨ resource = labBench := by decide
    have answered := replied _ asked
    rcases only _ declared named with same | same
    · rw [same] at answered ⊢
      exact ⟨workshopEntries, answered, (Scope.head?_matchesIn_eq_some_iff _).mp rfl⟩
    · rw [same] at answered ⊢
      exact ⟨workshopEntries, answered, (Scope.head?_matchesIn_eq_some_iff _).mp rfl⟩
  · have only : ∀ resource ∈ attached.resources, resource.kind.isSwept = true →
        resource.kind = .file := by decide
    have answered := replied _ asked
    unfold query at answered
    rw [only _ declared sweeps] at answered ⊢
    refine ⟨fileEntries, answered, fun given => ?_⟩
    show given ∈ ["f-a", "f-b"] ↔ _
    have all : ∀ other ∈ attached.resources, other.kind = .file →
        attachedId other ∈ ["f-a", "f-b"] := by decide
    constructor
    · intro listed
      rcases List.mem_pair.mp listed with rfl | rfl
      · exact ⟨firstFile, by decide, rfl, rfl⟩
      · exact ⟨secondFile, by decide, rfl, rfl⟩
    · rintro ⟨other, among, kind, rfl⟩
      exact all other among kind
  · have keys : ∀ resource ∈ attached.resources, ∀ failed ∈ Scope.failedKey? resource.kind,
        failed = "failed" ∨ failed = "failedIds" := by decide
    refine ⟨_, replied _ among, fun failed listed => ?_⟩
    rcases keys _ declared failed listed with rfl | rfl
    · split
      · rfl
      · rfl
    · split
      · rfl
      · rfl

/-- The sweep of the files overtakes the location that refers to one of them. -/
theorem attached_overtakes : attached.Overtakes firstFile filedLab := by
  refine ⟨[firstFile, filedLab], secondFile, [labBench], rfl, Or.inr ⟨rfl, rfl⟩, ?_⟩
  have apart : ∀ later ∈ [secondFile, labBench], later ≠ filedLab := by decide
  intro later among covers
  rcases covers with same | ⟨swept, _⟩
  · exact apart later among same
  · cases swept

/-- The system is deleted before the location that it refers to. The location is not deleted before
the file that it refers to. -/
theorem teardown_protects_attached :
    let requests :=
      (converse archive () (attached.teardown thoroughly .epoch [])).exchanges.map Prod.fst
    (Document.validate "attached" attached.json).value = .ok ⟨attached, []⟩ ∧
      (∀ here ∈ attached.teardownVisits archive () thoroughly [],
        Stocked (thoroughly.scope attached) attached attachedId here) ∧
      Json.References (.object labBench.properties) filedLab.reference ∧
      DeletesFirst requests (attachedId labBench) (attachedId filedLab) ∧
      Json.References (.object filedLab.properties) firstFile.reference ∧
      attached.Overtakes firstFile filedLab ∧
      ¬ DeletesFirst requests (attachedId filedLab) (attachedId firstFile) := by
  intro requests
  have accepted : (Document.validate "attached" attached.json).value = .ok ⟨attached, []⟩ := rfl
  have lab : Json.References (.object labBench.properties) filedLab.reference :=
    Json.mem_placeholders_iff.mp (by decide)
  have file : Json.References (.object filedLab.properties) firstFile.reference :=
    Json.mem_placeholders_iff.mp (by decide)
  have ordered := teardown_protects archive () thoroughly .epoch attached "attached" attached.json
    [] attachedId accepted (fun _ _ _ => List.not_mem_nil) attachedId_distinct archive_stocked
  obtain ⟨first, _⟩ := ordered labBench (by decide) filedLab (by decide) lab
  obtain ⟨_, _, overtaken⟩ := ordered filedLab (by decide) firstFile (by decide) file
  exact ⟨accepted, archive_stocked, lab, first rfl, file, attached_overtakes,
    overtaken rfl attached_overtakes⟩

/-- Not every reference is protected, although all is as it should be: the files are swept before
the location that refers to one of them. -/
theorem not_deletesFirst_attached :
    (Document.validate "attached" attached.json).value = .ok ⟨attached, []⟩ ∧
      (∀ one ∈ attached.resources, ∀ other ∈ attached.resources,
        attachedId one = attachedId other → one = other) ∧
      (∀ here ∈ attached.teardownVisits archive () thoroughly [],
        Stocked (thoroughly.scope attached) attached attachedId here) ∧
      ¬ ∀ resource ∈ attached.resources, ∀ referenced ∈ attached.resources,
        Json.References (.object resource.properties) referenced.reference →
          DeletesFirst ((converse archive () (attached.teardown thoroughly .epoch [])).exchanges.map
            Prod.fst) (attachedId resource) (attachedId referenced) := by
  refine ⟨rfl, attachedId_distinct, archive_stocked, fun all => ?_⟩
  have lab : filedLab ∈ attached.resources := by decide
  have file : firstFile ∈ attached.resources := by decide
  have ordered := all _ lab _ file (Json.mem_placeholders_iff.mp (by decide))
  rw [converse_teardown, List.map_flatMap] at ordered
  exact not_deletesFirst_of_overtakes archive () thoroughly attached attachedId_distinct
    archive_stocked rfl lab file attached_overtakes ordered

end Run

end ResourceGraph
