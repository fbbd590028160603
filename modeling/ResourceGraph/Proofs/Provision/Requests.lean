/-
**What provisioning sends.**

For each resource in declared order, a run sends nothing, or a look-up, or a look-up and then a
creation. It sends nothing exactly if the run is dry or an unresolved reference is not allowed, and
it creates exactly if the look-up found nothing or its failure counts as such.

* `Provision.Justified`: what a visit sends, and when;
* `visit_justified`: every visit is justified;
* `requests_of_matched`: a run that finds every resource only looks up.
-/

import ResourceGraph.Proofs.Provision.Identifiers
import ResourceGraph.Proofs.Service.Deletion

namespace ResourceGraph

namespace Provision

open Dialogue

/-! ### When a resource is held back -/

theorem mem_unresolvedReferences_iff {properties : Fields} {reference : String} :
    reference ∈ unresolvedReferences properties ↔
      Json.References (.object properties) reference := by
  have each : ∀ named ∈ properties.flatMap fun field => field.2.placeholders, ∀ found,
      reference ∈ Json.addReference found named ↔ reference ∈ found ∨ reference = named :=
    fun named _ found => Json.mem_addReference
  rw [unresolvedReferences, Json.mem_foldl each, Json.references_object_iff]
  simp only [List.not_mem_nil, false_or, exists_eq_right', List.mem_flatMap,
    Json.mem_placeholders_iff]

/-- **A resource is held back** if a placeholder is left where none is allowed. -/
theorem heldBack_iff {options : RunOptions} {ids : Identifiers} {resource : Resource} :
    HeldBack options ids resource ↔ options.strictReferences = true ∧
      ∃ reference, Json.References (.object (resolved ids resource)) reference := by
  unfold HeldBack
  rw [ne_eq, List.eq_nil_iff_forall_not_mem, not_forall_not]
  simp only [mem_unresolvedReferences_iff]

/-! ### What a course sends -/

section Course

variable {options : RunOptions} {scope : Scope} {ids : Identifiers} {resource : Resource}
  {exchanges rest : List Exchange} {outcome : Except Failure ResourceResult}

/-- **Nothing is sent** exactly if the run is dry or the resource is held back. -/
theorem Course.eq_nil_iff (course : Course options scope ids resource exchanges outcome) :
    exchanges = [] ↔ options.dryRun = true ∨ HeldBack options ids resource := by
  have asked (asks : Asks options ids resource) :
      ¬ (options.dryRun = true ∨ HeldBack options ids resource) := by
    rintro (dry | held)
    · rw [asks.1] at dry
      cases dry
    · exact asks.2 held
  cases course with
  | heldBack held => exact ⟨fun _ => Or.inr held, fun _ => rfl⟩
  | dryRun free dry => exact ⟨fun _ => Or.inl dry, fun _ => rfl⟩
  | «exists» asks finds => exact iff_of_false (List.cons_ne_nil _ _) (asked asks)
  | lookupFatal asks fatal => exact iff_of_false (List.cons_ne_nil _ _) (asked asks)
  | lookupFailed asks passing policy => exact iff_of_false (List.cons_ne_nil _ _) (asked asks)
  | creates asks missing => exact iff_of_false (List.cons_ne_nil _ _) (asked asks)

/-- **The resource is created** exactly if the look-up lets it be. -/
theorem Course.ne_nil_iff {found : Reply}
    (course : Course options scope ids resource exchanges outcome)
    (sent : exchanges = (lookup scope resource, found) :: rest) :
    rest ≠ [] ↔ LooksMissing options scope resource found := by
  cases course with
  | heldBack held => cases sent
  | dryRun free dry => cases sent
  | «exists» asks finds =>
    cases sent
    exact iff_of_false (fun none => none rfl) finds.not_findsNothing
  | lookupFatal asks fatal =>
    cases sent
    refine iff_of_false (fun none => none rfl) fun missing => ?_
    rw [missing.1] at fatal
    cases fatal
  | lookupFailed asks passing policy =>
    cases sent
    refine iff_of_false (fun none => none rfl) fun missing => ?_
    rw [missing.2] at policy
    cases policy
  | creates asks missing =>
    cases sent
    exact iff_of_true (List.cons_ne_nil _ _) missing

/-- **A resource that is found is skipped.** -/
theorem Course.eq_skipped {found : Json} {id : String}
    (course : Course options scope ids resource exchanges outcome)
    (sent : exchanges = (lookup scope resource, .ok found) :: rest)
    (finds : scope.Finds resource.kind found id) :
    rest = [] ∧ outcome = .ok (.skipped resource (some id) "already exists") := by
  cases course with
  | heldBack held => cases sent
  | dryRun free dry => cases sent
  | «exists» asks also =>
    cases sent
    rw [also.unique finds]
    exact ⟨rfl, rfl⟩
  | lookupFatal asks fatal => cases sent
  | lookupFailed asks passing policy => cases sent
  | creates asks missing =>
    cases sent
    exact absurd missing finds.not_findsNothing

/-- **A look-up that finds the resource is all that is sent.** -/
theorem Course.of_finds (course : Course options scope ids resource exchanges outcome)
    (matched : ∀ found, (lookup scope resource, found) ∈ exchanges →
      ∃ value id, found = .ok value ∧ scope.Finds resource.kind value id) :
    (exchanges.map Prod.fst = [] ∨ exchanges.map Prod.fst = [lookup scope resource]) ∧
      ∃ result, outcome = .ok result ∧ (exchanges ≠ [] → result.action = .skipped) := by
  cases course with
  | heldBack held => exact ⟨Or.inl rfl, _, rfl, fun sent => absurd rfl sent⟩
  | dryRun free dry => exact ⟨Or.inl rfl, _, rfl, fun _ => rfl⟩
  | «exists» asks finds => exact ⟨Or.inr rfl, _, rfl, fun _ => rfl⟩
  | lookupFatal asks fatal =>
    obtain ⟨value, id, same, _⟩ := matched _ List.mem_cons_self
    cases same
  | lookupFailed asks passing policy =>
    obtain ⟨value, id, same, _⟩ := matched _ List.mem_cons_self
    cases same
  | creates asks missing =>
    obtain ⟨value, id, rfl, finds⟩ := matched _ List.mem_cons_self
    exact absurd missing finds.not_findsNothing

end Course

/-! ### What a visit sends -/

/-- **What a visit sends is justified.** -/
structure Justified {σ : Type} (options : RunOptions) (scope : Scope)
    (here : Visit σ Identifiers) : Prop where
  /-- Nothing, the look-up of the resource, or the look-up and then one creation. -/
  shape : here.requests = [] ∨ here.requests = [lookup scope here.resource] ∨
    here.requests = [lookup scope here.resource, creation scope here.known here.resource]
  /-- Nothing if the run is dry or a placeholder is left where none is allowed, and only then. -/
  silent : here.exchanges = [] ↔ options.dryRun = true ∨
    options.strictReferences = true ∧
      ∃ reference, Json.References (.object (resolved here.known here.resource)) reference
  /-- The creation if the look-up found nothing usable, or failed where that counts as such. -/
  creates : ∀ found rest, here.exchanges = (lookup scope here.resource, found) :: rest →
    (rest ≠ [] ↔
      (∃ value, found = .ok value ∧ scope.FindsNothing here.resource.kind value) ∨
        ∃ failure, found = .error failure ∧ ¬ failure.EndsRun ∧
          options.lookupPolicy = .treatAsMissing)
  /-- A usable identifier is that of a resource which is there already. -/
  existing : ∀ value rest id,
    here.exchanges = (lookup scope here.resource, .ok value) :: rest →
      scope.Finds here.resource.kind value id →
        rest = [] ∧ here.recorded = .skipped here.resource (some id) "already exists"

theorem looksMissing_iff {options : RunOptions} {scope : Scope} {resource : Resource}
    {found : Reply} : LooksMissing options scope resource found ↔
      (∃ value, found = .ok value ∧ scope.FindsNothing resource.kind value) ∨
        ∃ failure, found = .error failure ∧ ¬ failure.EndsRun ∧
          options.lookupPolicy = .treatAsMissing := by
  cases found with
  | ok value => simp [LooksMissing]
  | error failure => simp [LooksMissing, ← Failure.isFatal_iff_endsRun]

section Visits

variable {σ : Type} (service : Service σ) (state : σ) (options : RunOptions) (document : Document)
  {here : Visit σ Identifiers}

/-- **What every visit sends is justified.** -/
theorem visit_justified (member : here ∈ document.provisionVisits service state options) :
    Justified options (options.scope document) here := by
  obtain ⟨outcome, course, same⟩ := visit_course service state options _ member
  refine ⟨course.requests, ?_, ?_, ?_⟩
  · rw [course.eq_nil_iff, heldBack_iff]
  · intro found rest sent
    rw [course.ne_nil_iff sent, looksMissing_iff]
  · intro value rest id sent finds
    obtain ⟨none, rfl⟩ := course.eq_skipped sent finds
    exact ⟨none, recorded_of_reached same⟩

theorem length_requests_le (member : here ∈ document.provisionVisits service state options) :
    here.requests.length ≤ 2 := by
  rcases (visit_justified service state options document member).shape with none | one | both
  · rw [none]
    exact Nat.zero_le 2
  · rw [one]
    exact Nat.le_succ 1
  · rw [both]
    exact Nat.le_refl 2

/-- A run sends two requests for a resource at most. -/
theorem length_exchanges_le :
    ((document.provisionVisits service state options).flatMap Visit.exchanges).length ≤
      2 * document.resources.length := by
  have visited : (document.provisionVisits service state options).length ≤
      document.resources.length := by
    rw [← List.length_map Visit.resource]
    exact (Walk.visits_resources_prefix service _ _ _ document.resources).length_le
  have bounded := fun here => @length_requests_le σ service state options document here
  -- for any list, since the rest of a run is not a run of the document
  have sum : ∀ visits : List (Visit σ Identifiers), (∀ here ∈ visits, here.requests.length ≤ 2) →
      (visits.flatMap Visit.exchanges).length ≤ 2 * visits.length := by
    intro visits
    induction visits with
    | nil => exact fun _ => Nat.le_refl 0
    | cons here rest ih =>
      intro each
      obtain ⟨first, later⟩ := List.forall_mem_cons.mp each
      have restBound := ih later
      rw [Visit.requests, List.length_map] at first
      rw [List.flatMap_cons, List.length_append, List.length_cons]
      omega
  have total := sum _ bounded
  omega

theorem not_isDeletion_of_isFor {scope : Scope} {resource : Resource} {request : Request}
    (sent : IsFor scope resource request) : ¬ request.IsDeletion := by
  rcases sent with rfl | ⟨properties, rfl⟩
  · exact Scope.not_isDeletion_query _ _ _
  · exact scope.not_isDeletion_create _ _ _

/-- Every look-up of the run finds its resource. -/
def Matched (scope : Scope) (visited : List (Visit σ Identifiers)) : Prop :=
  ∀ here ∈ visited, ∀ found, (lookup scope here.resource, found) ∈ here.exchanges →
    ∃ value id, found = .ok value ∧ scope.Finds here.resource.kind value id

/-- **Where every look-up finds its resource**, a visit sends no more, and it ends no walk. -/
theorem visit_of_matched
    (matched : Matched (options.scope document) (document.provisionVisits service state options))
    (member : here ∈ document.provisionVisits service state options) :
    (here.requests = [] ∨ here.requests = [lookup (options.scope document) here.resource]) ∧
      here.cause? = none ∧ (here.exchanges ≠ [] → here.recorded.action = .skipped) := by
  obtain ⟨outcome, course, same⟩ := visit_course service state options _ member
  obtain ⟨shape, result, rfl, skipped⟩ := course.of_finds (matched here member)
  refine ⟨shape, cause?_of_reached_ok same, ?_⟩
  rwa [recorded_of_reached same]

theorem resources_of_matched
    (matched : Matched (options.scope document) (document.provisionVisits service state options)) :
    (document.provisionVisits service state options).map Visit.resource = document.resources := by
  refine Walk.map_resource_visits service _ _ _ fun here member => ?_
  obtain ⟨_, goesOn, _⟩ := visit_of_matched service state options document matched member
  exact goesOn

/-- A run that asks about every resource asks once. -/
theorem requests_of_matched
    (matched : Matched (options.scope document) (document.provisionVisits service state options))
    (wet : options.dryRun = false) (lenient : options.strictReferences = false)
    (member : here ∈ document.provisionVisits service state options) :
    here.requests = [lookup (options.scope document) here.resource] ∧
      here.recorded.action = .skipped := by
  obtain ⟨shape, _, skipped⟩ := visit_of_matched service state options document matched member
  have asks : here.exchanges ≠ [] := by
    rw [ne_eq, (visit_justified service state options document member).silent, wet, lenient]
    rintro (dry | ⟨strict, _⟩)
    · cases dry
    · cases strict
  refine ⟨shape.resolve_left fun none => asks (List.map_eq_nil_iff.mp none), skipped asks⟩

end Visits

end Provision

/-! ### Runs -/

section Run

open Dialogue

/-- **What provisioning sends.** The exchanges of a run are those of the visits, in declared order,
each with what the results before it published, and what every visit sends is justified. So a run
sends two requests for a resource at most and deletes nothing; and where every look-up finds its
resource, look-ups are all that is sent. -/
theorem provision_requests {σ : Type} (service : Service σ) (state : σ) (options : RunOptions)
    (occasion : Occasion) (document : Document) :
    let run := converse service state (document.provision options occasion)
    let visited := document.provisionVisits service state options
    let scope := options.scope document
    run.exchanges = visited.flatMap Visit.exchanges ∧
      run.result.report.results = visited.map Visit.recorded ∧
      visited.map Visit.resource <+: document.resources ∧
      (∀ before here after, visited = before ++ here :: after →
        here.known = Provision.known (before.map Visit.recorded)) ∧
      (∀ here ∈ visited, Provision.Justified options scope here ∧ here.requests.length ≤ 2) ∧
      (∀ resource : Resource, Provision.lookup scope resource =
        .post resource.kind.endpoint.queryPath (.object
          [("filter", .string (Filter.text (resource.kind.endpoint.nameClause resource.name ::
            resource.kind.endpoint.tagClause (document.cleanupTag options.tool) ::
            Filter.inWorkspace options.workspace))),
          ("take", Json.ofNat resource.kind.endpoint.matchLimit)])) ∧
      (∀ ids resource, (Provision.creation scope ids resource).method = .post ∧
        (Provision.creation scope ids resource).path = resource.kind.endpoint.createPath) ∧
      run.exchanges.length ≤ 2 * document.resources.length ∧
      (∀ exchange ∈ run.exchanges, ¬ exchange.1.IsDeletion) ∧
      (Provision.Matched scope visited →
        visited.map Visit.resource = document.resources ∧
        (∀ here ∈ visited, here.requests = [] ∨
          here.requests = [Provision.lookup scope here.resource]) ∧
        (options.dryRun = false → options.strictReferences = false →
          run.exchanges.map Prod.fst = document.resources.map (Provision.lookup scope) ∧
          ∀ result ∈ run.result.report.results, result.action = .skipped)) := by
  rw [converse_provision]
  dsimp only
  rw [RunOutcome.report_ofWalk]
  refine ⟨rfl, rfl, Walk.visits_resources_prefix service _ _ _ document.resources,
    fun before here after split => Provision.known_eq service state options document split,
    fun here member => ⟨Provision.visit_justified service state options document member,
      Provision.length_requests_le service state options document member⟩,
    fun resource => rfl, fun ids resource => ⟨rfl, rfl⟩,
    Provision.length_exchanges_le service state options document, ?_, ?_⟩
  · intro exchange sent
    obtain ⟨here, member, exchanged⟩ := List.mem_flatMap.mp sent
    exact Provision.not_isDeletion_of_isFor (Provision.visit_isFor service state options document
      member exchange.1 (List.mem_map_of_mem exchanged))
  · intro matched
    have all := Provision.resources_of_matched service state options document matched
    refine ⟨all, fun here member =>
      (Provision.visit_of_matched service state options document matched member).1, ?_⟩
    intro wet lenient
    have asked := fun here (member : here ∈ document.provisionVisits service state options) =>
      Provision.requests_of_matched service state options document matched wet lenient member
    refine ⟨?_, ?_⟩
    · rw [← all, List.map_flatMap, List.map_map, List.map_eq_flatMap]
      exact List.flatMap_congr fun here member => (asked here member).1
    · intro result recorded
      obtain ⟨here, member, rfl⟩ := List.mem_map.mp recorded
      exact (asked here member).2

/-- A service that has a location and a system. -/
def stocked : Service Unit := fun _ _ =>
  (.ok (.object [("data", .array [.object [("id", .string "sys-1")]]),
    ("locations", .array [.object [("id", .string "loc-1")]])]), ())

/-- A run that goes on with unresolved references. -/
def leniently : RunOptions := ⟨false, none, "seedbed", .fail, false⟩

/-- Where both resources are there already, two look-ups are sent. -/
theorem provision_requests_stocked :
    Provision.Matched (leniently.scope chained) (chained.provisionVisits stocked () leniently) ∧
      leniently.dryRun = false ∧ leniently.strictReferences = false ∧
      ((chained.provisionVisits stocked () leniently).flatMap Visit.exchanges).map Prod.fst =
        chained.resources.map (Provision.lookup (leniently.scope chained)) := by
  have matched :
      Provision.Matched (leniently.scope chained)
        (chained.provisionVisits stocked () leniently) := by
    refine List.forall_mem_cons.mpr ⟨?_, List.forall_mem_singleton.mpr ?_⟩
    · intro found sent
      obtain rfl := congrArg Prod.snd (List.mem_singleton.mp sent)
      exact ⟨_, "loc-1", rfl, (Scope.head?_matchesIn_eq_some_iff _).mp rfl⟩
    · intro found sent
      obtain rfl := congrArg Prod.snd (List.mem_singleton.mp sent)
      exact ⟨_, "sys-1", rfl, (Scope.head?_matchesIn_eq_some_iff _).mp rfl⟩
  obtain ⟨exchanges, _, _, _, _, _, _, _, _, all⟩ :=
    provision_requests stocked () leniently .epoch chained
  refine ⟨matched, rfl, rfl, ?_⟩
  rw [← exchanges]
  exact ((all matched).2.2 rfl rfl).1

end Run

end ResourceGraph
