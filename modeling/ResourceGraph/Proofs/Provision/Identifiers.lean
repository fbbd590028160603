/-
**What is known at each resource of a run.**

When a resource is handled, the results before it have published their identifiers. A created or
skipped resource publishes the identifier in its result, or a synthetic one; a failed one publishes
nothing. The placeholders of the resource at hand are replaced by what is known then.

* `published?`: the identifier that a result publishes;
* `get?_known_eq_some_iff`: what is known after some results;
* `known_eq`: what is known at a visit is what the results before it published;
* `visit_creates`: what a visit hands over to be created;
* `not_references_of_creates`: when no placeholder is left in it.
-/

import Mathlib.Data.List.Induction
import Mathlib.Data.List.Nodup
import ResourceGraph.Proofs.Document.Findings
import ResourceGraph.Proofs.Provision.Report

namespace ResourceGraph

namespace Identifiers

theorem get?_publish (ids : Identifiers) (reference id other : String) :
    (ids.publish reference id).get? other =
      if reference = other then some id else ids.get? other := by
  unfold get? publish
  rw [List.find?_cons]
  by_cases same : reference = other
  · rw [if_pos same, beq_iff_eq.mpr same]
    rfl
  · rw [if_neg same, beq_eq_false_iff_ne.mpr same]

theorem not_names_synthetic (reference other : String) :
    ¬ Placeholder.Names (synthetic reference) other := by
  intro named
  have same := congrArg String.toList named.form
  simp [synthetic] at same

end Identifiers

namespace Provision

/-! ### What results publish -/

/-- The identifier that a result publishes. -/
def published? (result : ResourceResult) : Option String :=
  match result.action with
  | .created => result.serverId
  | .skipped => some (result.serverId.getD (Identifiers.synthetic result.reference))
  | _ => none

theorem get?_publish (ids : Identifiers) (result : ResourceResult) (reference : String) :
    (publish ids result).get? reference =
      if result.reference = reference then (published? result).or (ids.get? reference)
      else ids.get? reference := by
  unfold publish published?
  rcases result with ⟨declared, kind, name, action, serverId, error, note⟩
  cases action <;> cases serverId <;>
    simp only [Identifiers.get?_publish, Identifiers.publishSynthetic, Option.getD_some,
      Option.getD_none, Option.some_or, Option.none_or, ite_self]

/-- A well-formed result publishes its identifier, or a synthetic one. -/
theorem published?_eq_some_iff {result : ResourceResult} (wellFormed : result.WellFormed)
    {id : String} :
    published? result = some id ↔ (result.action = .created ∨ result.action = .skipped) ∧
      id = result.serverId.getD (Identifiers.synthetic result.reference) := by
  unfold published?
  unfold ResourceResult.WellFormed at wellFormed
  cases action : result.action with
  | created =>
    rw [action] at wellFormed
    obtain ⟨⟨given, found, _⟩, _⟩ := wellFormed
    simp only [found, Option.getD_some, Option.some.injEq, true_or, true_and, eq_comm]
  | skipped => simp only [Option.some.injEq, or_true, true_and, eq_comm]
  | failed => simp only [reduceCtorEq, or_self, false_and]
  | deleted => simp only [reduceCtorEq, or_self, false_and]

/-- What some results published, one after the other. -/
def known (results : List ResourceResult) : Identifiers :=
  results.foldl publish .empty

theorem known_append_singleton (results : List ResourceResult) (result : ResourceResult) :
    known (results ++ [result]) = publish (known results) result :=
  List.foldl_append

theorem exists_of_get?_known {results : List ResourceResult} {reference id : String}
    (found : (known results).get? reference = some id) :
    ∃ result ∈ results, result.reference = reference ∧ published? result = some id := by
  induction results using List.reverseRecOn with
  | nil => cases found
  | append_singleton results last ih =>
    rw [known_append_singleton, get?_publish] at found
    have earlier : (known results).get? reference = some id →
        ∃ result ∈ results ++ [last], result.reference = reference ∧
          published? result = some id := by
      intro before
      obtain ⟨result, member, published⟩ := ih before
      exact ⟨result, List.mem_append_left _ member, published⟩
    by_cases same : last.reference = reference
    · rw [if_pos same] at found
      rcases Option.or_eq_some_iff.mp found with here | ⟨_, before⟩
      · exact ⟨last, List.mem_append_right _ (List.mem_singleton_self _), same, here⟩
      · exact earlier before
    · rw [if_neg same] at found
      exact earlier found

theorem get?_known_ne_none {results : List ResourceResult} {result : ResourceResult}
    (member : result ∈ results) (published : published? result ≠ none) :
    (known results).get? result.reference ≠ none := by
  induction results using List.reverseRecOn with
  | nil => cases member
  | append_singleton results last ih =>
    rw [known_append_singleton, get?_publish]
    rcases List.mem_append.mp member with before | final
    · split
      · rw [ne_eq, Option.or_eq_none_iff]
        exact fun none => ih before none.2
      · exact ih before
    · obtain rfl := List.mem_singleton.mp final
      rw [if_pos rfl, ne_eq, Option.or_eq_none_iff]
      exact fun none => published none.1

/-- **What is known is what was published**, when no two results are about the same reference. -/
theorem get?_known_eq_some_iff {results : List ResourceResult}
    (distinct : (results.map ResourceResult.reference).Nodup) {reference id : String} :
    (known results).get? reference = some id ↔
      ∃ result ∈ results, result.reference = reference ∧ published? result = some id := by
  constructor
  · exact exists_of_get?_known
  · rintro ⟨result, member, rfl, published⟩
    -- something is known; what published it has the same reference, and so is the same result
    have some : (known results).get? result.reference ≠ none :=
      get?_known_ne_none member (by rw [published]; exact Option.some_ne_none id)
    obtain ⟨other, found⟩ := Option.ne_none_iff_exists'.mp some
    obtain ⟨also, among, same, also_published⟩ := exists_of_get?_known found
    obtain rfl := List.inj_on_of_nodup_map distinct among member same
    rw [found, ← also_published, published]

/-! ### What is known at a visit -/

/-- The visit creates the resource from the properties: those declared, with the placeholders
replaced that are known then. -/
structure Creates {σ : Type} (scope : Scope) (here : Visit σ Identifiers) (properties : Fields) :
    Prop where
  sent : here.requests = [lookup scope here.resource,
    scope.createRequest here.resource.kind.endpoint here.resource.name properties]
  substituted : Json.Substituted here.known.get? (.object here.resource.properties)
    (.object properties)

section Visits

variable {σ : Type} (service : Service σ) (state : σ) (options : RunOptions) (document : Document)
  {before after : List (Visit σ Identifiers)} {here : Visit σ Identifiers}

/-- A visit that does not end the walk publishes its result. -/
theorem knownAfter_eq_publish (member : here ∈ document.provisionVisits service state options)
    (goesOn : here.cause? = none) : here.knownAfter = publish here.known here.recorded := by
  obtain ⟨outcome, _, same⟩ := visit_course service state options _ member
  cases outcome with
  | ok result =>
    rw [Visit.knownAfter, Visit.recorded, same]
    rfl
  | error cause =>
    rw [cause?_of_reached_error same] at goesOn
    cases goesOn

/-- **What is known at a visit is what the results before it published.** -/
theorem known_eq (split : document.provisionVisits service state options =
    before ++ here :: after) : here.known = known (before.map Visit.recorded) := by
  -- from the right: the visit before this one published onto what it knew itself
  induction before using List.reverseRecOn generalizing here after with
  | nil =>
    obtain ⟨_, _, _, same, _⟩ := Walk.exists_of_visits_eq_append service _ _ _ split
    exact same
  | append_singleton before last ih =>
    obtain ⟨_, _, goneOn, same, _⟩ := Walk.exists_of_visits_eq_append service _ _ _ split
    have member : last ∈ document.provisionVisits service state options := by
      rw [split]
      simp only [List.mem_append, List.mem_singleton, or_true, true_or]
    have goesOn := goneOn last (List.mem_append_right _ (List.mem_singleton_self _))
    rw [List.append_assoc] at split
    rw [same, Walk.knownAfter, List.foldl_append, List.foldl_cons, List.foldl_nil,
      knownAfter_eq_publish service state options document member goesOn, ih split, List.map_append,
      List.map_singleton, known_append_singleton]

/-- **What a visit sends**: nothing, the look-up, or the look-up and the creation. -/
theorem visit_creates (member : here ∈ document.provisionVisits service state options) :
    here.requests = [] ∨ here.requests = [lookup (options.scope document) here.resource] ∨
      ∃ properties, Creates (options.scope document) here properties := by
  obtain ⟨outcome, course, _⟩ := visit_course service state options _ member
  rcases course.requests with none | one | both
  · exact Or.inl none
  · exact Or.inr (Or.inl one)
  · refine Or.inr (Or.inr ⟨resolved here.known here.resource, both, ?_⟩)
    exact Json.substituted_resolve here.known (.object here.resource.properties)

/-- **All placeholders are replaced** at a resource whose references point back, to resources that
did not fail and have no placeholder for an identifier. -/
theorem not_references_of_creates (split : document.provisionVisits service state options =
      before ++ here :: after)
    (backward : ∀ reference, Json.References (.object here.resource.properties) reference →
      ∃ earlier ∈ before.map Visit.resource, earlier.reference = reference)
    (succeeded : ∀ earlier ∈ before, earlier.recorded.action ≠ .failed)
    (clean : ∀ earlier ∈ before, ∀ id, earlier.recorded.serverId = some id →
      ∀ reference, ¬ Placeholder.Names id reference)
    {properties : Fields} (creates : Creates (options.scope document) here properties)
    (reference : String) : ¬ Json.References (.object properties) reference := by
  have member : ∀ earlier ∈ before, earlier ∈ document.provisionVisits service state options := by
    intro earlier among
    rw [split]
    exact List.mem_append_left _ among
  refine creates.substituted.not_references ?_ ?_ reference
  · intro named references
    obtain ⟨_, among, rfl⟩ := backward named references
    obtain ⟨earlier, there, rfl⟩ := List.mem_map.mp among
    obtain ⟨sound, kept⟩ := visit_sound service state options document (member earlier there)
    rw [known_eq service state options document split, ← sound.records.reference]
    refine get?_known_ne_none (List.mem_map_of_mem there) ?_
    rw [Option.ne_none_iff_exists']
    refine ⟨_, (published?_eq_some_iff sound.wellFormed).mpr ⟨?_, rfl⟩⟩
    have passed := succeeded earlier there
    cases action : earlier.recorded.action with
    | created => exact Or.inl rfl
    | skipped => exact Or.inr rfl
    | failed => exact absurd action passed
    | deleted => exact absurd action kept
  · intro named id identifies other names
    rw [known_eq service state options document split] at identifies
    obtain ⟨_, among, _, published⟩ := exists_of_get?_known identifies
    obtain ⟨earlier, there, rfl⟩ := List.mem_map.mp among
    obtain ⟨sound, _⟩ := visit_sound service state options document (member earlier there)
    obtain ⟨_, rfl⟩ := (published?_eq_some_iff sound.wellFormed).mp published
    cases given : earlier.recorded.serverId with
    | none =>
      rw [given] at names
      exact Identifiers.not_names_synthetic _ _ names
    | some id =>
      rw [given] at names
      exact clean earlier there id given other names

/-- **What is known at a visit** are the earlier resources that were created or skipped. -/
theorem get?_known_iff (split : document.provisionVisits service state options =
      before ++ here :: after)
    (distinct : document.references.Nodup) (reference id : String) :
    here.known.get? reference = some id ↔
      ∃ earlier ∈ before, earlier.resource.reference = reference ∧
        (earlier.recorded.action = .created ∨ earlier.recorded.action = .skipped) ∧
        id = earlier.recorded.serverId.getD ("dry-run-" ++ reference) := by
  have sound : ∀ earlier ∈ before, earlier.Sound := by
    intro earlier among
    refine (visit_sound service state options document ?_).1
    rw [split]
    exact List.mem_append_left _ among
  have references : (before.map Visit.recorded).map ResourceResult.reference =
      (before.map Visit.resource).map Resource.reference := by
    simp only [List.map_map]
    exact List.map_congr_left fun earlier among => (sound earlier among).records.reference
  obtain ⟨rest, parts, _⟩ := Walk.exists_of_visits_eq_append service _ _ _ split
  rw [Document.references, parts, List.map_append] at distinct
  rw [known_eq service state options document split,
    get?_known_eq_some_iff (by rw [references]; exact distinct.of_append_left)]
  simp only [List.mem_map, exists_exists_and_eq_and]
  refine exists_congr fun earlier => and_congr_right fun among => ?_
  rw [published?_eq_some_iff (sound earlier among).wellFormed,
    (sound earlier among).records.reference]
  refine and_congr_right ?_
  rintro rfl
  rfl

end Visits

end Provision

/-! ### Runs -/

section Run

open Dialogue

/-- **References over a run.** The run is a sequence of visits. When a resource is handled, a
reference has an identifier exactly if it is that of an earlier resource which was created or
skipped; what the resource is created from are its properties with these identifiers for the
placeholders; and no placeholder is left in them if validation accepted the document without a
forward reference, nothing before failed, and no identifier is itself a placeholder. -/
theorem provision_substitutes {σ : Type} (service : Service σ) (state : σ) (options : RunOptions)
    (occasion : Occasion) (document : Document) :
    let run := converse service state (document.provision options occasion)
    let visited := document.provisionVisits service state options
    let scope := options.scope document
    run.result.report.results = visited.map Visit.recorded ∧
      run.exchanges = visited.flatMap Visit.exchanges ∧
      ∀ before here after, visited = before ++ here :: after →
        (∃ rest, document.resources = before.map Visit.resource ++ here.resource :: rest) ∧
        here = Walk.visit service (Provision.step options scope) here.known here.stateBefore
          here.resource ∧
        (document.references.Nodup → ∀ reference id,
          here.known.get? reference = some id ↔
            ∃ earlier ∈ before, earlier.resource.reference = reference ∧
              (earlier.recorded.action = .created ∨ earlier.recorded.action = .skipped) ∧
              id = earlier.recorded.serverId.getD ("dry-run-" ++ reference)) ∧
        (here.requests = [] ∨ here.requests = [Provision.lookup scope here.resource] ∨
          ∃ properties, Provision.Creates scope here properties) ∧
        ∀ source raw warnings,
          (Document.validate source raw).value = .ok ⟨document, warnings⟩ →
          (∀ index resource reference,
            Document.forwardReference index resource reference ∉ warnings) →
          (∀ earlier ∈ before, earlier.recorded.action ≠ .failed) →
          (∀ earlier ∈ before, ∀ id, earlier.recorded.serverId = some id →
            ∀ reference, ¬ Placeholder.Names id reference) →
          ∀ properties, Provision.Creates scope here properties →
            ∀ reference, ¬ Json.References (.object properties) reference := by
  rw [converse_provision]
  dsimp only
  rw [RunOutcome.report_ofWalk]
  refine ⟨rfl, rfl, fun before here after split => ?_⟩
  have member : here ∈ document.provisionVisits service state options := by
    rw [split]
    exact List.mem_append_right _ List.mem_cons_self
  obtain ⟨rest, parts, _⟩ := Walk.exists_of_visits_eq_append service _ _ _ split
  refine ⟨⟨rest, parts⟩, Walk.eq_visit_of_mem service _ _ _ member,
    Provision.get?_known_iff service state options document split,
    Provision.visit_creates service state options document member, ?_⟩
  intro source raw warnings accepted backward succeeded clean properties creates
  exact Provision.not_references_of_creates service state options document split
    (fun reference named => Document.exists_before_of_validate accepted backward parts named)
    succeeded clean creates

/-- A document with a system that refers to the location declared before it. -/
def chained : Document where
  formatVersion := "1.0"
  name := "chained"
  title := "Chained"
  description := none
  author := none
  tags := []
  setupMinutes := none
  resources := [⟨.location, "Lab", [], "lab", []⟩,
    ⟨.system, "Bench", [("location", .string "${lab}")], "bench", []⟩]

/-- A service that finds nothing and creates everything under the same identifiers. -/
def obliging : Service Unit := fun _ _ =>
  (.ok (.object [("id", .string "loc-1"), ("minionId", .string "sys-1")]), ())

/-- A run that holds back what has unresolved references. -/
def strictly : RunOptions := ⟨false, none, "seedbed", .fail, true⟩

/-- The visit of the location. -/
def labVisit : Visit Unit Identifiers :=
  Walk.visit obliging (Provision.step strictly (strictly.scope chained)) .empty ()
    ⟨.location, "Lab", [], "lab", []⟩

/-- The visit of the system. -/
def benchVisit : Visit Unit Identifiers :=
  Walk.visit obliging (Provision.step strictly (strictly.scope chained)) labVisit.knownAfter ()
    ⟨.system, "Bench", [("location", .string "${lab}")], "bench", []⟩

/-- The system is created with the identifier of the location. -/
theorem provision_substitutes_chained :
    chained.references.Nodup ∧
      (Document.validate "chained" chained.json).value = .ok ⟨chained, []⟩ ∧
      chained.provisionVisits obliging () strictly = [labVisit, benchVisit] ∧
      benchVisit.known.get? "lab" = some "loc-1" ∧
      Provision.Creates (strictly.scope chained) benchVisit [("location", .string "loc-1")] ∧
      ∀ reference, ¬ Json.References (.object [("location", .string "loc-1")]) reference := by
  have distinct : chained.references.Nodup := by decide
  have accepted : (Document.validate "chained" chained.json).value = .ok ⟨chained, []⟩ := rfl
  have split : chained.provisionVisits obliging () strictly = [labVisit] ++ benchVisit :: [] := rfl
  have recorded : labVisit.recorded = .created ⟨.location, "Lab", [], "lab", []⟩ "loc-1" := rfl
  have creates :
      Provision.Creates (strictly.scope chained) benchVisit [("location", .string "loc-1")] :=
    ⟨rfl, Json.substituted_resolve benchVisit.known (.object benchVisit.resource.properties)⟩
  obtain ⟨_, _, visits⟩ := provision_substitutes obliging () strictly .epoch chained
  obtain ⟨_, _, known, _, resolved⟩ := visits [labVisit] benchVisit [] split
  refine ⟨distinct, accepted, split, ?_, creates, ?_⟩
  · exact (known distinct "lab" "loc-1").mpr
      ⟨labVisit, List.mem_singleton_self labVisit, rfl, Or.inl rfl, rfl⟩
  · refine resolved "chained" chained.json [] accepted (fun _ _ _ => List.not_mem_nil) ?_ ?_ _
      creates
    · refine List.forall_mem_singleton.mpr ?_
      rw [recorded]
      exact Action.noConfusion
    · refine List.forall_mem_singleton.mpr fun id given => ?_
      rw [recorded] at given
      cases given
      exact Placeholder.reference?_eq_none_iff.mp rfl

end Run

end ResourceGraph
