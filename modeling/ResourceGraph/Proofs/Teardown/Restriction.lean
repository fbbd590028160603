/-
**A tag filter restricts the document.**

Teardown with a tag filter passes the resources over that declare none of the tags: nothing is sent
about them, no kind counts as swept, and the walk goes on. So it does what teardown without a filter
does to the document that keeps the other resources only, and records besides that the rest is left
out.

* `Document.tagged`: the document with the resources that declare one of some tags;
* `teardownVisits_tagged`: its visits are those of the whole document that are not passed over;
* `isLeftOut_recorded`: which results say that a resource is left out;
* `teardown_restricts`: what follows for the two runs.
-/

import ResourceGraph.Proofs.Teardown.Report

namespace ResourceGraph

/-- The document with those of its resources that declare one of the tags. -/
def Document.tagged (document : Document) (tags : List String) : Document :=
  { document with resources := document.resources.filter fun resource => resource.hasAnyTag tags }

namespace Teardown

open Dialogue

/-! ### Results that leave a resource out -/

section LeftOut

variable (tags : List String)

/-- The note of a resource that declares none of the tags. -/
def leftOutNote : String :=
  "filtered out (no tag in " ++ Text.join ", " tags ++ ")"

/-- The result of a resource that declares none of the tags. -/
def leftOut (resource : Resource) : ResourceResult :=
  .skipped resource none (leftOutNote tags)

/-- Whether a result says that its resource declares none of the tags. -/
def isLeftOut (result : ResourceResult) : Bool :=
  result.note == some (leftOutNote tags)

theorem isLeftOut_leftOut (resource : Resource) : isLeftOut tags (leftOut tags resource) = true :=
  beq_self_eq_true (some (leftOutNote tags))

theorem leftOutNote_ne {note : String} (first : note.toList.head? ≠ some 'f') :
    note ≠ leftOutNote tags := by
  have starts (names : String) :
      ("filtered out (no tag in " ++ names ++ ")").toList.head? = some 'f' := by simp
  intro same
  rw [same] at first
  exact first (starts (Text.join ", " tags))

variable {tags}

/-- A result with another note, or without one, leaves nothing out. -/
theorem isLeftOut_eq_false {result : ResourceResult}
    (apart : ∀ note, result.note = some note → note.toList.head? ≠ some 'f') :
    isLeftOut tags result = false :=
  beq_eq_false_iff_ne.mpr fun same => leftOutNote_ne tags (apart _ same) rfl

theorem isLeftOut_skipped {resource : Resource} {id : Option String} {note : String}
    (first : note.toList.head? ≠ some 'f') :
    isLeftOut tags (.skipped resource id note) = false :=
  isLeftOut_eq_false fun _ same => Option.some.inj same ▸ first

/-- What comes of a delete call leaves nothing out. -/
theorem isLeftOut_resultOf (scope : Scope) (resource : Resource) (done : DeleteOutcome) :
    isLeftOut tags (resultOf scope resource done) = false := by
  cases done with
  | deleted id => exact isLeftOut_eq_false fun _ same => by cases same
  | notFound => exact isLeftOut_skipped (by decide)
  | swept ids =>
    cases ids with
    | nil => exact isLeftOut_skipped (by decide)
    | cons first rest =>
      refine isLeftOut_eq_false fun note same => ?_
      obtain rfl := Option.some.inj same
      simp

/-- **A result leaves its resource out** exactly if the resource declares none of the tags of a
filter. -/
theorem isLeftOut_recorded {σ : Type} {options : RunOptions} {scope : Scope}
    {here : Visit σ (List Kind)}
    (course : Course options scope tags here.known here.resource here.exchanges here.outcome) :
    isLeftOut tags here.recorded = isFilteredOut tags here.resource := by
  generalize here.exchanges = exchanges at course
  generalize reached : here.outcome = outcome at course
  have asked {done : Except Failure DeleteOutcome}
      (asks : Asks options tags here.known here.resource)
      (reached : here.outcome = concluded scope here.known here.resource done) :
      isLeftOut tags here.recorded = isFilteredOut tags here.resource := by
    rw [asks.kept]
    cases done with
    | error failure =>
      rw [(recorded_of_concluded_error reached).1]
      exact isLeftOut_eq_false fun _ same => by cases same
    | ok done =>
      rw [(recorded_of_concluded_ok reached).1]
      exact isLeftOut_resultOf scope here.resource done
  cases course with
  | filteredOut out =>
    rw [(recorded_of_ok reached).1, out]
    exact isLeftOut_leftOut tags here.resource
  | dryRun kept dry =>
    rw [(recorded_of_ok reached).1, kept]
    exact isLeftOut_skipped (by decide)
  | cleaned kept wet cleaned =>
    rw [(recorded_of_ok reached).1, kept]
    exact isLeftOut_skipped (by decide)
  | queryFailed asks => exact asked asks reached
  | notFound asks nothing => exact asked asks reached
  | deletes asks targets => exact asked asks reached

end LeftOut

/-! ### Visits that pass nothing over -/

section Visits

variable {σ : Type} (service : Service σ) (state : σ) (options : RunOptions) (scope : Scope)
  {tags : List String} (given : tags ≠ []) (swept : List Kind) {resource : Resource}

include given

/-- A filter leaves out what declares none of its tags. -/
theorem isFilteredOut_eq (resource : Resource) :
    isFilteredOut tags resource = !resource.hasAnyTag tags := by
  have filled : tags.isEmpty = false := List.isEmpty_eq_false_iff.mpr given
  rw [isFilteredOut, filled, Bool.not_false, Bool.true_and]

/-- A resource that is left out is passed over: nothing is sent, and what was swept stays the
same. -/
theorem converse_handle_of_left_out (untagged : resource.hasAnyTag tags = false) :
    converse service state (handle options scope tags swept resource) =
      ⟨.ok (leftOut tags resource, swept), [], state⟩ := by
  have out : isFilteredOut tags resource = true := by
    rw [isFilteredOut_eq given, untagged, Bool.not_false]
  unfold handle
  rw [if_pos out, converse_pure]
  rfl

/-- A resource with one of the tags is handled as without a filter. -/
theorem handle_of_tagged (tagged : resource.hasAnyTag tags = true) :
    handle options scope tags swept resource = handle options scope [] swept resource := by
  have kept : isFilteredOut tags resource = false := by
    rw [isFilteredOut_eq given, tagged, Bool.not_true]
  have unfiltered : isFilteredOut [] resource = false := rfl
  unfold handle
  simp only [kept, unfiltered, Bool.false_eq_true, if_false]

/-- **The visits of the restricted document** are the visits that pass nothing over. -/
theorem teardownVisits_tagged (document : Document) :
    (document.tagged tags).teardownVisits service state options [] =
      (document.teardownVisits service state options tags).filter
        fun here => here.resource.hasAnyTag tags := by
  have passes (swept : List Kind) (state : σ) (resource : Resource)
      (untagged : resource.hasAnyTag tags = false) :=
    converse_handle_of_left_out service state options (options.scope document) given swept untagged
  have same (swept : List Kind) (resource : Resource) (tagged : resource.hasAnyTag tags = true) :=
    handle_of_tagged options (options.scope document) given swept tagged
  have filtered := Walk.visits_filter service _ [] state passes same document.resources.reverse
  rw [List.filter_reverse] at filtered
  exact filtered.symm

/-- **A visit that passes a resource over** sends nothing, ends nothing and records that. -/
theorem visit_of_left_out {document : Document} {here : Visit σ (List Kind)}
    (member : here ∈ document.teardownVisits service state options tags)
    (untagged : here.resource.hasAnyTag tags = false) :
    here.exchanges = [] ∧ here.cause? = none ∧ here.recorded = leftOut tags here.resource := by
  have handled := converse_handle_of_left_out service here.stateBefore options
    (options.scope document) given here.known untagged
  rw [Walk.eq_visit_of_mem service _ [] state member, Walk.visit, handled]
  exact ⟨rfl, rfl, rfl⟩

end Visits

end Teardown

/-! ### What is left of filtered visits -/

section Filter

variable {α β : Type} {keep : α → Bool} {values : List α}

/-- Dropping values with empty parts keeps the parts put together. -/
theorem flatMap_filter_of_dropped {part : α → List β}
    (empty : ∀ value ∈ values, keep value = false → part value = []) :
    (values.filter keep).flatMap part = values.flatMap part := by
  induction values with
  | nil => rfl
  | cons value rest ih =>
    obtain ⟨first, later⟩ := List.forall_mem_cons.mp empty
    by_cases kept : keep value = true
    · rw [List.filter_cons_of_pos kept, List.flatMap_cons, List.flatMap_cons, ih later]
    · rw [List.filter_cons_of_neg kept, List.flatMap_cons, first (Bool.eq_false_iff.mpr kept),
        List.nil_append, ih later]

/-- Dropping values without an answer keeps the first answer. -/
theorem findSome?_filter_of_dropped {answer? : α → Option β}
    (silent : ∀ value ∈ values, keep value = false → answer? value = none) :
    (values.filter keep).findSome? answer? = values.findSome? answer? := by
  induction values with
  | nil => rfl
  | cons value rest ih =>
    obtain ⟨first, later⟩ := List.forall_mem_cons.mp silent
    by_cases kept : keep value = true
    · rw [List.filter_cons_of_pos kept, List.findSome?_cons, List.findSome?_cons, ih later]
    · rw [List.filter_cons_of_neg kept, List.findSome?_cons, first (Bool.eq_false_iff.mpr kept),
        ih later]

end Filter

/-! ### Runs -/

section Run

open Dialogue

/-- **A tag filter is a restriction of the document.** Teardown with a filter exchanges with the
service what teardown without one does for the resources that declare one of its tags; both are
aborted by the same failure or by none. The results are those of the restricted document and, among
them, one for each resource handled that declares none of the tags, which says that it is left
out. -/
theorem teardown_restricts {σ : Type} (service : Service σ) (state : σ) (options : RunOptions)
    (occasion : Occasion) {tags : List String} (given : tags ≠ []) (document : Document) :
    let whole := converse service state (document.teardown options occasion tags)
    let part := converse service state ((document.tagged tags).teardown options occasion [])
    let results := whole.result.report.results
    let handled := document.resources.reverse.take results.length
    whole.exchanges = part.exchanges ∧
      (results.filter fun result => !Teardown.isLeftOut tags result) = part.result.report.results ∧
      (∀ cause, (∃ report, whole.result = .error ⟨report, cause⟩) ↔
        ∃ report, part.result = .error ⟨report, cause⟩) ∧
      results.filter (Teardown.isLeftOut tags) =
        (handled.filter fun resource => !resource.hasAnyTag tags).map (Teardown.leftOut tags) := by
  have kept := Teardown.teardownVisits_tagged service state options given document
  rw [converse_teardown, converse_teardown, kept]
  dsimp only
  rw [RunOutcome.report_ofWalk, RunOutcome.report_ofWalk]
  simp only [RunOutcome.ofWalk_eq_error_iff]
  generalize visited : document.teardownVisits service state options tags = visits
  have passes : ∀ here ∈ visits, here.resource.hasAnyTag tags = false →
      here.exchanges = [] ∧ here.cause? = none ∧
        here.recorded = Teardown.leftOut tags here.resource := by
    rw [← visited]
    exact fun here => Teardown.visit_of_left_out service state options given
  have told : ∀ here ∈ visits,
      Teardown.isLeftOut tags here.recorded = !here.resource.hasAnyTag tags := by
    rw [← visited]
    intro here member
    rw [← Teardown.isFilteredOut_eq given]
    exact Teardown.isLeftOut_recorded (Teardown.visit_course service state options _ tags member)
  have handled : visits.map Visit.resource = document.resources.reverse.take visits.length := by
    have first := Walk.visits_resources_prefix service
      (Teardown.handle options (options.scope document) tags) [] state document.resources.reverse
    rw [← visited]
    exact (List.prefix_iff_eq_take.mp first).trans (by rw [List.length_map]; rfl)
  refine ⟨?_, ?_, fun cause => ?_, ?_⟩
  · exact (flatMap_filter_of_dropped fun here member untagged =>
      (passes here member untagged).1).symm
  · show (visits.map Visit.recorded).filter _ = (visits.filter _).map Visit.recorded
    rw [List.filter_map]
    refine congrArg (List.map Visit.recorded) (List.filter_congr fun here member => ?_)
    show (!Teardown.isLeftOut tags here.recorded) = _
    rw [told here member, Bool.not_not]
  · have same : (Walk.ofVisits (visits.filter fun here => here.resource.hasAnyTag tags)).cause =
        (Walk.ofVisits visits).cause :=
      findSome?_filter_of_dropped fun here member untagged => (passes here member untagged).2.1
    rw [same]
    exact ⟨fun ⟨_, ends, _⟩ => ⟨_, ends, rfl⟩, fun ⟨_, ends, _⟩ => ⟨_, ends, rfl⟩⟩
  · show (visits.map Visit.recorded).filter _ = ((document.resources.reverse.take
      (visits.map Visit.recorded).length).filter _).map _
    have same : visits.filter (Teardown.isLeftOut tags ∘ Visit.recorded) =
        visits.filter ((fun resource => !resource.hasAnyTag tags) ∘ Visit.resource) :=
      List.filter_congr told
    rw [List.length_map, ← handled, List.filter_map, List.filter_map, List.map_map, same]
    refine List.map_congr_left fun here member => ?_
    obtain ⟨visit, untagged⟩ := List.mem_filter.mp member
    exact (passes here visit (Bool.not_eq_eq_eq_not.mp untagged)).2.2

/-- A document of which two resources are for the site. -/
def campus : Document where
  formatVersion := "1.0"
  name := "campus"
  title := "Campus"
  description := none
  author := none
  tags := []
  setupMinutes := none
  resources := [⟨.location, "Lab", [], "lab", ["desk"]⟩,
    ⟨.testResult, "First", [], "first", ["site"]⟩, ⟨.testResult, "Second", [], "second", []⟩,
    ⟨.system, "Bench", [], "bench", ["site", "hot"]⟩]

/-- What a service says of credentials that do not hold any longer. -/
def revoked : Failure := .service (.unauthorized "revoked")

/-- A service that rejects the credentials when it is asked about test results. -/
def revoking : Service Unit := fun request _ =>
  (if request.path = "/nitestmonitor/v2/query-results" then .error revoked
    else .ok workshopEntries, ())

/-- The second test result is left out, and the run is aborted at the first one, before the
location, as it is without the others. -/
theorem teardown_restricts_campus :
    let whole := converse revoking () (campus.teardown thoroughly .epoch ["site"])
    let part := converse revoking () ((campus.tagged ["site"]).teardown thoroughly .epoch [])
    ["site"] ≠ ([] : List String) ∧
      whole.exchanges = part.exchanges ∧ whole.exchanges.length = 3 ∧
      whole.result.report.results.map ResourceResult.action = [.deleted, .skipped, .failed] ∧
      (∃ report, whole.result = .error ⟨report, revoked⟩) ∧
      (∃ report, part.result = .error ⟨report, revoked⟩) ∧
      whole.result.report.results.filter (Teardown.isLeftOut ["site"]) =
        [Teardown.leftOut ["site"] ⟨.testResult, "Second", [], "second", []⟩] := by
  have given : ["site"] ≠ ([] : List String) := List.cons_ne_nil _ _
  obtain ⟨exchanged, _, aborted, leftOut⟩ :=
    teardown_restricts revoking () thoroughly .epoch given campus
  have ends : ∃ report, (converse revoking () (campus.teardown thoroughly .epoch ["site"])).result =
      .error ⟨report, revoked⟩ := ⟨_, rfl⟩
  exact ⟨given, exchanged, rfl, rfl, ends, (aborted revoked).mp ends, leftOut⟩

end Run

end ResourceGraph
