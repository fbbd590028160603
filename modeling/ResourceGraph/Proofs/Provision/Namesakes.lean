/-
**What provisioning creates where entries are stored.**

On a service that stores what is posted, resources are told apart by where they are posted and by
their names. Assets and devices under test are posted to one place, and a look-up of the one finds
the other. So of an asset and a device under test with one name only the first is created, and it is
what the other is found to be. Every other resource is created, if nothing carried the cleanup tag
before.

* `Settled`: what comes of a visit on such a service; `visit_settled` says that every visit is
  settled;
* `Grown`: what is stored on the way; `Grown.visit` is the step, `grown_visits` the walk;
* `created_or_found`: a resource is created, or it is found to be a namesake before it.
-/

import ResourceGraph.Proofs.Provision.Requests
import ResourceGraph.Proofs.Service.Store

namespace ResourceGraph

namespace Provision

open Dialogue

variable {σ : Type}

/-- An asset and a device under test of one name. -/
def Namesakes (first second : Resource) : Prop :=
  first.name = second.name ∧
    (first.kind = .asset ∧ second.kind = .dut ∨ first.kind = .dut ∧ second.kind = .asset)

/-- A namesake of a namesake is of the same kind and name. -/
theorem Namesakes.trans {first second third : Resource} (one : Namesakes first second)
    (other : Namesakes second third) : first.kind = third.kind ∧ first.name = third.name := by
  obtain ⟨name, kinds⟩ := one
  obtain ⟨otherName, otherKinds⟩ := other
  refine ⟨?_, name.trans otherName⟩
  rcases kinds with ⟨asset, dut⟩ | ⟨dut, asset⟩
  · rcases otherKinds with ⟨also, _⟩ | ⟨_, last⟩
    · exact absurd (dut.symm.trans also) (by decide)
    · rw [asset, last]
  · rcases otherKinds with ⟨_, last⟩ | ⟨also, _⟩
    · rw [dut, last]
    · exact absurd (asset.symm.trans also) (by decide)

/-- Namesakes are posted to the same place, and carry the cleanup tag as a keyword. -/
theorem Namesakes.endpoint {first second : Resource} (namesakes : Namesakes first second) :
    first.kind.endpoint.createPath = second.kind.endpoint.createPath ∧
      second.kind.endpoint.carrier = .keyword := by
  obtain ⟨_, ⟨asset, dut⟩ | ⟨dut, asset⟩⟩ := namesakes
  · rw [asset, dut]
    exact ⟨rfl, rfl⟩
  · rw [dut, asset]
    exact ⟨rfl, rfl⟩

/-- The identifier that a result says was created. -/
def createdId? (result : ResourceResult) : Option String :=
  match result.action with
  | .created => result.serverId
  | _ => none

/-- The entry that a visit posts, stored under an identifier. -/
def posted (scope : Scope) (here : Visit σ Identifiers) (id : String) : Stored :=
  ⟨here.resource.kind.endpoint.createPath, id, scope.createdFields here.resource.kind.endpoint
    here.resource.name (resolved here.known here.resource)⟩

/-- The entry that a visit added. -/
def added? (scope : Scope) (here : Visit σ Identifiers) : Option Stored :=
  (createdId? here.recorded).map (posted scope here)

/-! ### What comes of a visit -/

/-- **What comes of a visit** where entries are stored: it finds one that answers, or posts its
own. -/
inductive Settled (scope : Scope) (held : σ → List Stored) (here : Visit σ Identifiers) : Prop where
  | found {stored : Stored} (member : stored ∈ held here.stateBefore)
      (answers : stored.Answers scope here.resource.kind here.resource.name)
      (kept : held here.stateAfter = held here.stateBefore)
      (same : here.outcome =
        reached here.known (.ok (.skipped here.resource (some stored.id) "already exists")))
  | created {id : String}
      (missing : ∀ stored ∈ held here.stateBefore,
        ¬ stored.Answers scope here.resource.kind here.resource.name)
      (filled : id ≠ "") (fresh : id ∉ (held here.stateBefore).map Stored.id)
      (grown : held here.stateAfter = held here.stateBefore ++ [posted scope here id])
      (same : here.outcome = reached here.known (.ok (.created here.resource id)))

section Visits

variable {service : Service σ} {state : σ} {options : RunOptions} {document : Document}
  {held : σ → List Stored} {here : Visit σ Identifiers}

/-- **Every visit is settled.** -/
theorem visit_settled (stores : Stores service (options.scope document) held)
    (wet : options.dryRun = false) (lenient : options.strictReferences = false)
    (member : here ∈ document.provisionVisits service state options) :
    Settled (options.scope document) held here := by
  obtain ⟨outcome, course, same⟩ := visit_course service state options _ member
  have served := Walk.served_of_mem service _ _ _ member
  obtain ⟨found, between, looked, kept, entries⟩ :=
    stores.answers here.resource.kind here.resource.name here.stateBefore
  -- an entry of the reply is one of those that are held
  have shown (entry : Json) : entry ∈ entriesUnder here.resource.kind.endpoint.collection found ↔
      ∃ stored ∈ held here.stateBefore, stored.isSelected here.resource.kind
        ((options.scope document).lookupFilter here.resource.kind.endpoint here.resource.name) =
          true ∧ stored.shown = entry := by
    rw [entries.mem_iff, List.mem_map]
    simp only [List.mem_filter, and_assoc]
  generalize here.exchanges = exchanges at course served
  cases course with
  | heldBack heldBack =>
    rw [HeldBack, lenient] at heldBack
    exact absurd heldBack.1 Bool.false_ne_true
  | dryRun free dry =>
    rw [wet] at dry
    cases dry
  | «exists» asks finds =>
    obtain ⟨replied, after⟩ := served
    rw [lookup, looked] at replied after
    cases replied
    have after : here.stateAfter = between := after
    obtain ⟨before, entry, rest, split, identifies, _⟩ := finds
    have among : entry ∈ entriesUnder here.resource.kind.endpoint.collection found := by
      rw [split]
      exact List.mem_append_cons_self
    obtain ⟨stored, there, selected, rfl⟩ := (shown entry).mp among
    obtain ⟨rfl, filled, matched⟩ := Stored.identifies_shown.mp identifies
    refine .found there ⟨selected, filled, matched⟩ ?_ same
    rw [after, kept]
  | lookupFatal asks fatal =>
    obtain ⟨replied, _⟩ := served
    rw [lookup, looked] at replied
    cases replied
  | lookupFailed asks passing policy =>
    obtain ⟨replied, _⟩ := served
    rw [lookup, looked] at replied
    cases replied
  | @creates _ reply asks missing =>
    obtain ⟨replied, creates, after⟩ := served
    rw [lookup, looked] at replied creates after
    cases replied
    obtain ⟨answer, id, last, took, outcome, fresh, grown⟩ := stores.stores here.resource.kind
      (creation (options.scope document) here.known here.resource) _ between rfl rfl
      ((options.scope document).entryIn?_createRequest _ _ _)
    rw [took] at creates after
    cases creates
    have after : here.stateAfter = last := after
    rw [kept] at fresh grown
    have named := Scope.createOutcome_isNamed here.resource.kind.endpoint answer
    rw [outcome] at named
    refine .created (fun stored there answers => ?_) named fresh (by rw [after, grown]; rfl) ?_
    · obtain ⟨selected, filled, matched⟩ := answers
      refine missing stored.shown ((shown _).mpr ⟨stored, there, selected, rfl⟩) stored.id ?_
      exact Stored.identifies_shown.mpr ⟨rfl, filled, matched⟩
    · rw [same, creationOutcome, Scope.outcomeOf, outcome]
      rfl

end Visits

/-! ### What is stored on the way -/

/-- **What is stored on the way**: what was there, and what the visits added under new
identifiers. -/
structure Grown (scope : Scope) (held : σ → List Stored) (start : List Stored)
    (before : List (Visit σ Identifiers)) (last : σ) : Prop where
  entries : held last = start ++ before.filterMap (added? scope)
  distinct : ((before.filterMap (added? scope)).map Stored.id).Nodup
  apart : ∀ stored ∈ before.filterMap (added? scope), stored.id ∉ start.map Stored.id

section Step

variable {scope : Scope} {held : σ → List Stored} {start : List Stored}
  {before : List (Visit σ Identifiers)} {here : Visit σ Identifiers} {id : String}

theorem added?_of_skipped {known : Option String} {note : String}
    (same : here.outcome = reached here.known (.ok (.skipped here.resource known note))) :
    added? scope here = none := by
  rw [added?, recorded_of_reached same]
  rfl

theorem added?_of_created
    (same : here.outcome = reached here.known (.ok (.created here.resource id))) :
    added? scope here = some (posted scope here id) := by
  rw [added?, recorded_of_reached same]
  rfl

/-- **Every visit keeps account of what is stored.** -/
theorem Grown.visit (settled : Settled scope held here)
    (grown : Grown scope held start before here.stateBefore) :
    Grown scope held start (before ++ [here]) here.stateAfter := by
  cases settled with
  | found member answers kept same =>
    have added : (before ++ [here]).filterMap (added? scope) = before.filterMap (added? scope) := by
      rw [List.filterMap_append, List.filterMap_cons_none (added?_of_skipped same),
        List.filterMap_nil, List.append_nil]
    refine ⟨?_, ?_, ?_⟩
    · rw [added, kept]
      exact grown.entries
    · rw [added]
      exact grown.distinct
    · rw [added]
      exact grown.apart
  | @created id missing filled fresh more same =>
    have added : (before ++ [here]).filterMap (added? scope) =
        before.filterMap (added? scope) ++ [posted scope here id] := by
      rw [List.filterMap_append, List.filterMap_cons_some (added?_of_created same),
        List.filterMap_nil]
    rw [grown.entries, List.map_append, List.mem_append, not_or] at fresh
    obtain ⟨freshStart, freshAdded⟩ := fresh
    refine ⟨?_, ?_, ?_⟩
    · rw [added, more, grown.entries, List.append_assoc]
    · rw [added, List.map_append, List.nodup_append']
      refine ⟨grown.distinct, List.nodup_singleton _, ?_⟩
      exact List.disjoint_singleton.mpr freshAdded
    · rw [added]
      intro stored member
      rcases List.mem_append.mp member with early | last
      · exact grown.apart stored early
      · obtain rfl := List.mem_singleton.mp last
        exact freshStart

end Step

section Walk

variable {service : Service σ} {state : σ} {options : RunOptions} {document : Document}
  {held : σ → List Stored} {before after : List (Visit σ Identifiers)} {here : Visit σ Identifiers}

/-- **What is stored along a run.** -/
theorem grown_visits (stores : Stores service (options.scope document) held)
    (wet : options.dryRun = false) (lenient : options.strictReferences = false)
    (split : document.provisionVisits service state options = before ++ after) :
    Grown (options.scope document) held (held state) before (Walk.stateAfter state before) := by
  unfold Document.provisionVisits at split
  refine Walk.visits_induction service _ .empty state
    (fun before _ last => Grown (options.scope document) held (held state) before last) ?_ ?_ split
  · exact ⟨(List.append_nil _).symm, List.nodup_nil, List.forall_mem_nil _⟩
  · intro earlier here later split grown
    have member : here ∈ document.provisionVisits service state options := by
      rw [Document.provisionVisits, split]
      exact List.mem_append_cons_self
    exact grown.visit (visit_settled stores wet lenient member)

/-- What is stored at a visit. -/
theorem held_stateBefore (stores : Stores service (options.scope document) held)
    (wet : options.dryRun = false) (lenient : options.strictReferences = false)
    (split : document.provisionVisits service state options = before ++ here :: after) :
    held here.stateBefore = held state ++ before.filterMap (added? (options.scope document)) := by
  obtain ⟨_, _, _, _, stateBefore, _⟩ := Walk.exists_of_visits_eq_append service _ _ _ split
  rw [stateBefore]
  exact (grown_visits stores wet lenient split).entries

/-- No resource before has the kind and the name of the one at hand. -/
theorem name_ne_of_earlier
    (distinct : (document.resources.map fun resource => (resource.kind, resource.name)).Nodup)
    (split : document.provisionVisits service state options = before ++ here :: after)
    {earlier : Visit σ Identifiers} (member : earlier ∈ before)
    (kind : earlier.resource.kind = here.resource.kind) :
    earlier.resource.name ≠ here.resource.name := by
  obtain ⟨rest, resources, _⟩ := Walk.exists_of_visits_eq_append service _ _ _ split
  rw [resources, List.map_append, List.map_map] at distinct
  intro name
  refine List.disjoint_of_nodup_append distinct (List.mem_map_of_mem member) ?_
  show (earlier.resource.kind, earlier.resource.name) ∈ _
  rw [kind, name]
  exact List.mem_cons_self

end Walk

/-! ### Created or found -/

section Outcome

variable {service : Service σ} {state : σ} {options : RunOptions} {document : Document}
  {held : σ → List Stored} {before after : List (Visit σ Identifiers)} {here : Visit σ Identifiers}
  (stores : Stores service (options.scope document) held) (wet : options.dryRun = false)
  (lenient : options.strictReferences = false)
  (clean : ∀ stored ∈ held state, ∀ kind, ¬ stored.Carries (options.scope document) kind)
  (distinct : (document.resources.map fun resource => (resource.kind, resource.name)).Nodup)

include stores wet lenient clean distinct

/-- **What a visit finds is a namesake**, which an earlier visit created. -/
theorem exists_namesake_of_found
    (split : document.provisionVisits service state options = before ++ here :: after)
    {stored : Stored} (member : stored ∈ held here.stateBefore)
    (answers : stored.Answers (options.scope document) here.resource.kind here.resource.name) :
    ∃ earlier ∈ before, Namesakes earlier.resource here.resource ∧
      earlier.recorded = .created earlier.resource stored.id := by
  rw [held_stateBefore stores wet lenient split] at member
  rcases List.mem_append.mp member with start | added
  · exact absurd answers.carries (clean stored start here.resource.kind)
  · obtain ⟨earlier, among, addition⟩ := List.mem_filterMap.mp added
    have visit : earlier ∈ document.provisionVisits service state options := by
      rw [split]
      exact List.mem_append_left _ among
    cases visit_settled stores wet lenient visit with
    | found _ _ _ same =>
      rw [added?_of_skipped same] at addition
      cases addition
    | created _ _ _ _ same =>
      rw [added?_of_created same] at addition
      cases addition
      obtain ⟨path, name⟩ := answers.of_posted
      have kinds := (Kind.eq_or_of_createPath_eq path).resolve_left fun kind =>
        name_ne_of_earlier distinct split among kind name
      exact ⟨earlier, among, ⟨name, kinds⟩, recorded_of_reached same⟩

/-- **A resource that is not there has no namesake before it.** -/
theorem not_namesakes_of_missing (unscoped : options.workspace = none)
    (split : document.provisionVisits service state options = before ++ here :: after)
    (missing : ∀ stored ∈ held here.stateBefore,
      ¬ stored.Answers (options.scope document) here.resource.kind here.resource.name) :
    ∀ earlier ∈ before, ¬ Namesakes earlier.resource here.resource := by
  intro earlier among namesakes
  obtain ⟨first, second, parts⟩ := List.append_of_mem among
  have earlierSplit : document.provisionVisits service state options =
      first ++ earlier :: (second ++ here :: after) := by
    rw [split, parts, List.append_assoc, List.cons_append]
  have visit : earlier ∈ document.provisionVisits service state options := by
    rw [earlierSplit]
    exact List.mem_append_cons_self
  cases visit_settled stores wet lenient visit with
  | found member answers _ _ =>
    -- then there is a namesake of the namesake, and it would be declared twice
    obtain ⟨other, before, otherNamesakes, _⟩ :=
      exists_namesake_of_found stores wet lenient clean distinct earlierSplit member answers
    obtain ⟨kind, name⟩ := otherNamesakes.trans namesakes
    have otherAmong := List.mem_append_left (earlier :: second) before
    rw [← parts] at otherAmong
    exact name_ne_of_earlier distinct split otherAmong kind name
  | @created id _ filled _ _ same =>
    obtain ⟨path, keyword⟩ := namesakes.endpoint
    have whole : here.resource.kind.endpoint.carrier ≠ .joinedTag := by
      rw [keyword]
      decide
    have anywhere : (options.scope document).workspace = none := unscoped
    refine missing (posted (options.scope document) earlier id) ?_ ?_
    · rw [held_stateBefore stores wet lenient split]
      exact List.mem_append_right _
        (List.mem_filterMap.mpr ⟨earlier, among, added?_of_created same⟩)
    · rw [← namesakes.1]
      exact Stored.answers_posted anywhere path whole filled

/-- **A resource is created, or it is found to be a namesake before it.** -/
theorem created_or_found (unscoped : options.workspace = none)
    (split : document.provisionVisits service state options = before ++ here :: after) :
    (∃ id, here.recorded = .created here.resource id ∧ id ≠ "" ∧ id ∉ (held state).map Stored.id ∧
      ∀ earlier ∈ before, ¬ Namesakes earlier.resource here.resource) ∨
    ∃ earlier ∈ before, ∃ id, Namesakes earlier.resource here.resource ∧
      earlier.recorded = .created earlier.resource id ∧
      here.recorded = .skipped here.resource (some id) "already exists" := by
  have member : here ∈ document.provisionVisits service state options := by
    rw [split]
    exact List.mem_append_cons_self
  cases visit_settled stores wet lenient member with
  | @found stored there answers _ same =>
    obtain ⟨earlier, among, namesakes, created⟩ :=
      exists_namesake_of_found stores wet lenient clean distinct split there answers
    exact Or.inr ⟨earlier, among, stored.id, namesakes, created, recorded_of_reached same⟩
  | @created id missing filled fresh _ same =>
    refine Or.inl ⟨id, recorded_of_reached same, filled, fun start => fresh ?_,
      not_namesakes_of_missing stores wet lenient clean distinct unscoped split missing⟩
    rw [held_stateBefore stores wet lenient split, List.map_append]
    exact List.mem_append_left _ start

end Outcome

section Finished

variable {service : Service σ} {options : RunOptions} {document : Document} {held : σ → List Stored}
  (stores : Stores service (options.scope document) held) (wet : options.dryRun = false)
  (lenient : options.strictReferences = false) (state : σ)

include stores wet lenient

/-- No visit ends the run, so all resources are visited. -/
theorem resources_of_stores :
    (document.provisionVisits service state options).map Visit.resource = document.resources ∧
      ∀ here ∈ document.provisionVisits service state options, here.cause? = none := by
  have goesOn : ∀ here ∈ document.provisionVisits service state options, here.cause? = none := by
    intro here member
    cases visit_settled stores wet lenient member with
    | found _ _ _ same => exact cause?_of_reached_ok same
    | created _ _ _ _ same => exact cause?_of_reached_ok same
  exact ⟨Walk.map_resource_visits service _ _ _ goesOn, goesOn⟩

theorem nodup_createdIds :
    (((document.provisionVisits service state options).map Visit.recorded).filterMap
      createdId?).Nodup := by
  have whole : document.provisionVisits service state options =
      document.provisionVisits service state options ++ [] := (List.append_nil _).symm
  have distinct := (grown_visits stores wet lenient whole).distinct
  have ids : (fun here => (added? (options.scope document) here).map Stored.id) =
      (createdId? ∘ Visit.recorded : Visit σ Identifiers → Option String) := by
    funext here
    show ((createdId? here.recorded).map (posted (options.scope document) here)).map Stored.id = _
    rw [Option.map_map]
    exact Option.map_id_apply
  rw [List.map_filterMap, ids] at distinct
  rw [List.filterMap_map]
  exact distinct

/-- **No identifier is created twice.** -/
theorem pairwise_serverId_ne :
    ((document.provisionVisits service state options).map Visit.recorded).Pairwise fun one other =>
      one.action = .created → other.action = .created → one.serverId ≠ other.serverId := by
  have named : ∀ here ∈ document.provisionVisits service state options,
      here.recorded.action = .created → ∃ id, here.recorded = .created here.resource id := by
    intro here member made
    cases visit_settled stores wet lenient member with
    | found _ _ _ same =>
      rw [recorded_of_reached same] at made
      cases made
    | @created id _ _ _ _ same => exact ⟨id, recorded_of_reached same⟩
  have distinct := nodup_createdIds stores wet lenient state
  rw [List.Nodup, List.pairwise_filterMap] at distinct
  refine distinct.imp_of_mem fun {one other} first second apart oneMade otherMade same => ?_
  obtain ⟨here, hereMember, rfl⟩ := List.mem_map.mp first
  obtain ⟨there, thereMember, rfl⟩ := List.mem_map.mp second
  obtain ⟨id, hereCreated⟩ := named here hereMember oneMade
  obtain ⟨otherId, thereCreated⟩ := named there thereMember otherMade
  rw [hereCreated, thereCreated] at apart same
  exact apart id rfl otherId rfl (Option.some.inj same)

end Finished

end Provision

/-! ### Runs -/

section Run

open Dialogue

/-- **Distinct declarations become distinct resources**, up to namesakes. Let a service store what
is posted, with nothing that carries the cleanup tag at the start, and let no two resources have the
same kind and name. A run that sends requests without a workspace, and leaves references be, then
finishes, and every resource is created under an identifier of its own, but for one that is a
namesake of a resource before it: that is skipped, with the identifier of the namesake. -/
theorem provision_creates {σ : Type} (service : Service σ) (state : σ) (options : RunOptions)
    (occasion : Occasion) (document : Document) (held : σ → List Stored)
    (stores : Stores service (options.scope document) held)
    (clean : ∀ stored ∈ held state, ∀ kind, ¬ stored.Carries (options.scope document) kind)
    (wet : options.dryRun = false) (lenient : options.strictReferences = false)
    (unscoped : options.workspace = none)
    (distinct : (document.resources.map fun resource => (resource.kind, resource.name)).Nodup) :
    let visited := document.provisionVisits service state options
    ∃ report, (converse service state (document.provision options occasion)).result = .ok report ∧
      report.results = visited.map Visit.recorded ∧
      visited.map Visit.resource = document.resources ∧
      (∀ before here after, visited = before ++ here :: after →
        (∃ id, here.recorded = .created here.resource id ∧ id ≠ "" ∧
          id ∉ (held state).map Stored.id ∧
          ∀ earlier ∈ before, ¬ Provision.Namesakes earlier.resource here.resource) ∨
        ∃ earlier ∈ before, ∃ id, Provision.Namesakes earlier.resource here.resource ∧
          earlier.recorded = .created earlier.resource id ∧
          here.recorded = .skipped here.resource (some id) "already exists") ∧
      (report.results.Pairwise fun one other =>
        one.action = .created → other.action = .created → one.serverId ≠ other.serverId) ∧
      ((∀ first ∈ document.resources, ∀ second ∈ document.resources,
          ¬ Provision.Namesakes first second) →
        (∀ result ∈ report.results, result.action = .created) ∧
          report.results.Pairwise fun one other => one.serverId ≠ other.serverId) := by
  intro visited
  obtain ⟨all, goesOn⟩ := Provision.resources_of_stores stores wet lenient state
  have cause : (Walk.ofVisits visited).cause = none := List.findSome?_eq_none_iff.mpr goesOn
  have outcomes : ∀ before here after, visited = before ++ here :: after → _ :=
    fun before here after split =>
      Provision.created_or_found stores wet lenient clean distinct unscoped split
  have apart := Provision.pairwise_serverId_ne stores wet lenient state
  refine ⟨RunReport.ofWalk occasion .provision document options.dryRun (Walk.ofVisits visited),
    ?_, rfl, all, outcomes, apart, fun strangers => ?_⟩
  · rw [converse_provision]
    show RunOutcome.ofWalk _ _ _ _ (Walk.ofVisits visited) = _
    unfold RunOutcome.ofWalk
    simp only [cause]
  · have created : ∀ result ∈ visited.map Visit.recorded, result.action = .created := by
      intro result member
      obtain ⟨here, visit, rfl⟩ := List.mem_map.mp member
      obtain ⟨before, after, split⟩ := List.append_of_mem visit
      rcases outcomes before here after split with ⟨id, made, _⟩ | ⟨earlier, among, _, namesakes, _⟩
      · rw [made]
        rfl
      · have earlierVisit : earlier ∈ visited := by
          rw [split]
          exact List.mem_append_left _ among
        refine absurd namesakes (strangers _ ?_ _ ?_)
        · rw [← all]
          exact List.mem_map_of_mem earlierVisit
        · rw [← all]
          exact List.mem_map_of_mem visit
    refine ⟨created, apart.imp_of_mem fun first second differ => ?_⟩
    exact differ (created _ first) (created _ second)

/-- An asset, a device under test of the same name, and a system of that name. -/
def workbench : Document where
  formatVersion := "1.0"
  name := "workbench"
  title := "Workbench"
  description := none
  author := none
  tags := []
  setupMinutes := none
  resources := [⟨.asset, "Scope", [], "scope", []⟩, ⟨.dut, "Scope", [], "probe", []⟩,
    ⟨.system, "Scope", [], "bench", []⟩]

theorem workbench_visits :
    ∃ asset dut system, workbench.provisionVisits warehouse [] leniently = [asset, dut, system] ∧
      asset.resource = ⟨.asset, "Scope", [], "scope", []⟩ ∧
      dut.resource = ⟨.dut, "Scope", [], "probe", []⟩ ∧
      system.resource = ⟨.system, "Scope", [], "bench", []⟩ := by
  obtain ⟨all, _⟩ := Provision.resources_of_stores
    (warehouse_stores (leniently.scope workbench)) rfl rfl []
  obtain ⟨asset, others, split, assetResource, rest⟩ := List.map_eq_cons_iff.mp all
  obtain ⟨dut, last, same, dutResource, more⟩ := List.map_eq_cons_iff.mp rest
  obtain ⟨system, none, alone, systemResource, nothing⟩ := List.map_eq_cons_iff.mp more
  obtain rfl := List.map_eq_nil_iff.mp nothing
  refine ⟨asset, dut, system, ?_, assetResource, dutResource, systemResource⟩
  rw [split, same, alone]

/-- The device under test is found to be the asset, and the system is created. -/
theorem provision_creates_workbench :
    let scope := leniently.scope workbench
    let visited := workbench.provisionVisits warehouse [] leniently
    Stores warehouse scope id ∧
      (∀ stored ∈ ([] : List Stored), ∀ kind, ¬ stored.Carries scope kind) ∧
      leniently.dryRun = false ∧ leniently.strictReferences = false ∧ leniently.workspace = none ∧
      (workbench.resources.map fun resource => (resource.kind, resource.name)).Nodup ∧
      ∃ asset dut system assetId systemId, visited = [asset, dut, system] ∧
        visited.map Visit.resource = workbench.resources ∧
        asset.recorded = .created asset.resource assetId ∧
        dut.recorded = .skipped dut.resource (some assetId) "already exists" ∧
        system.recorded = .created system.resource systemId ∧ assetId ≠ systemId := by
  intro scope visited
  have distinct :
      (workbench.resources.map fun resource => (resource.kind, resource.name)).Nodup := by
    decide
  obtain ⟨report, _, results, all, outcomes, apart, _⟩ :=
    provision_creates warehouse [] leniently .epoch workbench id (warehouse_stores scope)
      (List.forall_mem_nil _) rfl rfl rfl distinct
  obtain ⟨asset, dut, system, split, assetResource, dutResource, systemResource⟩ := workbench_visits
  refine ⟨warehouse_stores scope, List.forall_mem_nil _, rfl, rfl, rfl, distinct, asset, dut,
    system, ?_⟩
  obtain ⟨assetId, assetCreated, _⟩ | ⟨earlier, among, _⟩ := outcomes [] asset [dut, system] split
  · obtain ⟨_, _, _, _, strangers⟩ | ⟨earlier, among, given, _, earlierCreated, dutSkipped⟩ :=
      outcomes [asset] dut [system] split
    · refine absurd ?_ (strangers asset (List.mem_singleton_self asset))
      rw [assetResource, dutResource]
      exact ⟨rfl, Or.inl ⟨rfl, rfl⟩⟩
    · obtain rfl := List.mem_singleton.mp among
      obtain ⟨systemId, systemCreated, _⟩ | ⟨namesake, _, _, ⟨_, kinds⟩, _⟩ :=
        outcomes [earlier, dut] system [] split
      · rw [earlierCreated] at assetCreated
        cases assetCreated
        refine ⟨assetId, systemId, split, all, earlierCreated, dutSkipped, systemCreated,
          fun same => ?_⟩
        rw [results, split, List.map_cons, List.pairwise_cons] at apart
        refine apart.1 system.recorded ?_ ?_ ?_ ?_
        · exact List.mem_cons_of_mem _ (List.mem_singleton_self _)
        · rw [earlierCreated]
          rfl
        · rw [systemCreated]
          rfl
        · rw [earlierCreated, systemCreated, same]
          rfl
      · rw [systemResource] at kinds
        rcases kinds with ⟨_, dut⟩ | ⟨_, asset⟩
        · cases dut
        · cases asset
  · cases among

/-- Not every resource is created: a device under test is found to be the asset of its name. -/
theorem not_created_of_distinct :
    ¬ ∀ (σ : Type) (service : Service σ) (state : σ) (options : RunOptions) (occasion : Occasion)
      (document : Document) (held : σ → List Stored),
      Stores service (options.scope document) held →
      (∀ stored ∈ held state, ∀ kind, ¬ stored.Carries (options.scope document) kind) →
      options.dryRun = false → options.strictReferences = false → options.workspace = none →
      (∀ resource ∈ document.resources, Scope.declaredWorkspace? resource.properties = none) →
      (document.resources.map fun resource => (resource.kind, resource.name)).Nodup →
        ∃ report, (converse service state (document.provision options occasion)).result =
            .ok report ∧
          ∀ result ∈ report.results, result.action = .created := by
  intro all
  have stores := warehouse_stores (leniently.scope workbench)
  have distinct :
      (workbench.resources.map fun resource => (resource.kind, resource.name)).Nodup := by
    decide
  obtain ⟨report, ran, created⟩ :=
    all (List Stored) warehouse [] leniently .epoch workbench id stores
      (List.forall_mem_nil _) rfl rfl rfl (by decide) distinct
  rw [converse_provision] at ran
  have results : _ = report.results := congrArg (fun outcome => outcome.report.results) ran
  rw [RunOutcome.report_ofWalk] at results
  obtain ⟨asset, dut, system, split, assetResource, dutResource, _⟩ := workbench_visits
  have member : dut ∈ workbench.provisionVisits warehouse [] leniently := by
    rw [split]
    exact List.mem_cons_of_mem _ List.mem_cons_self
  have listed : dut.recorded ∈ report.results := by
    rw [← results]
    exact List.mem_map_of_mem member
  have made := created dut.recorded listed
  have parts : workbench.provisionVisits warehouse [] leniently = [asset] ++ dut :: [system] :=
    split
  obtain ⟨_, _, _, _, strangers⟩ | ⟨_, _, _, _, _, skipped⟩ :=
    Provision.created_or_found stores rfl rfl (List.forall_mem_nil _) distinct rfl parts
  · refine strangers asset (List.mem_singleton_self asset) ?_
    rw [assetResource, dutResource]
    exact ⟨rfl, Or.inl ⟨rfl, rfl⟩⟩
  · rw [skipped] at made
    cases made

end Run

end ResourceGraph
