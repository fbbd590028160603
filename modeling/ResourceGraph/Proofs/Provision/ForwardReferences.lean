/-
**Forward references, as validation and as a run see them.**

In a dry run that allows no unresolved reference, a resource fails exactly if it mentions itself, a
later resource, or an earlier one that failed. Validation warns of the references to the resource
itself and to later ones. So both agree: the run has no failure exactly if there is no warning.

* `Document.unmet`: the references that have no identifier at a position of a run;
* `unresolvedReferences_resolved`: the unresolved references of a resource are those it mentions
  that have no identifier;
* `rehearsed_of_getElem?`: so they are the unmet ones;
* `Document.exists_position_of_warning`: what validation warns of;
* `rehearsal_agrees`: both sides together.
-/

import ResourceGraph.Proofs.Document.Acceptance
import ResourceGraph.Proofs.Document.Mentions
import ResourceGraph.Proofs.Run.DryRun

namespace ResourceGraph

/-- The references without an identifier at a position of a run: of the resource there, of later
ones, and of earlier ones that failed. -/
def Document.unmet (document : Document) (results : List ResourceResult) (index : Nat) :
    List String :=
  document.references.drop index ++
    ((results.take index).filter fun result => result.action == .failed).map
      ResourceResult.reference

namespace Provision

/-! ### Unresolved references -/

theorem unresolvedReferences_eq (properties : Fields) :
    unresolvedReferences properties = (Json.object properties).mentions.eraseDups := by
  have gathered : unresolvedReferences properties =
      (properties.flatMap fun field => field.2.mentions).foldl Json.addReference [] := by
    rw [unresolvedReferences, List.foldl_flatMap, List.foldl_flatMap]
    refine List.foldl_ext _ _ _ fun found field _ => ?_
    rw [Json.placeholders, Json.gatherPlaceholders_eq_foldl, Json.foldl_addReference_gathered]
  rw [gathered, ← Json.mentions_object, Json.foldl_addReference]
  simp

/-- **The unresolved references of a resource** are those it mentions that have no identifier. -/
theorem unresolvedReferences_resolved {ids : Identifiers} {resource : Resource}
    (clean : ids.Clean) :
    unresolvedReferences (resolved ids resource) =
      ((Json.object resource.properties).mentions.filter
        fun reference => (ids.get? reference).isNone).eraseDups := by
  rw [unresolvedReferences_eq, ← Json.mentions_resolve clean]
  rfl

/-- What results without identifiers published is no placeholder. -/
theorem clean_known {results : List ResourceResult}
    (anonymous : ∀ result ∈ results, result.serverId = none) : (known results).Clean := by
  intro reference id found other
  obtain ⟨result, member, _, published⟩ := exists_of_get?_known found
  unfold published? at published
  rw [anonymous result member] at published
  cases action : result.action with
  | skipped =>
    rw [action] at published
    obtain rfl := Option.some.inj published
    exact Identifiers.not_names_synthetic _ _
  | _ =>
    rw [action] at published
    cases published

/-- **A reference has no identifier** if all results about it are failures. -/
theorem get?_known_isNone_iff {results : List ResourceResult}
    (settled : ∀ result ∈ results, result.action = .failed ∨ result.action = .skipped)
    {reference : String} :
    ((known results).get? reference).isNone = true ↔
      ∀ result ∈ results, result.reference = reference → result.action = .failed := by
  rw [Option.isNone_iff_eq_none]
  constructor
  · rintro unknown result member rfl
    refine (settled result member).resolve_right fun skipped => ?_
    refine get?_known_ne_none member ?_ unknown
    rw [published?, skipped]
    exact Option.some_ne_none _
  · intro failed
    by_contra known
    obtain ⟨id, found⟩ := Option.ne_none_iff_exists'.mp known
    obtain ⟨result, member, same, published⟩ := exists_of_get?_known found
    rw [published?, failed result member same] at published
    cases published

/-! ### Unmet references -/

section Unmet

variable {document : Document} {results : List ResourceResult} {index : Nat} {reference : String}

theorem map_reference_take
    (records : List.Forall₂ ResourceResult.Records results document.resources) :
    (results.take index).map ResourceResult.reference = document.references.take index := by
  have same : results.map ResourceResult.reference = document.references := by
    unfold Document.references
    generalize document.resources = resources at records
    induction records with
    | nil => rfl
    | cons here _ ih => rw [List.map_cons, List.map_cons, ih, here.reference]
  rw [List.map_take, same]

/-- **A declared reference is unmet** if all earlier results about it are failures. -/
theorem mem_unmet_iff (records : List.Forall₂ ResourceResult.Records results document.resources)
    (distinct : document.references.Nodup) (declared : reference ∈ document.references) :
    reference ∈ document.unmet results index ↔
      ∀ result ∈ results.take index, result.reference = reference → result.action = .failed := by
  have before : (results.take index).map ResourceResult.reference =
      document.references.take index :=
    map_reference_take records
  rw [← List.take_append_drop index document.references] at distinct declared
  rw [← before] at distinct declared
  unfold Document.unmet
  rw [List.mem_append, List.mem_map]
  constructor
  · rintro (later | ⟨failed, member, rfl⟩) result earlier same
    · -- what is declared at the position or later is not declared before as well
      have also := List.mem_map_of_mem (f := ResourceResult.reference) earlier
      rw [same] at also
      exact absurd later ((List.nodup_append'.mp distinct).2.2 also)
    · obtain ⟨there, action⟩ := List.mem_filter.mp member
      rw [List.inj_on_of_nodup_map distinct.of_append_left earlier there same]
      exact eq_of_beq action
  · intro failed
    rcases List.mem_append.mp declared with earlier | later
    · obtain ⟨result, there, rfl⟩ := List.mem_map.mp earlier
      refine Or.inr ⟨result, List.mem_filter.mpr ⟨there, ?_⟩, rfl⟩
      exact beq_iff_eq.mpr (failed result there rfl)
    · exact Or.inl later

end Unmet

end Provision

/-! ### What validation warns of -/

namespace Document

/-- **A warning of a forward reference** is about a resource that mentions itself or a later one. -/
theorem exists_position_of_warning {document : Document} {warning : String}
    (warned : warning ∈ document.referenceFindings.warnings) :
    ∃ index resource reference, document.resources[index]? = some resource ∧
      reference ∈ (Json.object resource.properties).mentions ∧
      reference ∈ document.references.drop index := by
  obtain ⟨_, finding, found⟩ := List.mem_flatMap.mp warned
  obtain ⟨⟨resource, index⟩, there, rfl⟩ := List.mem_map.mp finding
  obtain ⟨reference, forward, rfl⟩ := List.mem_map.mp found
  obtain ⟨mentioned, late⟩ := List.mem_filter.mp forward
  obtain ⟨position, last, after⟩ := (Option.any_eq_true _ _).mp late
  refine ⟨index, resource, reference, List.mk_mem_zipIdx_iff_getElem?.mp there, ?_, ?_⟩
  · exact Json.mem_mentions_iff.mpr (Json.mem_placeholders_iff.mp mentioned)
  · refine List.mem_iff_getElem?.mpr ⟨position - index, ?_⟩
    rw [List.getElem?_drop, Nat.add_sub_cancel' (of_decide_eq_true after)]
    exact getElem?_of_lastPosition? last

theorem eq_of_schema_warning {raw : Json} {warning : String}
    (warned : warning ∈ (Schema.check raw).warnings) :
    warning = "Document declares no resources" := by
  unfold Schema.check at warned
  split at warned
  · dsimp only at warned
    split at warned
    · split at warned
      · exact List.mem_singleton.mp warned
      · cases warned
    · cases warned
    · cases warned
  · cases warned

theorem forwardReference_ne (index : Nat) (resource : Resource) (reference : String) :
    forwardReference index resource reference ≠ "Document declares no resources" := by
  intro same
  have chars := congrArg String.toList same
  simp [forwardReference, Schema.entryPath] at chars

end Document

/-! ### Strict dry runs -/

namespace Provision

variable {options : RunOptions} {document : Document}

/-- **What a strict dry run records of a resource**: a failure exactly if the resource mentions an
unmet reference, and then the failure lists those that it mentions. -/
theorem rehearsed_of_getElem? (strict : options.strictReferences = true)
    (distinct : document.references.Nodup)
    (closed : ∀ resource ∈ document.resources, ∀ reference,
      Json.References (.object resource.properties) reference → reference ∈ document.references)
    {index : Nat} {resource : Resource} (there : document.resources[index]? = some resource) :
    let results := rehearsal options .empty document.resources
    let mentioned := (Json.object resource.properties).mentions
    ∃ result, results[index]? = some result ∧
      (result.action = .failed ↔
        ∃ reference ∈ mentioned, reference ∈ document.unmet results index) ∧
      (result.action = .failed → result.error = some ("Unresolved reference(s): " ++
        Text.join ", " (mentioned.filter (document.unmet results index).contains).eraseDups)) := by
  intro results mentioned
  have settled : ∀ result ∈ results.take index,
      result.action = .failed ∨ result.action = .skipped :=
    fun result member => action_of_mem_rehearsal (List.mem_of_mem_take member)
  have anonymous : ∀ result ∈ results.take index, result.serverId = none :=
    fun result member => serverId_of_mem_rehearsal (List.mem_of_mem_take member)
  have unresolved : unresolvedReferences (resolved (known (results.take index)) resource) =
      (mentioned.filter (document.unmet results index).contains).eraseDups := by
    rw [unresolvedReferences_resolved (clean_known anonymous)]
    refine congrArg List.eraseDups (List.filter_congr fun reference among => ?_)
    have declared := closed resource (List.mem_of_getElem? there) reference
      (Json.mem_mentions_iff.mp among)
    rw [Bool.eq_iff_iff, get?_known_isNone_iff settled, List.contains_iff_mem,
      mem_unmet_iff (rehearsal_records _) distinct declared]
  refine ⟨rehearsed options (known (results.take index)) resource, ?_, ?_, ?_⟩
  · show (rehearsal options .empty document.resources)[index]? = _
    rw [getElem?_rehearsal, there]
    rfl
  · rw [rehearsed_action.1, HeldBack, unresolved]
    simp [strict, List.eq_nil_iff_forall_not_mem]
  · intro failed
    have held := rehearsed_action.1.mp failed
    rw [rehearsed, if_pos held, unresolved]
    rfl

/-- **A document without forward references has no failure** in a strict dry run. -/
theorem not_failed_of_backward (strict : options.strictReferences = true) {source : String}
    {raw : Json} {warnings : List String}
    (accepted : (Document.validate source raw).value = .ok ⟨document, warnings⟩)
    (distinct : document.references.Nodup)
    (closed : ∀ resource ∈ document.resources, ∀ reference,
      Json.References (.object resource.properties) reference → reference ∈ document.references)
    (backward : ∀ index resource reference,
      Document.forwardReference index resource reference ∉ warnings)
    (index : Nat) (result : ResourceResult)
    (recorded : (rehearsal options .empty document.resources)[index]? = some result) :
    result.action ≠ .failed := by
  -- a failure would go back to an earlier one, for what is mentioned is declared before
  induction index using Nat.strongRecOn generalizing result with
  | _ index ih =>
    intro failed
    have records : List.Forall₂ ResourceResult.Records (rehearsal options .empty document.resources)
        document.resources := rehearsal_records _
    have same := recorded
    rw [getElem?_rehearsal] at same
    obtain ⟨resource, there, _⟩ := Option.map_eq_some_iff.mp same
    obtain ⟨other, alike, fails, _⟩ := rehearsed_of_getElem? strict distinct closed there
    rw [recorded] at alike
    cases alike
    obtain ⟨reference, mentioned, unmet⟩ := fails.mp failed
    have named := Json.mem_mentions_iff.mp mentioned
    obtain ⟨position, early, declared⟩ :=
      Document.exists_position_of_validate accepted backward there named
    have before : reference ∈ document.references.take index := by
      refine List.mem_iff_getElem?.mpr ⟨position, ?_⟩
      rw [List.getElem?_take_of_lt early]
      exact declared
    rw [← map_reference_take records] at before
    obtain ⟨earlier, among, about⟩ := List.mem_map.mp before
    have declaredSomewhere := closed resource (List.mem_of_getElem? there) reference named
    have also := (mem_unmet_iff records distinct declaredSomewhere).mp unmet earlier among about
    obtain ⟨place, inTake⟩ := List.mem_iff_getElem?.mp among
    rw [List.getElem?_take] at inTake
    obtain ⟨short, found⟩ := Option.ite_none_right_eq_some.mp inTake
    exact ih place short earlier found also

end Provision

/-! ### Runs -/

section Run

open Dialogue

/-- **Validation and a strict dry run agree on forward references.** For an accepted document, a
strict dry run has a result for each resource in order. A resource fails exactly if it mentions
itself, a later resource, or an earlier one that failed, and the failure lists those references,
first mentions first. So no resource fails exactly if validation warned of no forward reference. -/
theorem rehearsal_agrees {σ : Type} (service : Service σ) (state : σ) (options : RunOptions)
    (dry : options.dryRun = true) (strict : options.strictReferences = true) (occasion : Occasion)
    (source : String) (raw : Json) (document : Document) (warnings : List String)
    (accepted : (Document.validate source raw).value = .ok ⟨document, warnings⟩) :
    let results :=
      (converse service state (document.provision options occasion)).result.report.results
    List.Forall₂ ResourceResult.Records results document.resources ∧
      (∀ index resource, document.resources[index]? = some resource →
        let mentioned := (Json.object resource.properties).mentions
        ∃ result, results[index]? = some result ∧
          (result.action = .failed ↔
            ∃ reference ∈ mentioned, reference ∈ document.unmet results index) ∧
          (result.action = .failed → result.error = some ("Unresolved reference(s): " ++
            Text.join ", " (mentioned.filter (document.unmet results index).contains).eraseDups))) ∧
      ((∀ result ∈ results, result.action ≠ .failed) ↔
        ∀ index resource reference,
          Document.forwardReference index resource reference ∉ warnings) := by
  obtain ⟨finished, _⟩ := converse_provision_of_dry service state dry occasion document
  rw [finished]
  obtain ⟨_, _, _, given⟩ := Document.validate_eq_ok accepted
  obtain ⟨distinct, closed⟩ : document.references.Nodup ∧ ∀ resource ∈ document.resources,
      ∀ reference, Json.References (.object resource.properties) reference →
        reference ∈ document.references := by
    cases Document.denotes_of_validate_eq_ok accepted with
    | mapping declares minutes closed => exact ⟨declares.distinct, closed⟩
  refine ⟨Provision.rehearsal_records _, fun index resource there =>
    Provision.rehearsed_of_getElem? strict distinct closed there, ?_, ?_⟩
  · intro passed index resource reference warned
    dsimp only at given
    rw [given] at warned
    rcases List.mem_append.mp warned with forward | schema
    · obtain ⟨position, about, mentioned, there, mentions, late⟩ :=
        Document.exists_position_of_warning forward
      obtain ⟨result, recorded, fails, _⟩ :=
        Provision.rehearsed_of_getElem? strict distinct closed there
      exact passed result (List.mem_of_getElem? recorded)
        (fails.mpr ⟨mentioned, mentions, List.mem_append_left _ late⟩)
    · exact Document.forwardReference_ne _ _ _ (Document.eq_of_schema_warning schema)
  · intro backward result member
    obtain ⟨index, recorded⟩ := List.mem_iff_getElem?.mp member
    exact Provision.not_failed_of_backward strict accepted distinct closed backward index result
      recorded

/-- A document with a system that refers to the location after it, and an asset that refers to the
location, to the system and to itself. -/
def entangled : Document :=
  { chained with
    resources := [⟨.system, "Bench", [("location", .string "${lab}")], "bench", []⟩,
      ⟨.location, "Lab", [], "lab", []⟩,
      ⟨.asset, "Rig", [("location", .string "${lab}"),
        ("parts", .array [.string "${rig}", .string "${bench}"]), ("system", .string "${bench}")],
        "rig", []⟩] }

/-- In a strict dry run of the entangled document, the system fails for want of the location, and
the asset for want of itself and of the system; there are two warnings. -/
theorem rehearsal_agrees_entangled :
    let run := converse obliging () (entangled.provision rehearsing .epoch)
    rehearsing.dryRun = true ∧ rehearsing.strictReferences = true ∧
      (∃ bench rig, (Document.validate "entangled" entangled.json).value =
        .ok ⟨entangled, [Document.forwardReference 0 bench "lab",
          Document.forwardReference 2 rig "rig"]⟩) ∧
      run.result.report.results.map ResourceResult.action = [.failed, .skipped, .failed] ∧
      ∃ bench rig, run.result.report.results[0]? = some bench ∧
        bench.error = some "Unresolved reference(s): lab" ∧
        run.result.report.results[2]? = some rig ∧
        rig.error = some "Unresolved reference(s): rig, bench" := by
  intro run
  have accepted : ∃ bench rig, (Document.validate "entangled" entangled.json).value =
      .ok ⟨entangled, [Document.forwardReference 0 bench "lab",
        Document.forwardReference 2 rig "rig"]⟩ := ⟨_, _, rfl⟩
  have actions : run.result.report.results.map ResourceResult.action =
      [.failed, .skipped, .failed] := rfl
  refine ⟨rfl, rfl, accepted, actions, ?_⟩
  obtain ⟨_, _, validated⟩ := accepted
  obtain ⟨_, each, _⟩ := rehearsal_agrees obliging () rehearsing rfl rfl .epoch "entangled" _ _ _
    validated
  obtain ⟨bench, first, _, benchLists⟩ := each 0 _ rfl
  obtain ⟨rig, last, _, rigLists⟩ := each 2 _ rfl
  cases first
  cases last
  exact ⟨_, _, rfl, benchLists rfl, rfl, rigLists rfl⟩

end Run

end ResourceGraph
