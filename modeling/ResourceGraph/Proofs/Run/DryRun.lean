/-
**Dry runs.**

A dry run settles every resource by itself. It exchanges nothing with the service, it is not
aborted, and its results depend on the document, the options and the tags alone.

* `Walk.settled`: the results of a walk that settles every resource by itself; `visits_of_settles`
  says that they are all that happens;
* `Provision.rehearsal`, `Teardown.rehearsal`: the results of the two walks in a dry run;
  `getElem?_rehearsal` gives those of provisioning one by one;
* `converse_provision_of_dry`, `converse_teardown_of_dry`: a dry run is its results;
* `dryRun_offline`: two dry runs with any two services.
-/

import ResourceGraph.Proofs.Provision.Requests
import ResourceGraph.Proofs.Teardown.Course

namespace ResourceGraph

/-! ### Walks that settle by themselves -/

namespace Walk

open Dialogue

variable {σ μ : Type}

/-- The results of a walk that settles every resource by itself. -/
def settled (settle : μ → Resource → ResourceResult × μ) (known : μ) :
    List Resource → List ResourceResult
  | [] => []
  | resource :: rest =>
    let here := settle known resource
    here.1 :: settled settle here.2 rest

/-- **A walk that settles every resource by itself** goes on to the end and exchanges nothing. -/
theorem visits_of_settles {service : Service σ}
    {handle : μ → Resource → Dialogue (Except Failure (ResourceResult × μ))}
    {settle : μ → Resource → ResourceResult × μ}
    (settles : ∀ known state resource,
      let handled := converse service state (handle known resource)
      handled.result = .ok (settle known resource) ∧ handled.exchanges = [])
    (known : μ) (state : σ) (resources : List Resource) :
    let visited := visits service handle known state resources
    ofVisits visited = ⟨settled settle known resources, none⟩ ∧
      visited.flatMap Visit.exchanges = [] := by
  induction resources generalizing known state with
  | nil => exact ⟨rfl, rfl⟩
  | cons resource rest ih =>
    obtain ⟨result, silent⟩ := settles known state resource
    have goesOn : (visit service handle known state resource).cause? = none := by
      simp only [visit, Visit.cause?, result]
    have next : (visit service handle known state resource).knownAfter =
        (settle known resource).2 := by
      simp only [visit, Visit.knownAfter, result]
    have recorded : (visit service handle known state resource).recorded =
        (settle known resource).1 := by
      simp only [visit, Visit.recorded, result]
    obtain ⟨later, quiet⟩ := ih (settle known resource).2
      (visit service handle known state resource).stateAfter
    obtain ⟨results, causes⟩ := Walk.mk.inj later
    rw [visits_cons_of_none service handle known state goesOn]
    dsimp only
    rw [next]
    constructor
    · rw [ofVisits, List.map_cons, List.findSome?_cons, recorded, goesOn, results, causes, settled]
    · rw [List.flatMap_cons, quiet, List.append_nil]
      exact silent

end Walk

/-! ### Provisioning -/

namespace Provision

open Dialogue

instance (options : RunOptions) (ids : Identifiers) (resource : Resource) :
    Decidable (HeldBack options ids resource) :=
  inferInstanceAs (Decidable (_ ∧ _))

/-- The result of a resource in a dry run. -/
def rehearsed (options : RunOptions) (ids : Identifiers) (resource : Resource) : ResourceResult :=
  if HeldBack options ids resource then
    .failed resource ("Unresolved reference(s): " ++
      Text.join ", " (unresolvedReferences (resolved ids resource)))
  else .skipped resource none "dry run"

/-- The results of a dry run over resources, with the identifiers known before. -/
def rehearsal (options : RunOptions) : Identifiers → List Resource → List ResourceResult :=
  Walk.settled fun ids resource =>
    (rehearsed options ids resource, publish ids (rehearsed options ids resource))

variable {options : RunOptions} {scope : Scope} {ids : Identifiers} {resource : Resource}

theorem rehearsed_records : (rehearsed options ids resource).Records resource := by
  unfold rehearsed
  split <;> exact ⟨rfl, rfl, rfl⟩

theorem rehearsed_serverId : (rehearsed options ids resource).serverId = none := by
  unfold rehearsed
  split <;> rfl

/-- **A resource fails in a dry run** exactly if it is held back; otherwise it is skipped. -/
theorem rehearsed_action :
    ((rehearsed options ids resource).action = .failed ↔ HeldBack options ids resource) ∧
      ((rehearsed options ids resource).action = .skipped ↔ ¬ HeldBack options ids resource) := by
  unfold rehearsed
  split
  · rename_i held
    exact ⟨iff_of_true rfl held, iff_of_false Action.noConfusion fun free => free held⟩
  · rename_i free
    exact ⟨iff_of_false Action.noConfusion free, iff_of_true rfl free⟩

theorem Course.eq_rehearsed {exchanges : List Exchange} {outcome : Except Failure ResourceResult}
    (course : Course options scope ids resource exchanges outcome) (dry : options.dryRun = true) :
    outcome = .ok (rehearsed options ids resource) ∧ exchanges = [] := by
  have wet (asks : Asks options ids resource) : False := by
    rw [asks.1] at dry
    cases dry
  cases course with
  | heldBack held => exact ⟨by rw [rehearsed, if_pos held], rfl⟩
  | dryRun free dry => exact ⟨by rw [rehearsed, if_neg free], rfl⟩
  | «exists» asks finds => exact (wet asks).elim
  | lookupFatal asks fatal => exact (wet asks).elim
  | lookupFailed asks passing policy => exact (wet asks).elim
  | creates asks missing => exact (wet asks).elim

theorem rehearsal_cons (rest : List Resource) :
    rehearsal options ids (resource :: rest) = rehearsed options ids resource ::
      rehearsal options (publish ids (rehearsed options ids resource)) rest :=
  rfl

/-- **The results of a dry run, one by one**: each depends on what those before it published. -/
theorem getElem?_rehearsal (resources : List Resource) (index : Nat) :
    (rehearsal options ids resources)[index]? = resources[index]?.map
      (rehearsed options (((rehearsal options ids resources).take index).foldl publish ids)) := by
  induction resources generalizing ids index with
  | nil => rfl
  | cons resource rest ih =>
    rw [rehearsal_cons]
    cases index with
    | zero => rfl
    | succ index => exact ih index

theorem rehearsal_records (resources : List Resource) :
    List.Forall₂ ResourceResult.Records (rehearsal options ids resources) resources := by
  induction resources generalizing ids with
  | nil => exact .nil
  | cons resource rest ih => exact .cons rehearsed_records ih

theorem exists_rehearsed_of_mem {resources : List Resource} {result : ResourceResult}
    (member : result ∈ rehearsal options ids resources) :
    ∃ before resource, result = rehearsed options before resource := by
  obtain ⟨index, there⟩ := List.mem_iff_getElem?.mp member
  rw [getElem?_rehearsal] at there
  obtain ⟨resource, _, same⟩ := Option.map_eq_some_iff.mp there
  exact ⟨_, resource, same.symm⟩

theorem serverId_of_mem_rehearsal {resources : List Resource} {result : ResourceResult}
    (member : result ∈ rehearsal options ids resources) : result.serverId = none := by
  obtain ⟨before, resource, rfl⟩ := exists_rehearsed_of_mem member
  exact rehearsed_serverId

theorem action_of_mem_rehearsal {resources : List Resource} {result : ResourceResult}
    (member : result ∈ rehearsal options ids resources) :
    result.action = .failed ∨ result.action = .skipped := by
  obtain ⟨before, resource, rfl⟩ := exists_rehearsed_of_mem member
  rw [rehearsed_action.1, rehearsed_action.2]
  exact em _

end Provision

/-! ### Teardown -/

namespace Teardown

open Dialogue

/-- The result of a resource in a dry run. -/
def rehearsed (tags : List String) (resource : Resource) : ResourceResult :=
  if isFilteredOut tags resource then
    .skipped resource none ("filtered out (no tag in " ++ Text.join ", " tags ++ ")")
  else .skipped resource none "dry run"

/-- The results of a dry run over resources. -/
def rehearsal (tags : List String) (resources : List Resource) : List ResourceResult :=
  resources.map (rehearsed tags)

variable {options : RunOptions} {scope : Scope} {tags : List String} {swept : List Kind}
  {resource : Resource}

theorem rehearsed_records : (rehearsed tags resource).Records resource := by
  unfold rehearsed
  split <;> exact ⟨rfl, rfl, rfl⟩

/-- **Every resource is skipped** in a dry run, without an identifier. -/
theorem rehearsed_skipped :
    (rehearsed tags resource).action = .skipped ∧ (rehearsed tags resource).serverId = none := by
  unfold rehearsed
  split <;> exact ⟨rfl, rfl⟩

theorem Course.eq_rehearsed {exchanges : List Exchange}
    {outcome : Except Failure (ResourceResult × List Kind)}
    (course : Course options scope tags swept resource exchanges outcome)
    (dry : options.dryRun = true) :
    outcome = .ok (rehearsed tags resource, swept) ∧ exchanges = [] := by
  have asked (wet : options.dryRun = false) : False := by
    rw [wet] at dry
    cases dry
  cases course with
  | filteredOut out => exact ⟨by rw [rehearsed, if_pos out], rfl⟩
  | dryRun kept dry => exact ⟨by rw [rehearsed, kept, if_neg Bool.false_ne_true], rfl⟩
  | cleaned kept wet cleaned => exact (asked wet).elim
  | queryFailed asks => exact (asked asks.wet).elim
  | notFound asks nothing => exact (asked asks.wet).elim
  | deletes asks targets => exact (asked asks.wet).elim

theorem settled_eq_rehearsal (resources : List Resource) :
    Walk.settled (fun swept resource => (rehearsed tags resource, swept)) swept resources =
      rehearsal tags resources := by
  induction resources with
  | nil => rfl
  | cons resource rest ih => exact congrArg (List.cons _) ih

theorem rehearsal_records (resources : List Resource) :
    List.Forall₂ ResourceResult.Records (rehearsal tags resources) resources := by
  rw [rehearsal, List.forall₂_map_left_iff, List.forall₂_same]
  exact fun resource _ => rehearsed_records

end Teardown

/-! ### Runs -/

section Run

open Dialogue

section Dry

variable {σ : Type} (service : Service σ) (state : σ) {options : RunOptions}
  (dry : options.dryRun = true) (occasion : Occasion) (document : Document)

include dry

/-- **A dry provisioning run is its results.** -/
theorem converse_provision_of_dry :
    let run := converse service state (document.provision options occasion)
    run.result = .ok (RunReport.ofWalk occasion .provision document true
        ⟨Provision.rehearsal options .empty document.resources, none⟩) ∧
      run.exchanges = [] := by
  have settles (ids : Identifiers) (state : σ) (resource : Resource) :
      let handled := converse service state
        (Provision.step options (options.scope document) ids resource)
      handled.result = .ok (Provision.rehearsed options ids resource,
        Provision.publish ids (Provision.rehearsed options ids resource)) ∧
        handled.exchanges = [] := by
    have course :=
      Provision.handle_course service state options (options.scope document) ids resource
    obtain ⟨result, silent⟩ := course.eq_rehearsed dry
    unfold Provision.step
    simp only [converse_bind, converse_pure, List.append_nil, result, silent]
    exact ⟨rfl, trivial⟩
  obtain ⟨walked, silent⟩ := Walk.visits_of_settles settles .empty state document.resources
  rw [converse_provision]
  unfold Document.provisionVisits
  dsimp only
  rw [walked, silent, dry]
  exact ⟨rfl, rfl⟩

/-- **A dry teardown is its results.** -/
theorem converse_teardown_of_dry (tags : List String) :
    let run := converse service state (document.teardown options occasion tags)
    run.result = .ok (RunReport.ofWalk occasion .teardown document true
        ⟨Teardown.rehearsal tags document.resources.reverse, none⟩) ∧
      run.exchanges = [] := by
  have settles (swept : List Kind) (state : σ) (resource : Resource) :
      let handled := converse service state
        (Teardown.handle options (options.scope document) tags swept resource)
      handled.result = .ok (Teardown.rehearsed tags resource, swept) ∧ handled.exchanges = [] :=
    (Teardown.handle_course service state options _ tags swept resource).eq_rehearsed dry
  obtain ⟨walked, silent⟩ := Walk.visits_of_settles settles [] state document.resources.reverse
  rw [converse_teardown]
  unfold Document.teardownVisits
  dsimp only
  rw [walked, silent, dry, Teardown.settled_eq_rehearsal]
  exact ⟨rfl, rfl⟩

end Dry

/-- The report with the identifier and the times of another run. -/
def RunReport.stamped (report : RunReport) (occasion : Occasion) : RunReport :=
  { report with
    runId := occasion.runId
    startedAt := occasion.startedAt
    finishedAt := some occasion.finishedAt }

/-- **Dry runs are offline.** Whatever the two services are, neither walk sends anything or is
aborted, and the reports of two dry runs are the same but for the identifiers and times of the runs.
They have one result for each resource, in the order of the walk and without an identifier. All
results of a teardown are skipped; those of provisioning are skipped unless placeholders must be
resolved and one is left in the properties, after the replacements that the results before allow:
then they are failed. -/
theorem dryRun_offline {σ τ : Type} (service : Service σ) (state : σ) (other : Service τ)
    (otherState : τ) (options : RunOptions) (dry : options.dryRun = true)
    (occasion otherOccasion : Occasion) (tags : List String) (document : Document) :
    (let run := converse service state (document.provision options occasion)
      let again := converse other otherState (document.provision options otherOccasion)
      run.exchanges = [] ∧ again.exchanges = [] ∧
        ∃ report, run.result = .ok report ∧ again.result = .ok (report.stamped otherOccasion) ∧
          List.Forall₂ ResourceResult.Records report.results document.resources ∧
          (∀ result ∈ report.results, result.serverId = none) ∧
          ∀ index resource result, document.resources[index]? = some resource →
            report.results[index]? = some result →
            let properties :=
              Provision.resolved (Provision.known (report.results.take index)) resource
            let held := options.strictReferences = true ∧
              ∃ reference, Json.References (.object properties) reference
            (result.action = .failed ↔ held) ∧ (result.action = .skipped ↔ ¬ held)) ∧
      let run := converse service state (document.teardown options occasion tags)
      let again := converse other otherState (document.teardown options otherOccasion tags)
      run.exchanges = [] ∧ again.exchanges = [] ∧
        ∃ report, run.result = .ok report ∧ again.result = .ok (report.stamped otherOccasion) ∧
          List.Forall₂ ResourceResult.Records report.results document.resources.reverse ∧
          ∀ result ∈ report.results, result.action = .skipped ∧ result.serverId = none := by
  constructor
  · obtain ⟨finished, silent⟩ := converse_provision_of_dry service state dry occasion document
    obtain ⟨again, silentToo⟩ :=
      converse_provision_of_dry other otherState dry otherOccasion document
    refine ⟨silent, silentToo, _, finished, again, Provision.rehearsal_records _,
      fun result member => Provision.serverId_of_mem_rehearsal member, ?_⟩
    intro index resource result there recorded
    have same : (Provision.rehearsal options .empty document.resources)[index]? = some result :=
      recorded
    rw [Provision.getElem?_rehearsal, there] at same
    obtain rfl := Option.some.inj same
    dsimp only
    rw [← Provision.heldBack_iff]
    exact Provision.rehearsed_action
  · obtain ⟨finished, silent⟩ := converse_teardown_of_dry service state dry occasion document tags
    obtain ⟨again, silentToo⟩ :=
      converse_teardown_of_dry other otherState dry otherOccasion document tags
    refine ⟨silent, silentToo, _, finished, again, Teardown.rehearsal_records _, ?_⟩
    intro result member
    obtain ⟨resource, _, rfl⟩ := List.mem_map.mp member
    exact Teardown.rehearsed_skipped

/-- A document with a system that refers to the location declared after it. -/
def tangled : Document :=
  { chained with resources := chained.resources.reverse }

/-- A dry run that holds back what has unresolved references. -/
def rehearsing : RunOptions := ⟨true, none, "seedbed", .fail, true⟩

/-- In a dry run of the tangled document, the system fails for want of the location, which is
skipped after it. -/
theorem dryRun_offline_tangled :
    let run := converse obliging () (tangled.provision rehearsing .epoch)
    let again := converse stocked () (tangled.provision rehearsing .epoch)
    rehearsing.dryRun = true ∧ run.exchanges = [] ∧ again.exchanges = [] ∧
      ∃ report, run.result = .ok report ∧ again.result = .ok report ∧
        report.results.map ResourceResult.action = [.failed, .skipped] := by
  obtain ⟨⟨silent, silentToo, report, finished, again, records, _, each⟩, _⟩ :=
    dryRun_offline obliging () stocked () rehearsing rfl .epoch .epoch [] tangled
  refine ⟨rfl, silent, silentToo, report, finished, ?_, ?_⟩
  · rw [again]
    cases finished
    rfl
  · have left : Json.References (.object [("location", .string "${lab}")]) "lab" :=
      Json.mem_placeholders_iff.mp (List.mem_singleton_self _)
    have nothing (reference : String) : ¬ Json.References (.object []) reference := by
      rw [Json.references_object_iff]
      exact fun ⟨field, member, _⟩ => List.not_mem_nil member
    generalize report.results = results at records each
    obtain ⟨bench, lab, rfl⟩ := List.length_eq_two.mp records.length_eq
    have failed : bench.action = .failed := (each 0 _ bench rfl rfl).1.mpr ⟨rfl, "lab", left⟩
    have skipped : lab.action = .skipped :=
      (each 1 _ lab rfl rfl).2.mpr fun held => held.2.elim nothing
    rw [List.map_cons, List.map_singleton, failed, skipped]

end Run

end ResourceGraph
