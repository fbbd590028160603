/-
**Deletions that come too late.**

Between the query before a deletion and the deletion itself, what was found may be deleted by
somebody else. The service then does not know it any more and answers the deletion with status 404.
Where resources are deleted at a path of their own that counts as nothing to delete; where their
identifiers are posted it counts as a failure like any other.

* `Kind.deletedAtPath`: the kinds that are deleted one by one at a path;
* `gone_deletionRequest_iff`: status 404 means that there was nothing to delete for these kinds
  only;
* `delete_missing`: what a deletion that comes too late comes to, and what teardown records of it.
-/

import ResourceGraph.Proofs.Teardown.Report

namespace ResourceGraph

/-- The kinds whose resources are deleted at a path of their own. -/
def Kind.deletedAtPath : List Kind := [.location, .dataTable, .notebook]

/-- Only these kinds are deleted without a body. -/
theorem Scope.method_deletionRequest_eq_delete_iff (kind : Kind) (id : String)
    (more : List String) :
    (deletionRequest kind id more).method = .delete ↔ kind ∈ Kind.deletedAtPath := by
  cases kind with
  | location | dataTable | notebook => exact iff_of_true rfl (by decide)
  | product | system | asset | dut | testResult | workflow | workItem | workOrder | file =>
    exact iff_of_false Method.noConfusion (by decide)

/-- A query that finds something is followed by the deletion. -/
theorem Scope.converse_delete_of_targets {σ : Type} {service : Service σ} {state : σ}
    {scope : Scope} {kind : Kind} {name id : String} {more : List String} {found : Json}
    (queried : (service (scope.deletionQuery kind name) state).1 = .ok found)
    (matched : scope.targets kind found = id :: more) :
    Dialogue.converse service state (scope.delete kind name).run =
      let answer := service (deletionRequest kind id more)
        (service (scope.deletionQuery kind name) state).2
      ⟨deletionOutcome kind id more answer.1, [(scope.deletionQuery kind name, .ok found),
        (deletionRequest kind id more, answer.1)], answer.2⟩ := by
  rw [converse_delete]
  dsimp only
  rw [queried]
  dsimp only
  rw [matched]

namespace Teardown

/-- **Status 404 means that there was nothing to delete only where there is a path.** -/
theorem gone_deletionRequest_iff {kind : Kind} {id message : String} {more : List String}
    {body : Option Json} :
    Gone (Scope.deletionRequest kind id more, .error (.service (.refused 404 message body))) ↔
      kind ∈ Kind.deletedAtPath := by
  rw [← Scope.method_deletionRequest_eq_delete_iff kind id more]
  exact ⟨fun gone => gone.1, fun method => ⟨method, message, body, rfl⟩⟩

end Teardown

open Dialogue Teardown in
/-- **A deletion that comes too late.** The query finds something to delete, and the deletion itself
is answered with status 404, whatever the message and the body. At a path there was then nothing to
delete: teardown skips the resource as not found. The deletion of any other kind fails: teardown
records the failure. In no case does the run end. -/
theorem delete_missing {σ : Type} (service : Service σ) (state : σ) (scope : Scope) (kind : Kind)
    (name : String) {found : Json} {id message : String} {more : List String} {body : Option Json}
    (queried : (service (scope.deletionQuery kind name) state).1 = .ok found)
    (matched : scope.targets kind found = id :: more)
    (missing : (service (Scope.deletionRequest kind id more)
        (service (scope.deletionQuery kind name) state).2).1 =
      .error (.service (.refused 404 message body))) :
    let failure := Failure.service (.refused 404 message body)
    let deleted := converse service state (scope.delete kind name).run
    deleted.exchanges = [(scope.deletionQuery kind name, .ok found),
        (Scope.deletionRequest kind id more, .error failure)] ∧
      (kind ∈ Kind.deletedAtPath → deleted.result = .ok .notFound) ∧
      (kind ∉ Kind.deletedAtPath → deleted.result = .error failure) ∧
      ∀ (document : Document) (options : RunOptions) (tags : List String),
        ∀ here ∈ document.teardownVisits service state options tags,
          here.exchanges = deleted.exchanges →
            here.cause? = none ∧
              (kind ∈ Kind.deletedAtPath →
                here.recorded = .skipped here.resource none "not found") ∧
              (kind ∉ Kind.deletedAtPath →
                here.recorded = .failed here.resource failure.describe) := by
  intro failure deleted
  have conversation : deleted = _ := Scope.converse_delete_of_targets queried matched
  dsimp only at conversation
  rw [missing] at conversation
  have exchanged := congrArg Conversation.exchanges conversation
  have fails (among : Kind) (posted : kind ∉ Kind.deletedAtPath) :
      Fails among (Scope.deletionRequest kind id more, .error failure) failure :=
    .answered fun gone => posted (gone_deletionRequest_iff.mp gone)
  refine ⟨exchanged, fun atPath => ?_, fun posted => ?_, ?_⟩
  · rw [conversation]
    exact deletionOutcome_of_gone (gone_deletionRequest_iff.mpr atPath)
  · rw [conversation]
    exact deletionOutcome_eq_error_iff.mpr (fails kind posted)
  · intro document options tags here visit alike
    have told := visit_told service state options _ tags visit
    have member : (Scope.deletionRequest kind id more, .error failure) ∈ here.exchanges := by
      rw [alike, exchanged]
      exact List.mem_cons_of_mem _ List.mem_cons_self
    by_cases atPath : kind ∈ Kind.deletedAtPath
    · obtain ⟨skipped, goesOn⟩ := told.of_gone member (gone_deletionRequest_iff.mpr atPath)
      exact ⟨goesOn, fun _ => skipped, fun posted => absurd atPath posted⟩
    · obtain ⟨failed, ends⟩ := told.of_fails member (fails here.resource.kind atPath)
      have harmless : ¬ failure.EndsRun := fun fatal =>
        Bool.noConfusion (Failure.isFatal_iff_endsRun.mpr fatal)
      exact ⟨ends.mpr harmless, fun path => absurd path atPath, fun _ => failed⟩

/-- A document with a product in a location. -/
def stockroom : Document where
  formatVersion := "1.0"
  name := "stockroom"
  title := "Stockroom"
  description := none
  author := none
  tags := []
  setupMinutes := none
  resources := [⟨.location, "Shelf", [], "shelf", []⟩, ⟨.product, "Cell", [], "cell", []⟩]

/-- What an outdated service says it has. -/
def stockroomEntries : Json :=
  .object [("locations", .array [.object [("id", .string "loc-1")]]),
    ("products", .array [.object [("id", .string "p-1")]])]

/-- A service whose queries find what is not there any more. -/
def outdated : Service Unit := fun request _ =>
  (if request.method = .delete ∨ request.path = "/nitestmonitor/v2/delete-products"
    then .error (.service (.refused 404 "gone" none)) else .ok stockroomEntries, ())

/-- The visit of the product. -/
def cellRemoval : Visit Unit (List Kind) :=
  Walk.visit outdated (Teardown.handle thoroughly (thoroughly.scope stockroom) []) [] ()
    ⟨.product, "Cell", [], "cell", []⟩

/-- A product that is gone fails, and the run goes on. -/
theorem delete_missing_stockroom :
    let failure := Failure.service (.refused 404 "gone" none)
    let scope := thoroughly.scope stockroom
    cellRemoval ∈ stockroom.teardownVisits outdated () thoroughly [] ∧
      (Dialogue.converse outdated () (scope.delete .product "Cell").run).result = .error failure ∧
      cellRemoval.recorded = .failed cellRemoval.resource failure.describe ∧
      (Dialogue.converse outdated () (scope.delete .location "Shelf").run).result =
        .ok .notFound := by
  intro failure scope
  have visit : cellRemoval ∈ stockroom.teardownVisits outdated () thoroughly [] :=
    List.mem_cons_self
  obtain ⟨_, _, failed, visits⟩ := delete_missing outdated () scope .product "Cell" rfl rfl rfl
  obtain ⟨_, _, recorded⟩ := visits stockroom thoroughly [] cellRemoval visit rfl
  obtain ⟨_, skipped, _⟩ := delete_missing outdated () scope .location "Shelf" rfl rfl rfl
  exact ⟨visit, failed (by decide), recorded (by decide), skipped (by decide)⟩

end ResourceGraph
