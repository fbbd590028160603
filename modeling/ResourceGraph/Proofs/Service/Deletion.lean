/-
**What a deletion exchanges.**

A deletion is a query, followed by one request that carries what the query found, if it found
anything. The query is restricted to the scope; a kind that is swept is deleted as a whole, any
other by name.

* `Request.IsDeletion`: the requests that delete; queries and creations are none of them;
* `converse_delete`: the conversation of a deletion, for any service;
* `deletionQuery_of_isSwept`, `deletionQuery_of_not_isSwept`: what the query is;
* `targets_eq_cons`: what is taken from its reply;
* `deletionOutcome_eq_ok`: when a deletion counts as done.
-/

import ResourceGraph.Proofs.Json.Fields
import ResourceGraph.Proofs.Service.Calls

namespace ResourceGraph

theorem Json.ofTexts_injective : Function.Injective Json.ofTexts := by
  intro first second same
  exact (List.map_inj_right fun _ _ => Json.string.inj).mp (Json.array.inj same)

/-! ### Which requests delete -/

/-- Where identifiers to delete are posted. -/
def Kind.deletionPath? (kind : Kind) : Option String :=
  match kind.endpoint.deletion with
  | .atPath _ => none
  | .posted path _ _ _ => some path
  | .sweep path _ _ => some path

/-- Below what path resources are deleted one by one. -/
def Kind.collection? (kind : Kind) : Option String :=
  match kind.endpoint.deletion with
  | .atPath collection => some collection
  | _ => none

/-- The request deletes resources of some kind. -/
def Request.IsDeletion (request : Request) : Prop :=
  request.method = .delete ∨ ∃ kind : Kind, kind.deletionPath? = some request.path

theorem Kind.mem_all (kind : Kind) : kind ∈ Kind.all := by
  cases kind <;> decide

/-- Nothing is queried or created where identifiers to delete are posted. -/
theorem Kind.deletionPath?_ne (kind other : Kind) :
    kind.deletionPath? ≠ some other.endpoint.queryPath ∧
      kind.deletionPath? ≠ some other.endpoint.createPath := by
  have all : ∀ kind ∈ Kind.all, ∀ other ∈ Kind.all,
      kind.deletionPath? ≠ some other.endpoint.queryPath ∧
        kind.deletionPath? ≠ some other.endpoint.createPath := by
    decide +kernel
  exact all kind kind.mem_all other other.mem_all

theorem Request.not_isDeletion_post {path : String}
    (apart : ∀ kind, Kind.deletionPath? kind ≠ some path)
    (body : Json) : ¬ (Request.post path body).IsDeletion := by
  rintro (deletes | ⟨kind, posted⟩)
  · cases deletes
  · exact apart kind posted

namespace Scope

open Dialogue

theorem not_isDeletion_query (kind : Kind) (filter : Filter) (limit : Nat) :
    ¬ (queryRequest kind.endpoint filter limit).IsDeletion :=
  Request.not_isDeletion_post (fun other => (other.deletionPath?_ne kind).1) _

theorem not_isDeletion_create (scope : Scope) (kind : Kind) (name : String) (properties : Fields) :
    ¬ (scope.createRequest kind.endpoint name properties).IsDeletion :=
  Request.not_isDeletion_post (fun other => (other.deletionPath?_ne kind).2) _

/-! ### The calls -/

section Converse

variable {σ : Type} (service : Service σ) (state : σ) (scope : Scope)

theorem converse_postDeletion (path idsKey : String) (constants : Fields) (failed : String)
    (ids : List String) (outcome : DeleteOutcome) :
    converse service state (do
        postDeletion path idsKey constants failed ids
        return outcome : Attempt DeleteOutcome).run =
      let deletion := Request.post path (.object (constants.insert idsKey (Json.ofTexts ids)))
      let reply := service deletion state
      ⟨reply.1.bind fun answer => (deletionProblem? failed answer).elim (.ok outcome) .error,
        [(deletion, reply.1)], reply.2⟩ := by
  unfold postDeletion
  simp only [converse_run_bind, converse_run_request]
  cases (service _ state).1 with
  | error failure => rfl
  | ok answer =>
    simp only [Except.bind]
    cases deletionProblem? failed answer with
    | none => rfl
    | some problem => rfl

theorem converse_deleteAt (collection id : String) :
    converse service state (deleteAt collection id).run =
      let deletion := Request.delete (collection ++ "/" ++ id)
      let reply := service deletion state
      ⟨match reply.1 with
        | .ok _ => .ok (.deleted id)
        | .error failure => if isMissing failure then .ok .notFound else .error failure,
        [(deletion, reply.1)], reply.2⟩ := by
  unfold deleteAt
  simp only [converse_run_tryCatch, converse_run_bind, converse_run_request]
  cases (service _ state).1 with
  | ok answer => rfl
  | error failure => cases missing : isMissing failure <;> simp [missing]

/-- The query before a deletion. -/
def deletionQuery (kind : Kind) (name : String) : Request :=
  match kind.endpoint.deletion with
  | .sweep _ _ limit => queryRequest kind.endpoint (scope.sweepFilter kind.endpoint) limit
  | _ => scope.lookupRequest kind name

/-- What a deletion takes from the reply to its query: the first match, or all of them in a
sweep. -/
def targets (kind : Kind) (found : Json) : List String :=
  match kind.endpoint.deletion with
  | .sweep .. => (entriesUnder kind.endpoint.collection found).filterMap idOf?
  | _ => (scope.matchesIn kind.endpoint found).head?.toList

/-- The request that deletes one identifier, and in a sweep some more. -/
def deletionRequest (kind : Kind) (id : String) (more : List String) : Request :=
  match kind.endpoint.deletion with
  | .atPath collection => .delete (collection ++ "/" ++ id)
  | .posted path idsKey constants _ =>
    .post path (.object (constants.insert idsKey (Json.ofTexts [id])))
  | .sweep path _ _ =>
    .post path (.object (Fields.insert "ids" (Json.ofTexts (id :: more)) []))

theorem exists_atPath_of_not_post {kind : Kind} {id : String} {more : List String}
    (unposted : (deletionRequest kind id more).method ≠ .post) :
    ∃ collection, kind.endpoint.deletion = .atPath collection := by
  unfold deletionRequest at unposted
  cases manner : kind.endpoint.deletion with
  | atPath collection => exact ⟨collection, rfl⟩
  | posted path idsKey constants failed =>
    rw [manner] at unposted
    exact absurd rfl unposted
  | sweep path failed limit =>
    rw [manner] at unposted
    exact absurd rfl unposted

/-- A deletion that is posted goes where the identifiers of its kind are posted. -/
theorem deletionPath?_of_post {kind : Kind} {id : String} {more : List String}
    (posted : (deletionRequest kind id more).method = .post) :
    kind.deletionPath? = some (deletionRequest kind id more).path := by
  unfold deletionRequest at posted ⊢
  unfold Kind.deletionPath?
  cases manner : kind.endpoint.deletion with
  | atPath collection =>
    rw [manner] at posted
    cases posted
  | posted path idsKey constants failed => rfl
  | sweep path failed limit => rfl

/-- What a deletion did, read from its reply. -/
def deletionOutcome (kind : Kind) (id : String) (more : List String) (reply : Reply) :
    Except Failure DeleteOutcome :=
  match kind.endpoint.deletion with
  | .atPath _ =>
    match reply with
    | .ok _ => .ok (.deleted id)
    | .error failure => if isMissing failure then .ok .notFound else .error failure
  | .posted _ _ _ failed =>
    reply.bind fun answer => (deletionProblem? failed answer).elim (.ok (.deleted id)) .error
  | .sweep _ failed _ =>
    reply.bind fun answer =>
      (deletionProblem? failed answer).elim (.ok (.swept (id :: more))) .error

/-- **The conversation of a deletion**: a query, and then one request about what it found. -/
theorem converse_delete (kind : Kind) (name : String) :
    converse service state (scope.delete kind name).run =
      let query := scope.deletionQuery kind name
      let reply := service query state
      match reply.1 with
      | .error failure => ⟨.error failure, [(query, .error failure)], reply.2⟩
      | .ok found =>
        match scope.targets kind found with
        | [] => ⟨.ok .notFound, [(query, .ok found)], reply.2⟩
        | id :: more =>
          let deletion := deletionRequest kind id more
          let answer := service deletion reply.2
          ⟨deletionOutcome kind id more answer.1, [(query, .ok found), (deletion, answer.1)],
            answer.2⟩ := by
  unfold delete deletionQuery targets deletionRequest deletionOutcome
  cases manner : kind.endpoint.deletion with
  | atPath collection =>
    simp only [manner, converse_run_bind, converse_find]
    cases (service _ state).1 with
    | error failure => rfl
    | ok found =>
      simp only [Except.map]
      cases (scope.matchesIn kind.endpoint found).head? with
      | none => rfl
      | some id => simp only [converse_deleteAt, Option.toList, List.cons_append, List.nil_append]
  | posted path idsKey constants failed =>
    simp only [manner, converse_run_bind, converse_find]
    cases (service _ state).1 with
    | error failure => rfl
    | ok found =>
      simp only [Except.map]
      cases (scope.matchesIn kind.endpoint found).head? with
      | none => rfl
      | some id =>
        simp only [converse_postDeletion, Option.toList, List.cons_append, List.nil_append]
  | sweep path failed limit =>
    simp only [manner, sweep, converse_run_bind, converse_run_request]
    cases (service _ state).1 with
    | error failure => rfl
    | ok found =>
      dsimp only
      cases (entriesUnder kind.endpoint.collection found).filterMap idOf? with
      | nil => rfl
      | cons id more =>
        simp only [List.isEmpty_cons, Bool.false_eq_true, if_false, converse_postDeletion,
          List.cons_append, List.nil_append]

end Converse

/-! ### What a deletion carries -/

/-- The identifiers that a deletion carries: one, or in a sweep some more. -/
def carried (kind : Kind) (id : String) (more : List String) : List String :=
  if kind.isSwept then id :: more else [id]

theorem deletion_eq_of_atPath {kind other : Kind} {collection otherCollection id otherId : String}
    (manner : kind.endpoint.deletion = .atPath collection)
    (otherManner : other.endpoint.deletion = .atPath otherCollection)
    (same : collection ++ "/" ++ id = otherCollection ++ "/" ++ otherId) :
    kind.endpoint.deletion = other.endpoint.deletion := by
  -- the fourth character names the service
  have start (text rest : String) (long : 4 ≤ text.toList.length) :
      (text ++ "/" ++ rest).toList.take 4 = text.toList.take 4 := by
    rw [String.toList_append, String.toList_append, List.append_assoc,
      List.take_append_of_le_length long]
  have long : ∀ kind ∈ Kind.all, ∀ collection ∈ kind.collection?, 4 ≤ collection.toList.length := by
    decide +kernel
  have apart : ∀ kind ∈ Kind.all, ∀ other ∈ Kind.all, ∀ collection ∈ kind.collection?,
      ∀ otherCollection ∈ other.collection?,
        collection.toList.take 4 = otherCollection.toList.take 4 →
          kind.endpoint.deletion = other.endpoint.deletion := by
    decide +kernel
  have among : collection ∈ kind.collection? := by
    rw [Kind.collection?, manner, Option.mem_def]
  have otherAmong : otherCollection ∈ other.collection? := by
    rw [Kind.collection?, otherManner, Option.mem_def]
  refine apart kind kind.mem_all other other.mem_all collection among otherCollection otherAmong ?_
  have starts := congrArg (fun path => path.toList.take 4) same
  rw [start _ _ (long kind kind.mem_all _ among),
    start _ _ (long other other.mem_all _ otherAmong)] at starts
  exact starts

theorem deletion_eq_of_deletionRequest {kind other : Kind} {id otherId : String}
    {more otherMore : List String}
    (same : deletionRequest kind id more = deletionRequest other otherId otherMore) :
    kind.endpoint.deletion = other.endpoint.deletion := by
  by_cases posted : (deletionRequest kind id more).method = .post
  · have path := deletionPath?_of_post posted
    rw [same] at posted path
    have otherPath := deletionPath?_of_post posted
    have all : ∀ kind ∈ Kind.all, ∀ other ∈ Kind.all, kind.deletionPath? = other.deletionPath? →
        kind.deletionPath?.isSome = true → kind.endpoint.deletion = other.endpoint.deletion := by
      decide +kernel
    refine all kind kind.mem_all other other.mem_all (path.trans otherPath.symm) ?_
    rw [path]
    rfl
  · have otherPosted := posted
    rw [same] at otherPosted
    obtain ⟨collection, manner⟩ := exists_atPath_of_not_post posted
    obtain ⟨otherCollection, otherManner⟩ := exists_atPath_of_not_post otherPosted
    simp only [deletionRequest, manner, otherManner, Request.delete, Request.mk.injEq] at same
    exact deletion_eq_of_atPath manner otherManner same.2.1

/-- **A deletion tells what it carries.** -/
theorem carried_eq_of_deletionRequest {kind other : Kind} {id otherId : String}
    {more otherMore : List String}
    (same : deletionRequest kind id more = deletionRequest other otherId otherMore) :
    carried kind id more = carried other otherId otherMore := by
  have manner := deletion_eq_of_deletionRequest same
  unfold deletionRequest at same
  unfold carried Kind.isSwept
  rw [manner] at same ⊢
  generalize other.endpoint.deletion = manner at same ⊢
  cases manner with
  | atPath collection =>
    have paths : collection ++ "/" ++ id = collection ++ "/" ++ otherId :=
      congrArg Request.path same
    exact congrArg (fun given => [given]) ((String.append_right_inj _).mp paths)
  | posted path idsKey constants failed =>
    have bodies : (Json.object (constants.insert idsKey (Json.ofTexts [id]))).field? idsKey =
        (Json.object (constants.insert idsKey (Json.ofTexts [otherId]))).field? idsKey :=
      congrArg (fun request => request.body.bind (·.field? idsKey)) same
    rw [Json.field?, Json.field?, Fields.get?_insert_self, Fields.get?_insert_self] at bodies
    cases bodies
    rfl
  | sweep path failed limit =>
    have bodies : some (Json.ofTexts (id :: more)) = some (Json.ofTexts (otherId :: otherMore)) :=
      congrArg (fun request => request.body.bind (·.field? "ids")) same
    exact Json.ofTexts_injective (Option.some.inj bodies)

end Scope

/-- The request deletes what has the identifier, perhaps with others. -/
def Request.Deletes (request : Request) (id : String) : Prop :=
  ∃ kind first more, request = Scope.deletionRequest kind first more ∧
    id ∈ Scope.carried kind first more

theorem Request.deletes_deletionRequest_iff {kind : Kind} {first id : String} {more : List String} :
    (Scope.deletionRequest kind first more).Deletes id ↔ id ∈ Scope.carried kind first more := by
  constructor
  · rintro ⟨other, given, others, same, member⟩
    rw [Scope.carried_eq_of_deletionRequest same]
    exact member
  · exact fun member => ⟨kind, first, more, rfl, member⟩

namespace Scope

/-! ### Queries and what they find -/

/-- Before a sweep, 1000 resources that carry the cleanup tag are asked for. -/
theorem deletionQuery_of_isSwept {kind : Kind} (sweeps : kind.isSwept = true) (scope : Scope)
    (name : String) : scope.deletionQuery kind name =
      queryRequest kind.endpoint (scope.sweepFilter kind.endpoint) 1000 := by
  cases kind with
  | testResult => rfl
  | file => rfl
  | _ => cases sweeps

/-- Before a deletion by name, the resource is looked up. -/
theorem deletionQuery_of_not_isSwept {kind : Kind} (unswept : kind.isSwept = false) (scope : Scope)
    (name : String) : scope.deletionQuery kind name = scope.lookupRequest kind name := by
  unfold Kind.isSwept at unswept
  unfold deletionQuery
  cases manner : kind.endpoint.deletion with
  | atPath collection => rfl
  | posted path idsKey constants failed => rfl
  | sweep path failed limit =>
    rw [manner] at unswept
    cases unswept

/-- What comes before a deletion is a query. -/
theorem exists_deletionQuery_eq (scope : Scope) (kind : Kind) (name : String) :
    ∃ filter limit, scope.deletionQuery kind name = queryRequest kind.endpoint filter limit := by
  cases sweeps : kind.isSwept with
  | true => exact ⟨_, _, deletionQuery_of_isSwept sweeps scope name⟩
  | false => exact ⟨_, _, deletionQuery_of_not_isSwept sweeps scope name⟩

/-- A deletion by name takes the first match, a sweep all usable identifiers. -/
theorem targets_eq_cons {scope : Scope} {kind : Kind} {found : Json} {id : String}
    {more : List String} (targets : scope.targets kind found = id :: more) :
    (kind.isSwept = false → more = [] ∧ scope.Finds kind found id) ∧
      (kind.isSwept = true →
        id :: more = (entriesUnder kind.endpoint.collection found).filterMap idOf?) := by
  unfold Scope.targets at targets
  unfold Kind.isSwept
  have first (only : (scope.matchesIn kind.endpoint found).head?.toList = id :: more) :
      more = [] ∧ scope.Finds kind found id := by
    rw [← head?_matchesIn_eq_some_iff]
    cases matched : (scope.matchesIn kind.endpoint found).head? with
    | none =>
      rw [matched] at only
      cases only
    | some given =>
      rw [matched] at only
      cases only
      exact ⟨rfl, rfl⟩
  cases manner : kind.endpoint.deletion with
  | atPath collection =>
    rw [manner] at targets
    exact ⟨fun _ => first targets, fun swept => Bool.noConfusion swept⟩
  | posted path idsKey constants failed =>
    rw [manner] at targets
    exact ⟨fun _ => first targets, fun swept => Bool.noConfusion swept⟩
  | sweep path failed limit =>
    rw [manner] at targets
    exact ⟨fun unswept => Bool.noConfusion unswept, fun _ => targets.symm⟩

theorem mem_targets_ne_empty {scope : Scope} {kind : Kind} {found : Json} {id : String}
    (member : id ∈ scope.targets kind found) : id ≠ "" := by
  unfold targets at member
  split at member
  · exact mem_filterMap_idOf?_ne_empty member
  · exact scope.mem_matchesIn_ne_empty (List.mem_of_mem_head? (Option.mem_toList.mp member))

/-! ### Replies to deletions -/

theorem deletionProblem?_eq_none_iff {failed : String} {answer : Json} :
    deletionProblem? failed answer = none ↔ entriesUnder failed answer = [] := by
  unfold deletionProblem?
  cases entriesUnder failed answer with
  | nil => exact iff_of_true rfl rfl
  | cons entry rest =>
    constructor
    · intro none
      cases none
    · intro empty
      cases empty

/-- The list in a reply that tells what was not deleted. -/
def failedKey? (kind : Kind) : Option String :=
  match kind.endpoint.deletion with
  | .atPath _ => none
  | .posted _ _ _ failed => some failed
  | .sweep _ failed _ => some failed

/-- The request was answered, and nothing is listed as failed. -/
def Accepted (kind : Kind) (reply : Reply) : Prop :=
  ∃ answer, reply = .ok answer ∧
    ∀ failed, failedKey? kind = some failed → entriesUnder failed answer = []

/-- A posted deletion has an outcome only if nothing is listed as failed. -/
theorem exists_of_bind_deletionProblem? {failed : String} {reply : Reply}
    {outcome done : DeleteOutcome}
    (passes : (reply.bind fun answer =>
      (deletionProblem? failed answer).elim (.ok outcome) .error) = .ok done) :
    done = outcome ∧ ∃ answer, reply = .ok answer ∧ entriesUnder failed answer = [] := by
  cases reply with
  | error failure => cases passes
  | ok answer =>
    rw [Except.bind] at passes
    cases problem : deletionProblem? failed answer with
    | some failure =>
      rw [problem] at passes
      cases passes
    | none =>
      rw [problem] at passes
      cases passes
      exact ⟨rfl, answer, rfl, deletionProblem?_eq_none_iff.mp problem⟩

/-- **When a deletion counts as done**: it was accepted, or at a path there was nothing to
delete. -/
theorem deletionOutcome_eq_ok {kind : Kind} {id : String} {more : List String} {reply : Reply}
    {done : DeleteOutcome} (passes : deletionOutcome kind id more reply = .ok done) :
    done = .notFound ∨ (done = .deleted id ∨ done = .swept (id :: more)) ∧ Accepted kind reply := by
  unfold deletionOutcome at passes
  unfold Accepted failedKey?
  cases manner : kind.endpoint.deletion with
  | atPath collection =>
    rw [manner] at passes
    cases reply with
    | ok answer =>
      cases passes
      refine Or.inr ⟨Or.inl rfl, answer, rfl, fun failed listed => ?_⟩
      cases listed
    | error failure =>
      dsimp only at passes
      split at passes
      · cases passes
        exact Or.inl rfl
      · cases passes
  | posted path idsKey constants failed =>
    rw [manner] at passes
    obtain ⟨rfl, answer, rfl, none⟩ := exists_of_bind_deletionProblem? passes
    refine Or.inr ⟨Or.inl rfl, answer, rfl, fun key listed => ?_⟩
    cases listed
    exact none
  | sweep path failed limit =>
    rw [manner] at passes
    obtain ⟨rfl, answer, rfl, none⟩ := exists_of_bind_deletionProblem? passes
    refine Or.inr ⟨Or.inr rfl, answer, rfl, fun key listed => ?_⟩
    cases listed
    exact none

end Scope

end ResourceGraph
