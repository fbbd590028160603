/-
**A service that stores what is posted.**

Every entry posted to create a resource is stored, under an identifier of its own, and a look-up is
answered with the stored entries which its filter selects. Nothing else is asked of the service: in
which order it lists entries and how it makes identifiers is left open.

* `Stored`: a stored entry; `identifies_shown` says what a look-up reads from it;
* `Stores`: such a service;
* `eq_or_of_createPath_eq`: only assets and devices under test share a collection;
* `answers_posted`: a look-up finds what was posted for the same collection and name;
* `warehouse`: a service of this sort; `warehouse_stores` says that it is one.
-/

import ResourceGraph.Proofs.Service.Calls
import ResourceGraph.Proofs.Service.Entry
import ResourceGraph.Proofs.Service.Filter

namespace ResourceGraph

/-! ### Stored entries -/

/-- An entry that a service stores. -/
structure Stored where
  /-- Where it was posted. -/
  path : String
  id : String
  fields : Fields
deriving DecidableEq, Repr

namespace Stored

/-- The entry in a reply, with its identifier. -/
def shown (stored : Stored) : Json :=
  .object (stored.fields.insert "id" (.string stored.id))

/-- The entry is in the collection of the kind, and the filter selects it. -/
def isSelected (kind : Kind) (filter : Filter) (stored : Stored) : Bool :=
  decide (stored.path = kind.endpoint.createPath) && filter.selects (.object stored.fields)

/-- The entry is in the collection of the kind and carries the cleanup tag. -/
def Carries (scope : Scope) (kind : Kind) (stored : Stored) : Prop :=
  stored.isSelected kind [kind.endpoint.tagClause scope.tag] = true ∧
    scope.isMatch kind.endpoint (.object stored.fields) = true

/-- A look-up identifies the entry. -/
def Answers (scope : Scope) (kind : Kind) (name : String) (stored : Stored) : Prop :=
  stored.isSelected kind (scope.lookupFilter kind.endpoint name) = true ∧
    stored.id ≠ "" ∧ scope.isMatch kind.endpoint (.object stored.fields) = true

section

variable {scope : Scope} {kind : Kind} {name : String} {stored : Stored}

theorem isSelected_iff {filter : Filter} : stored.isSelected kind filter = true ↔
    stored.path = kind.endpoint.createPath ∧ filter.selects (.object stored.fields) = true := by
  rw [isSelected, Bool.and_eq_true, decide_eq_true_iff]

theorem isMatch_shown (endpoint : Endpoint) :
    scope.isMatch endpoint stored.shown = scope.isMatch endpoint (.object stored.fields) := by
  have custom : Json.field? "properties" stored.shown =
      Json.field? "properties" (.object stored.fields) :=
    Fields.get?_insert_of_ne (by decide) _ _
  unfold Scope.isMatch Scope.carriesTag
  rw [custom]

theorem identifies_shown {id : String} : scope.Identifies kind stored.shown id ↔
    stored.id = id ∧ id ≠ "" ∧ scope.isMatch kind.endpoint (.object stored.fields) = true := by
  have named : Json.field? "id" stored.shown = some (.string stored.id) :=
    Fields.get?_insert_self _ _ _
  have usable : idOf? stored.shown = some id ↔ stored.id = id ∧ id ≠ "" := by
    rw [idOf?, idUnder?, named]
    by_cases empty : stored.id = ""
    · rw [empty]
      exact iff_of_false (fun found => Option.some_ne_none id found.symm) fun both =>
        both.2 both.1.symm
    · have filled : stored.id.isEmpty = false := by
        rw [← Bool.not_eq_true, String.isEmpty_iff]
        exact empty
      simp only [filled, Bool.false_eq_true, if_false, Option.some.injEq]
      exact ⟨fun same => ⟨same, fun none => empty (same.trans none)⟩, And.left⟩
  rw [Scope.Identifies, usable, ← scope.isMatch_iff, isMatch_shown, and_assoc]

/-- What a look-up identifies carries the cleanup tag. -/
theorem Answers.carries (answers : stored.Answers scope kind name) : stored.Carries scope kind := by
  obtain ⟨selected, _, matched⟩ := answers
  obtain ⟨path, clauses⟩ := isSelected_iff.mp selected
  have tagged := List.all_eq_true.mp clauses (kind.endpoint.tagClause scope.tag)
    (List.mem_cons_of_mem _ List.mem_cons_self)
  refine ⟨isSelected_iff.mpr ⟨path, ?_⟩, matched⟩
  exact List.all_eq_true.mpr (List.forall_mem_singleton.mpr tagged)

end

end Stored

/-- **The service stores what is posted**, and answers look-ups from it. -/
structure Stores {σ : Type} (service : Service σ) (scope : Scope) (held : σ → List Stored) :
    Prop where
  /-- A look-up is answered with the entries that its filter selects, in any order. -/
  answers : ∀ kind name state, ∃ found after,
    service (scope.lookupRequest kind name) state = (.ok found, after) ∧ held after = held state ∧
      (entriesUnder kind.endpoint.collection found).Perm
        (((held state).filter
          (Stored.isSelected kind (scope.lookupFilter kind.endpoint name))).map Stored.shown)
  /-- An entry that is posted is stored under a new identifier, which the reply names. -/
  stores : ∀ (kind : Kind) (request : Request) (fields : Fields) (state : σ),
    request.method = .post → request.path = kind.endpoint.createPath →
      kind.endpoint.entryIn? request = some (.object fields) →
        ∃ reply id after, service request state = (.ok reply, after) ∧
          Scope.createOutcome kind.endpoint reply = .created id ∧
          id ∉ (held state).map Stored.id ∧ held after = held state ++ [⟨request.path, id, fields⟩]

/-! ### Collections -/

/-- Only assets and devices under test are posted to the same place. -/
theorem Kind.eq_or_of_createPath_eq {kind other : Kind}
    (same : kind.endpoint.createPath = other.endpoint.createPath) :
    kind = other ∨ (kind = .asset ∧ other = .dut ∨ kind = .dut ∧ other = .asset) := by
  have all : ∀ kind ∈ Kind.all, ∀ other ∈ Kind.all,
      kind.endpoint.createPath = other.endpoint.createPath →
        kind = other ∨ (kind = .asset ∧ other = .dut ∨ kind = .dut ∧ other = .asset) := by
    decide +kernel
  exact all kind kind.mem_all other other.mem_all same

/-- What is posted to the same place is looked up and read in the same way. -/
theorem Kind.endpoint_eq_of_createPath_eq {kind other : Kind}
    (same : kind.endpoint.createPath = other.endpoint.createPath) :
    ∃ defaults, other.endpoint = { kind.endpoint with defaults := defaults } := by
  rcases eq_or_of_createPath_eq same with rfl | ⟨rfl, rfl⟩ | ⟨rfl, rfl⟩
  · exact ⟨kind.endpoint.defaults, rfl⟩
  · exact ⟨_, rfl⟩
  · exact ⟨_, rfl⟩

namespace Stored

variable {scope : Scope} {kind other : Kind} {name otherName id : String} {properties : Fields}

/-- What a look-up finds was posted for the same collection and name. -/
theorem Answers.of_posted
    (answers : Answers scope other otherName
      ⟨kind.endpoint.createPath, id, scope.createdFields kind.endpoint name properties⟩) :
    kind.endpoint.createPath = other.endpoint.createPath ∧ name = otherName := by
  obtain ⟨path, clauses⟩ := isSelected_iff.mp answers.1
  obtain ⟨defaults, same⟩ := Kind.endpoint_eq_of_createPath_eq path
  have named := List.all_eq_true.mp clauses (other.endpoint.nameClause otherName) List.mem_cons_self
  rw [same] at named
  exact ⟨path, ((scope.holds_nameClause).mp named).symm⟩

/-- **A look-up finds what was posted** for the same collection and name, where no workspace is
configured and the cleanup tag counts wherever it stands. -/
theorem answers_posted (unscoped : scope.workspace = none)
    (path : kind.endpoint.createPath = other.endpoint.createPath)
    (plain : other.endpoint.carrier ≠ .joinedTag) (filled : id ≠ "") :
    Answers scope other name
      ⟨kind.endpoint.createPath, id, scope.createdFields kind.endpoint name properties⟩ := by
  refine ⟨isSelected_iff.mpr ⟨path, ?_⟩, filled, ?_⟩
  · obtain ⟨defaults, same⟩ := Kind.endpoint_eq_of_createPath_eq path
    have clauses : scope.lookupFilter other.endpoint name =
        [kind.endpoint.nameClause name, kind.endpoint.tagClause scope.tag] := by
      rw [Scope.lookupFilter, unscoped, same]
      rfl
    rw [clauses, Filter.selects, List.all_cons, List.all_cons, scope.holds_nameClause.mpr rfl,
      scope.holds_tagClause]
    rfl
  · unfold Scope.isMatch
    split
    · rename_i joined
      exact absurd joined plain
    · rfl

end Stored

/-! ### A service that stores -/

section Warehouse

/-- The reply to a call that creates, with the identifier where the kind's calls read it. -/
def CreateReply.naming (id : String) : CreateReply → Json
  | single key => .object [(key, .string id)]
  | batch created _ => .object [(created, .array [.object [("id", .string id)]])]
  | upload => .object [("id", .string id)]

/-- How long the identifiers of some entries are together. -/
def Stored.idsLength : List Stored → Nat
  | [] => 0
  | stored :: rest => stored.id.length + idsLength rest

/-- An identifier that is longer than all that are there. -/
def freshId (held : List Stored) : String :=
  String.ofList (List.replicate (Stored.idsLength held + 1) 'r')

/-- The filter of a query. -/
def Request.filter? (request : Request) : Option Filter :=
  ((request.body.bind (·.field? "filter")).bind (·.text?)).bind Filter.read?

/-- A service that stores what is posted, and reads the filters of queries. -/
def warehouse : Service (List Stored) := fun request held =>
  match Kind.all.find? fun kind => kind.endpoint.createPath = request.path with
  | some kind =>
    match kind.endpoint.entryIn? request with
    | some (.object fields) =>
      (.ok (kind.endpoint.createReply.naming (freshId held)),
        held ++ [⟨request.path, freshId held, fields⟩])
    | _ => (.ok .null, held)
  | none =>
    match Kind.all.find? fun kind => kind.endpoint.queryPath = request.path with
    | some kind =>
      (.ok (.object [(kind.endpoint.collection, .array ((held.filter
        (Stored.isSelected kind (request.filter?.getD []))).map Stored.shown))]), held)
    | none => (.ok .null, held)

theorem freshId_ne_empty (held : List Stored) : freshId held ≠ "" := by
  rw [freshId, ne_eq, String.ofList_eq_empty_iff]
  exact List.cons_ne_nil _ _

theorem Stored.length_id_le {stored : Stored} {held : List Stored} (member : stored ∈ held) :
    stored.id.length ≤ idsLength held := by
  induction held with
  | nil => cases member
  | cons first rest ih =>
    rcases List.mem_cons.mp member with rfl | later
    · exact Nat.le_add_right _ _
    · exact (ih later).trans (Nat.le_add_left _ _)

theorem freshId_not_mem (held : List Stored) : freshId held ∉ held.map Stored.id := by
  intro member
  obtain ⟨stored, among, same⟩ := List.mem_map.mp member
  have long : stored.id.length = Stored.idsLength held + 1 := by
    rw [same, freshId, String.length_ofList, List.length_replicate]
  have bound := Stored.length_id_le among
  omega

theorem createOutcome_naming (endpoint : Endpoint) {id : String} (filled : id ≠ "") :
    Scope.createOutcome endpoint (endpoint.createReply.naming id) = .created id := by
  have named (key : String) : idUnder? key (.object [(key, .string id)]) = some id := by
    have nonempty : id.isEmpty = false := by
      rw [← Bool.not_eq_true, String.isEmpty_iff]
      exact filled
    simp only [idUnder?, Json.field?, Fields.get?, if_true, nonempty, Bool.false_eq_true, if_false]
  unfold Scope.createOutcome
  cases endpoint.createReply with
  | single key =>
    show CreateOutcome.ofSingle key _ = _
    rw [CreateReply.naming, CreateOutcome.ofSingle, named]
    rfl
  | batch created failed =>
    show CreateOutcome.ofBatch created failed _ = _
    have entries : entriesUnder created
        (.object [(created, .array [.object [("id", .string id)]])]) =
        [.object [("id", .string id)]] := by
      simp only [entriesUnder, Json.field?, Fields.get?, if_true]
      rfl
    have first : ([.object [("id", .string id)]].filterMap idOf?).head? = some id := by
      rw [List.filterMap_cons_some (f := idOf?) (named "id"), List.head?_cons]
    rw [CreateReply.naming, CreateOutcome.ofBatch, entries, first]
  | upload =>
    show CreateOutcome.ofSingle "id" _ = _
    rw [CreateReply.naming, CreateOutcome.ofSingle, named]
    rfl

/-- The kind that is found by a path is posted, queried and read like the one that has the path. -/
theorem find?_createPath (kind : Kind) :
    ∃ found, (Kind.all.find? fun other => other.endpoint.createPath = kind.endpoint.createPath) =
      some found ∧ found.endpoint.createPath = kind.endpoint.createPath := by
  have listed : (Kind.all.find? fun other =>
      other.endpoint.createPath = kind.endpoint.createPath).isSome = true :=
    List.find?_isSome.mpr ⟨kind, kind.mem_all, decide_eq_true rfl⟩
  obtain ⟨found, first⟩ := Option.isSome_iff_exists.mp listed
  have same := List.find?_some first
  exact ⟨found, first, of_decide_eq_true same⟩

theorem find?_queryPath (kind : Kind) :
    (Kind.all.find? fun other => other.endpoint.createPath = kind.endpoint.queryPath) = none ∧
      ∃ found, (Kind.all.find? fun other => other.endpoint.queryPath = kind.endpoint.queryPath) =
        some found ∧ found.endpoint.createPath = kind.endpoint.createPath := by
  have all : ∀ kind ∈ Kind.all,
      (Kind.all.find? fun other => other.endpoint.createPath = kind.endpoint.queryPath) = none ∧
        ∃ found ∈ Kind.all,
          (Kind.all.find? fun other => other.endpoint.queryPath = kind.endpoint.queryPath) =
            some found ∧ found.endpoint.createPath = kind.endpoint.createPath := by
    decide +kernel
  obtain ⟨apart, found, _, same⟩ := all kind kind.mem_all
  exact ⟨apart, found, same⟩

theorem filter?_lookupRequest (scope : Scope) (kind : Kind) (name : String) :
    (scope.lookupRequest kind name).filter? = some (scope.lookupFilter kind.endpoint name) :=
  Filter.read?_text (Filter.isPlain_lookupFilter scope kind name)

/-- **The warehouse stores what is posted.** -/
theorem warehouse_stores (scope : Scope) : Stores warehouse scope id := by
  refine ⟨fun kind name held => ?_, fun kind request fields held _ path entry => ?_⟩
  · obtain ⟨apart, found, first, same⟩ := find?_queryPath kind
    obtain ⟨defaults, endpoint⟩ := Kind.endpoint_eq_of_createPath_eq same.symm
    have collection : found.endpoint.collection = kind.endpoint.collection := by
      rw [endpoint]
    have selected : Stored.isSelected found = Stored.isSelected kind := by
      unfold Stored.isSelected
      rw [same]
    refine ⟨.object [(kind.endpoint.collection, .array ((held.filter
      (Stored.isSelected kind (scope.lookupFilter kind.endpoint name))).map Stored.shown))],
      held, ?_, rfl, List.Perm.of_eq ?_⟩
    · have path : (scope.lookupRequest kind name).path = kind.endpoint.queryPath := rfl
      unfold warehouse
      rw [path, apart, first]
      show (Except.ok _, held) = _
      rw [filter?_lookupRequest, Option.getD_some, collection, selected]
    · simp only [entriesUnder, Json.field?, Fields.get?, if_true]
      rfl
  · obtain ⟨found, first, same⟩ := find?_createPath kind
    obtain ⟨defaults, endpoint⟩ := Kind.endpoint_eq_of_createPath_eq same.symm
    refine ⟨_, freshId held, _, ?_, createOutcome_naming kind.endpoint (freshId_ne_empty held),
      freshId_not_mem held, rfl⟩
    have carried : found.endpoint.entryIn? request = some (.object fields) := by
      rw [endpoint]
      exact entry
    unfold warehouse
    rw [path, first]
    show (match found.endpoint.entryIn? request with
      | some (.object fields) => _
      | _ => _) = _
    rw [carried, endpoint]
    rfl

end Warehouse

end ResourceGraph
