/-
**The existing resource that a report names.**

A report of a duplicate may name the resource that exists, in a mapping at any depth and under
either of two keys. The search goes through all of them, but in a mapping the first key that holds a
text decides: where that text is empty, the mapping counts as naming nothing, whatever the second
key holds.

* `Json.Contains`: a mapping stands in a value, at any depth;
* `Fields.NamesExisting`, `Fields.Blank`: what a mapping tells of the resource that exists;
* `existingId?_sound`, `exists_existingId?_iff`: what is found, and when anything is;
* `Kind.ReportsIn`: the answers to a create call that are duplicates, with the body that is
  searched; `duplicateUnresolved_iff` tells which of them are without an identifier;
* `existing_found`: what a run makes of such an answer.
-/

import ResourceGraph.Proofs.Provision.Identifiers
import ResourceGraph.Proofs.Service.Duplicates

namespace ResourceGraph

/-! ### Mappings that name a resource -/

/-- The mapping stands in the value, at any depth. -/
inductive Json.Contains (mapping : Fields) : Json → Prop where
  | here : Contains mapping (.object mapping)
  | item {item : Json} {items : List Json} (member : item ∈ items)
      (inside : Contains mapping item) : Contains mapping (.array items)
  | field {field : String × Json} {fields : Fields} (member : field ∈ fields)
      (inside : Contains mapping field.2) : Contains mapping (.object fields)

namespace Fields

/-- The mapping gives this identifier of the resource that exists. -/
def NamesExisting (fields : Fields) (id : String) : Prop :=
  id ≠ "" ∧ (fields.get? "resourceId" = some (.string id) ∨
    fields.get? "existingId" = some (.string id))

/-- The mapping has an empty text under the first of the two keys. -/
def Blank (fields : Fields) : Prop :=
  fields.get? "resourceId" = some (.string "")

end Fields

/-- Of the two keys the first that holds a text decides. -/
theorem existingIdHere?_eq_some_iff {fields : Fields} {id : String} :
    existingIdHere? fields = some id ↔ id ≠ "" ∧
      (fields.get? "resourceId" = some (.string id) ∨
        (∀ text, fields.get? "resourceId" ≠ some (.string text)) ∧
          fields.get? "existingId" = some (.string id)) := by
  have none_iff : (fields.get? "resourceId").bind (·.text?) = none ↔
      ∀ text, fields.get? "resourceId" ≠ some (.string text) := by
    simp only [Option.eq_none_iff_forall_ne_some, ne_eq, Fields.bind_text?_eq_some_iff]
  rw [existingIdHere?, Option.filter_eq_some_iff, Option.or_eq_some_iff,
    Fields.bind_text?_eq_some_iff, Fields.bind_text?_eq_some_iff, none_iff, and_comm]
  simp

theorem Fields.namesExisting_of_here {fields : Fields} {id : String}
    (found : existingIdHere? fields = some id) : fields.NamesExisting id ∧ ¬ fields.Blank := by
  obtain ⟨filled, first | ⟨noText, second⟩⟩ := existingIdHere?_eq_some_iff.mp found
  · refine ⟨⟨filled, Or.inl first⟩, fun blank => filled ?_⟩
    rw [Blank, first] at blank
    exact Json.string.inj (Option.some.inj blank)
  · exact ⟨⟨filled, Or.inr second⟩, noText ""⟩

/-- A mapping that names a resource gives an identifier of it unless its first key holds an empty
text. -/
theorem Fields.exists_here_of_namesExisting {fields : Fields} {id : String}
    (named : fields.NamesExisting id) (filled : ¬ fields.Blank) :
    ∃ given, existingIdHere? fields = some given := by
  obtain ⟨nonempty, keys⟩ := named
  by_cases first : ∃ text, fields.get? "resourceId" = some (.string text)
  · obtain ⟨text, held⟩ := first
    refine ⟨text, existingIdHere?_eq_some_iff.mpr ⟨?_, Or.inl held⟩⟩
    rintro rfl
    exact filled held
  · have noText := not_exists.mp first
    refine ⟨id, existingIdHere?_eq_some_iff.mpr ⟨nonempty, Or.inr ⟨noText, ?_⟩⟩⟩
    exact keys.resolve_left (noText id)

/-! ### The search -/

/-- What is found in a mapping is its own identifier, or is found in one of its fields. -/
theorem exists_existingId?_object {fields : Fields} :
    (∃ id, existingId? (.object fields) = some id) ↔
      (∃ id, existingIdHere? fields = some id) ∨
        ∃ field ∈ fields, ∃ id, existingId? field.2 = some id := by
  simp only [existingId?, existingIdInFields?_eq_findSome?, ← Option.isSome_iff_exists,
    Option.isSome_or, Bool.or_eq_true, List.findSome?_isSome_iff]

theorem exists_existingId?_array {items : List Json} :
    (∃ id, existingId? (.array items) = some id) ↔
      ∃ item ∈ items, ∃ id, existingId? item = some id := by
  simp only [existingId?, existingIdInItems?_eq_findSome?, ← Option.isSome_iff_exists,
    List.findSome?_isSome_iff]

/-- **What is found is named**, by a mapping at some depth. -/
theorem existingId?_sound (value : Json) :
    ∀ id, existingId? value = some id →
      ∃ mapping, value.Contains mapping ∧ mapping.NamesExisting id := by
  induction value using Json.induct with
  | null | bool | number | string => exact fun id found => by cases found
  | array items ih =>
    intro id found
    rw [existingId?, existingIdInItems?_eq_findSome?] at found
    obtain ⟨item, member, inside⟩ := List.exists_of_findSome?_eq_some found
    obtain ⟨mapping, contained, named⟩ := ih item member id inside
    exact ⟨mapping, .item member contained, named⟩
  | object fields ih =>
    intro id found
    rw [existingId?, existingIdInFields?_eq_findSome?] at found
    rcases Option.or_eq_some_iff.mp found with here | ⟨_, later⟩
    · exact ⟨fields, .here, (Fields.namesExisting_of_here here).1⟩
    · obtain ⟨field, member, inside⟩ := List.exists_of_findSome?_eq_some later
      obtain ⟨mapping, contained, named⟩ := ih field member id inside
      exact ⟨mapping, .field member contained, named⟩

/-- **Something is found exactly if some mapping names a resource** and has no empty text under its
first key. -/
theorem exists_existingId?_iff (value : Json) :
    (∃ id, existingId? value = some id) ↔
      ∃ mapping, value.Contains mapping ∧ (∃ id, mapping.NamesExisting id) ∧ ¬ mapping.Blank := by
  -- what is found is followed down the value, and where a mapping stands is followed up
  constructor
  · induction value using Json.induct with
    | null | bool | number | string => exact fun ⟨id, found⟩ => by cases found
    | array items ih =>
      rw [exists_existingId?_array]
      rintro ⟨item, member, found⟩
      obtain ⟨mapping, contained, told⟩ := ih item member found
      exact ⟨mapping, .item member contained, told⟩
    | object fields ih =>
      rw [exists_existingId?_object]
      rintro (⟨id, here⟩ | ⟨field, member, found⟩)
      · have told := Fields.namesExisting_of_here here
        exact ⟨fields, .here, ⟨id, told.1⟩, told.2⟩
      · obtain ⟨mapping, contained, told⟩ := ih field member found
        exact ⟨mapping, .field member contained, told⟩
  · rintro ⟨mapping, contained, ⟨id, named⟩, filled⟩
    induction contained with
    | here =>
      exact exists_existingId?_object.mpr
        (Or.inl (mapping.exists_here_of_namesExisting named filled))
    | item member inside ih => exact exists_existingId?_array.mpr ⟨_, member, ih⟩
    | field member inside ih => exact exists_existingId?_object.mpr (Or.inr ⟨_, member, ih⟩)

/-- Nothing is found in a body exactly if every mapping in it that names a resource has an empty
text under its first key. -/
theorem bind_existingId?_eq_none_iff {body? : Option Json} :
    body?.bind existingId? = none ↔ ∀ body ∈ body?, ∀ mapping, body.Contains mapping →
      ∀ id, mapping.NamesExisting id → mapping.Blank := by
  rw [Option.bind_eq_none_iff]
  refine forall₂_congr fun body _ => ?_
  rw [← not_iff_not, ← ne_eq, Option.ne_none_iff_exists', exists_existingId?_iff]
  push Not
  exact exists_congr fun mapping => and_congr_right fun _ => exists_and_right.symm

/-! ### Answers that are duplicates -/

/-- The answer to a create call reports that the resource exists; with the body of it that is
searched, if it has one. -/
inductive Kind.ReportsIn (kind : Kind) : Option Json → Reply → Prop where
  | accepted {body : Json} (unnamed : ∀ id, ¬ kind.Names body id) (reported : kind.Reports body) :
      ReportsIn kind (some body) (.ok body)
  | refused {status : Nat} {message : String} {body? : Option Json}
      (existing : status = 409 ∨ Marked message) :
      ReportsIn kind body? (.error (.service (.refused status message body?)))

/-- The outcome of a report in a body, if there is one. -/
def CreateOutcome.ofReport (body? : Option Json) : CreateOutcome :=
  (body?.bind existingId?).elim duplicateUnresolved duplicateFound

theorem Kind.ReportsIn.outcomeOf {kind : Kind} {body? : Option Json} {reply : Reply}
    (reported : kind.ReportsIn body? reply) :
    Scope.outcomeOf kind.endpoint reply = .ok (.ofReport body?) := by
  cases reported with
  | accepted unnamed reports =>
    have duplicate := (Scope.createOutcome_tells kind _).duplicate_iff.mpr ⟨unnamed, reports⟩
    exact congrArg Except.ok (Scope.createOutcome_eq_duplicate duplicate)
  | @refused status message _ existing =>
    have reports : CreateOutcome.failureReportsDuplicate (.refused status message body?) = true :=
      CreateOutcome.failureReportsDuplicate_iff.mpr existing
    refine (if_pos reports).trans ?_
    cases body? <;> rfl

/-- **A create call is a duplicate exactly if its answer is such a report.** -/
theorem isDuplicate_iff_reportsIn {kind : Kind} {reply : Reply} :
    (∃ outcome, Scope.outcomeOf kind.endpoint reply = .ok outcome ∧ outcome.IsDuplicate) ↔
      ∃ body?, kind.ReportsIn body? reply := by
  constructor
  · rintro ⟨outcome, came, duplicate⟩
    cases reply with
    | ok body =>
      cases came
      obtain ⟨unnamed, reported⟩ := (Scope.createOutcome_tells kind body).duplicate_iff.mp duplicate
      exact ⟨some body, .accepted unnamed reported⟩
    | error failure =>
      have existing : failure.ReportsExisting := by
        by_contra other
        have kept := (CreateOutcome.ofFailure_cases failure).2 other
        cases kept.symm.trans came
      match failure, existing with
      | .service (.refused status message body?), existing => exact ⟨body?, .refused existing⟩
  · rintro ⟨body?, reported⟩
    refine ⟨_, reported.outcomeOf, ?_⟩
    unfold CreateOutcome.ofReport
    cases body?.bind existingId? with
    | none => exact Or.inl rfl
    | some id => exact Or.inr ⟨id, rfl⟩

/-- **A create call is an unresolved duplicate exactly if its answer is a report in which nothing is
found.** -/
theorem duplicateUnresolved_iff {kind : Kind} {reply : Reply} :
    Scope.outcomeOf kind.endpoint reply = .ok .duplicateUnresolved ↔
      ∃ body?, kind.ReportsIn body? reply ∧ body?.bind existingId? = none := by
  constructor
  · intro unresolved
    obtain ⟨body?, reported⟩ := isDuplicate_iff_reportsIn.mp ⟨_, unresolved, Or.inl rfl⟩
    refine ⟨body?, reported, ?_⟩
    have outcome := Except.ok.inj (reported.outcomeOf.symm.trans unresolved)
    unfold CreateOutcome.ofReport at outcome
    cases found : body?.bind existingId? with
    | none => rfl
    | some id =>
      rw [found] at outcome
      cases outcome
  · rintro ⟨body?, reported, nothing⟩
    rw [reported.outcomeOf, CreateOutcome.ofReport, nothing]
    rfl

/-! ### Runs -/

namespace Provision

section Visits

variable {σ : Type} (service : Service σ) (state : σ) (options : RunOptions) (document : Document)
  {here : Visit σ Identifiers}

/-- A resource whose creation is answered with a report is skipped, with the identifier that is
found. -/
theorem recorded_of_reportsIn (member : here ∈ document.provisionVisits service state options)
    {asked : Exchange} {request : Request} {reply : Reply}
    (exchanged : here.exchanges = [asked, (request, reply)]) {body? : Option Json}
    (reported : here.resource.kind.ReportsIn body? reply) :
    here.recorded.action = .skipped ∧ here.recorded.serverId = body?.bind existingId? := by
  obtain ⟨outcome, course, same⟩ := visit_course service state options _ member
  rw [exchanged] at course
  cases course with
  | creates asks missing =>
    have result : creationOutcome here.resource reply =
        .ok (resultOf here.resource (.ofReport body?)) := by
      rw [creationOutcome, reported.outcomeOf]
    rw [result] at same
    rw [recorded_of_reached same]
    unfold CreateOutcome.ofReport
    cases body?.bind existingId? with
    | none => exact ⟨rfl, rfl⟩
    | some id => exact ⟨rfl, rfl⟩

/-- **What a report names is what the later resources know.** -/
theorem get?_known_of_reportsIn {before after : List (Visit σ Identifiers)}
    (split : document.provisionVisits service state options = before ++ here :: after)
    (distinct : document.references.Nodup) {asked : Exchange} {request : Request} {reply : Reply}
    (exchanged : here.exchanges = [asked, (request, reply)]) {body? : Option Json}
    (reported : here.resource.kind.ReportsIn body? reply) :
    ∀ later ∈ after, later.known.get? here.resource.reference =
      some ((body?.bind existingId?).getD ("dry-run-" ++ here.resource.reference)) := by
  intro later among
  have member : here ∈ document.provisionVisits service state options := by
    rw [split]
    exact List.mem_append_right _ List.mem_cons_self
  obtain ⟨skipped, given⟩ :=
    recorded_of_reportsIn service state options document member exchanged reported
  obtain ⟨between, rest, rfl⟩ := List.append_of_mem among
  have splitLater : document.provisionVisits service state options =
      (before ++ here :: between) ++ later :: rest := by
    rw [split, List.append_assoc, List.cons_append]
  refine (get?_known_iff service state options document splitLater distinct _ _).mpr
    ⟨here, List.mem_append_right _ List.mem_cons_self, rfl, Or.inr skipped, ?_⟩
  rw [given]

end Visits

end Provision

/-- **The existing resource that a report names.** What is found in a value is named by a mapping in
it, at some depth; and something is found exactly if some mapping names a resource without having an
empty text under the first of the two keys. A create call is an unresolved duplicate exactly if its
answer is a report without such a mapping. In a run, the resource is then skipped without an
identifier and the later resources know a synthetic one; otherwise they know the identifier that was
found. -/
theorem existing_found {σ : Type} (service : Service σ) (state : σ) (options : RunOptions)
    (document : Document) :
    (∀ value : Json,
      (∀ id, existingId? value = some id →
        ∃ mapping, value.Contains mapping ∧ mapping.NamesExisting id) ∧
      ((∃ id, existingId? value = some id) ↔
        ∃ mapping, value.Contains mapping ∧ (∃ id, mapping.NamesExisting id) ∧ ¬ mapping.Blank)) ∧
    (∀ (kind : Kind) (reply : Reply),
      Scope.outcomeOf kind.endpoint reply = .ok .duplicateUnresolved ↔
        ∃ body?, kind.ReportsIn body? reply ∧ ∀ body ∈ body?, ∀ mapping, body.Contains mapping →
          ∀ id, mapping.NamesExisting id → mapping.Blank) ∧
    ∀ before here after, document.provisionVisits service state options = before ++ here :: after →
      ∀ asked request reply, here.exchanges = [asked, (request, reply)] →
        ∀ body?, here.resource.kind.ReportsIn body? reply →
          here.recorded.action = .skipped ∧ here.recorded.serverId = body?.bind existingId? ∧
            (document.references.Nodup → ∀ later ∈ after,
              later.known.get? here.resource.reference =
                some ((body?.bind existingId?).getD ("dry-run-" ++ here.resource.reference))) := by
  refine ⟨fun value => ⟨existingId?_sound value, exists_existingId?_iff value⟩,
    fun kind reply => ?_, ?_⟩
  · rw [duplicateUnresolved_iff]
    exact exists_congr fun body? => and_congr_right fun _ => bind_existingId?_eq_none_iff
  · intro before here after split asked request reply exchanged body? reported
    have member : here ∈ document.provisionVisits service state options := by
      rw [split]
      exact List.mem_append_right _ List.mem_cons_self
    obtain ⟨skipped, given⟩ :=
      Provision.recorded_of_reportsIn service state options document member exchanged reported
    exact ⟨skipped, given, fun distinct =>
      Provision.get?_known_of_reportsIn service state options document split distinct exchanged
        reported⟩

/-- A mapping with a usable identifier under the second key and an empty text under the first. -/
def blankedEntry : Fields :=
  [("existingId", .string "p-9"), ("message", .string "Product already exists"),
    ("resourceId", .string "")]

/-- A report that names the existing product in such a mapping only. -/
def blanked : Json :=
  .object [("error", .object [("innerErrors", .array [.object blankedEntry])])]

/-- A document with the product and a system that refers to it. -/
def assembled : Document :=
  { chained with
    resources := [gadget, ⟨.system, "Bench", [("board", .string "${gadget}")], "bench", []⟩] }

/-- The visits of provisioning the document where every reply is the report. -/
def assembledVisits : List (Visit Unit Identifiers) :=
  assembled.provisionVisits (fun _ state => (.ok blanked, state)) () strictly

/-- The report names the product, and yet the product is skipped without an identifier and the
system knows a synthetic one. -/
theorem existing_found_blanked :
    blanked.Contains blankedEntry ∧ blankedEntry.NamesExisting "p-9" ∧ existingId? blanked = none ∧
      assembled.references.Nodup ∧ Kind.product.ReportsIn (some blanked) (.ok blanked) ∧
      ∃ here later, assembledVisits = [here, later] ∧ here.resource = gadget ∧
        here.recorded.action = .skipped ∧ here.recorded.serverId = none ∧
        later.known.get? "gadget" = some "dry-run-gadget" := by
  have contained : blanked.Contains blankedEntry :=
    .field List.mem_cons_self (.field List.mem_cons_self (.item List.mem_cons_self .here))
  have nothing : existingId? blanked = none := by decide +kernel
  have distinct : assembled.references.Nodup := by decide
  have reported : Kind.product.ReportsIn (some blanked) (.ok blanked) := by
    have tells := Scope.createOutcome_tells .product blanked
    have outcome : Scope.createOutcome Kind.product.endpoint blanked = .duplicateUnresolved := by
      decide +kernel
    obtain ⟨unnamed, reports⟩ := tells.duplicate_iff.mp (Or.inl outcome)
    exact .accepted unnamed reports
  obtain ⟨_, _, runs⟩ := existing_found (fun _ state => (.ok blanked, state)) () strictly assembled
  obtain ⟨skipped, given, known⟩ := runs [] _ [_] rfl _ _ _ rfl (some blanked) reported
  rw [Option.bind_some, nothing] at given known
  exact ⟨contained, ⟨by decide, Or.inr rfl⟩, nothing, distinct, reported, _, _, rfl, rfl,
    skipped, given, known distinct _ List.mem_cons_self⟩

end ResourceGraph
