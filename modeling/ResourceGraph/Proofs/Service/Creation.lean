/-
**What a create call comes to.**

The answer to a create call is a failure or a reply. A failure may say that the resource exists, and
is then an outcome; any other stays a failure. A reply names what was created, or else it is a
duplicate or a refusal, by the messages in it.

* `UsableId`, `FirstUsable`, `Uploaded`: the ways in which a reply names what was created;
  `Kind.Names` tells which of them goes for a kind;
* `Json.HasMessage`: the messages in a value, at any depth; `mem_messagesIn_iff` says that they are
  the ones that are collected;
* `CreateOutcome.Tells`: an outcome is what a reply says; `ofBatch_tells`, `ofSingle_tells`,
  `ofUpload_tells`;
* `Failure.ReportsExisting`, `ofFailure_cases`: which failures are outcomes;
* `create_classified`: every answer to every create call.
-/

import ResourceGraph.Proofs.Service.Calls
import ResourceGraph.Proofs.Service.Entry
import ResourceGraph.Proofs.Text.Pieces

namespace ResourceGraph

/-! ### Identifiers -/

/-- The value has this identifier under the key: a text that is not empty, or a number. -/
def UsableId (key : String) (value : Json) (id : String) : Prop :=
  (value.field? key = some (.string id) ∧ id ≠ "") ∨
    ∃ number, value.field? key = some (.number number) ∧ number.text = id

theorem idUnder?_eq_some_iff {key : String} {value : Json} {id : String} :
    idUnder? key value = some id ↔ UsableId key value id := by
  unfold idUnder? UsableId
  split
  · rename_i text found
    rw [found]
    by_cases empty : text = ""
    · rw [if_pos (String.isEmpty_iff.mpr empty)]
      subst empty
      simp
    · rw [if_neg fun blank => empty (String.isEmpty_iff.mp blank)]
      simp only [Option.some.injEq, Json.string.injEq, reduceCtorEq, false_and, exists_false,
        or_false]
      exact ⟨fun same => ⟨same, same ▸ empty⟩, fun here => here.1⟩
  · rename_i number found
    simp [found]
  · rename_i noText noNumber
    simp only [reduceCtorEq, false_iff]
    rintro (⟨found, _⟩ | ⟨number, found, _⟩)
    · exact noText id found
    · exact noNumber number found

theorem UsableId.ne_empty {key : String} {value : Json} {id : String}
    (usable : UsableId key value id) : id ≠ "" :=
  idUnder?_ne_empty (idUnder?_eq_some_iff.mpr usable)

theorem idUnder?_eq_none_iff {key : String} {value : Json} :
    idUnder? key value = none ↔ ∀ id, ¬ UsableId key value id := by
  simp only [Option.eq_none_iff_forall_ne_some, ne_eq, idUnder?_eq_some_iff]

/-- Of the entries in the list that have a usable identifier, the first has this one. -/
def FirstUsable (list : String) (reply : Json) (id : String) : Prop :=
  ∃ before entry after, reply.field? list = some (.array (before ++ entry :: after)) ∧
    UsableId "id" entry id ∧ ∀ earlier ∈ before, ∀ other, ¬ UsableId "id" earlier other

theorem entriesUnder_eq_iff {list : String} {reply : Json} {entries : List Json}
    (filled : entries ≠ []) :
    entriesUnder list reply = entries ↔ reply.field? list = some (.array entries) := by
  unfold entriesUnder
  cases reply.field? list with
  | none => simp [filled.symm]
  | some value => cases value <;> simp [Json.items?, filled.symm]

theorem firstUsable_iff {list : String} {reply : Json} {id : String} :
    ((entriesUnder list reply).filterMap idOf?).head? = some id ↔ FirstUsable list reply id := by
  rw [List.head?_filterMap, List.findSome?_eq_some_iff]
  unfold FirstUsable idOf?
  simp only [idUnder?_eq_some_iff, idUnder?_eq_none_iff]
  refine exists_congr fun before => exists_congr fun entry => exists_congr fun after => ?_
  rw [entriesUnder_eq_iff (List.append_ne_nil_of_right_ne_nil _ (List.cons_ne_nil _ _))]

/-- The address of an upload ends in this identifier, slashes at the end left aside; an upload
without such an address has an identifier of its own. -/
def Uploaded (reply : Json) (id : String) : Prop :=
  let addressed := ((reply.field? "uri").bind (·.text?)).bind (Text.lastPiece? '/')
  addressed = some id ∨ addressed = none ∧ UsableId "id" reply id

theorem FirstUsable.ne_empty {list : String} {reply : Json} {id : String}
    (named : FirstUsable list reply id) : id ≠ "" := by
  obtain ⟨_, _, _, _, usable, _⟩ := named
  exact usable.ne_empty

theorem Uploaded.ne_empty {reply : Json} {id : String} (named : Uploaded reply id) : id ≠ "" := by
  rcases named with addressed | ⟨_, usable⟩
  · obtain ⟨address, _, last⟩ := Option.bind_eq_some_iff.mp addressed
    exact Text.lastPiece?_ne_empty last
  · exact usable.ne_empty

/-- The last segment of an address is the last piece between slashes that is not empty. -/
theorem CreateOutcome.lastSegment_filter (address : String) :
    (some (lastSegment address)).filter (fun id => !id.isEmpty) = Text.lastPiece? '/' address := by
  rw [Text.lastPiece?_eq]
  unfold lastSegment Text.lastPart List.rtakeWhile List.rdropWhile
  rw [List.reverse_reverse]

/-- How the reply to a create call of a kind names what was created. -/
def Kind.Names (reply : Json) : Kind → String → Prop
  | location | workflow | dataTable | notebook => UsableId "id" reply
  | system => UsableId "minionId" reply
  | file => Uploaded reply
  | product => FirstUsable "products" reply
  | asset | dut => FirstUsable "assets" reply
  | testResult => FirstUsable "results" reply
  | workItem => FirstUsable "createdWorkItems" reply
  | workOrder => FirstUsable "createdWorkOrders" reply

theorem Kind.Names.ne_empty {reply : Json} {kind : Kind} {id : String}
    (named : kind.Names reply id) : id ≠ "" := by
  cases kind with
  | location | workflow | dataTable | notebook | system => exact UsableId.ne_empty named
  | product | asset | dut | testResult | workItem | workOrder => exact FirstUsable.ne_empty named
  | file => exact Uploaded.ne_empty named

/-- Where the reply lists what failed, for the kinds that are created in lists. -/
def Kind.failures? : Kind → Option String
  | product | asset | dut | testResult => some "failed"
  | workItem => some "failedWorkItems"
  | workOrder => some "failedWorkOrders"
  | location | workflow | dataTable | notebook | system | file => none

/-! ### Messages -/

/-- The message stands in the value under the key `message`, below lists and other keys only. -/
inductive Json.HasMessage (message : String) : Json → Prop where
  | own {fields : Fields} (here : fields.get? "message" = some (.string message)) :
      HasMessage message (.object fields)
  | field {field : String × Json} {fields : Fields} (member : field ∈ fields)
      (other : field.1 ≠ "message") (inside : HasMessage message field.2) :
      HasMessage message (.object fields)
  | item {item : Json} {items : List Json} (member : item ∈ items)
      (inside : HasMessage message item) : HasMessage message (.array items)

theorem mem_messagesInItems {message : String} {items : List Json} :
    message ∈ messagesInItems items ↔ ∃ item ∈ items, message ∈ messagesIn item := by
  induction items with
  | nil => simp [messagesInItems]
  | cons item rest ih => rw [messagesInItems, List.mem_append, ih, List.exists_mem_cons_iff]

theorem mem_messagesInFields {message : String} {fields : Fields} :
    message ∈ messagesInFields fields ↔
      ∃ field ∈ fields, field.1 ≠ "message" ∧ message ∈ messagesIn field.2 := by
  induction fields with
  | nil => simp [messagesInFields]
  | cons field rest ih =>
    rw [messagesInFields, List.exists_mem_cons_iff]
    by_cases own : field.1 = "message"
    · rw [if_pos own, ih]
      exact (or_iff_right fun first => first.1 own).symm
    · rw [if_neg own, List.mem_append, ih]
      exact or_congr_left ⟨fun inside => ⟨own, inside⟩, fun first => first.2⟩

/-- **The messages that are collected are those in the value.** -/
theorem mem_messagesIn_iff {message : String} (value : Json) :
    message ∈ messagesIn value ↔ value.HasMessage message := by
  induction value using Json.induct with
  | null | bool | number | string =>
    refine ⟨fun member => ?_, fun said => by cases said⟩
    simp [messagesIn] at member
  | array items ih =>
    rw [messagesIn, mem_messagesInItems]
    constructor
    · rintro ⟨item, member, inside⟩
      exact .item member ((ih item member).mp inside)
    · intro said
      cases said with
      | item member inside => exact ⟨_, member, (ih _ member).mpr inside⟩
  | object fields ih =>
    have own : message ∈ ((fields.get? "message").bind (·.text?)).toList ↔
        fields.get? "message" = some (.string message) := by
      rw [Option.mem_toList, Fields.bind_text?_eq_some_iff]
    rw [messagesIn, List.mem_append, own, mem_messagesInFields]
    constructor
    · rintro (here | ⟨field, member, other, inside⟩)
      · exact .own here
      · exact .field member other ((ih field member).mp inside)
    · intro said
      cases said with
      | own here => exact Or.inl here
      | field member other inside => exact Or.inr ⟨_, member, other, (ih _ member).mpr inside⟩

/-- The message says that the resource exists, in whatever case its letters are. No character
outside ASCII has a lower case within the markers. -/
def Marked (message : String) : Prop :=
  ∃ marker ∈ ["already exists", "duplicate"], marker.toList <:+: message.toList.map Char.toLower

theorem reportsDuplicate_iff {message : String} :
    reportsDuplicate message = true ↔ Marked message := by
  unfold reportsDuplicate Marked
  simp only [List.any_eq_true, Text.occursIn_iff]
  rfl

/-- A message in the part of the reply under one of the keys says that the resource exists. -/
def ReportedUnder (keys : List String) (reply : Json) : Prop :=
  ∃ key ∈ keys, ∃ part, reply.field? key = some part ∧
    ∃ message, part.HasMessage message ∧ Marked message

/-- The reply about a kind says that the resource exists. Only kinds that are created in lists are
refused in a reply. -/
def Kind.Reports (reply : Json) (kind : Kind) : Prop :=
  match kind.failures? with
  | some failures => ReportedUnder [failures, "error"] reply
  | none => False

theorem any_reportsDuplicate_iff {key : String} {reply : Json} :
    ((reply.field? key).elim [] messagesIn).any reportsDuplicate = true ↔
      ∃ part, reply.field? key = some part ∧
        ∃ message, part.HasMessage message ∧ Marked message := by
  cases reply.field? key with
  | none => simp
  | some part => simp [mem_messagesIn_iff, reportsDuplicate_iff]

/-! ### Outcomes of replies -/

namespace CreateOutcome

/-- The resource exists already. -/
def IsDuplicate (outcome : CreateOutcome) : Prop :=
  outcome = .duplicateUnresolved ∨ ∃ id, outcome = .duplicateFound id

/-- Nothing usable came of the call. -/
def IsFailed (outcome : CreateOutcome) : Prop :=
  ∃ reason, outcome = .failed reason

theorem duplicate_isDuplicate (body : Json) : (duplicate body).IsDuplicate := by
  unfold duplicate
  cases existingId? body with
  | none => exact Or.inl rfl
  | some id => exact Or.inr ⟨id, rfl⟩

/-- The outcome is what a reply says that gives what was created these names, if any, and that
reports an existing resource or does not. -/
structure Tells (names : String → Prop) (reports : Prop) (outcome : CreateOutcome) : Prop where
  created_iff : ∀ id, outcome = .created id ↔ names id
  duplicate_iff : outcome.IsDuplicate ↔ (∀ id, ¬ names id) ∧ reports
  failed_iff : outcome.IsFailed ↔ (∀ id, ¬ names id) ∧ ¬ reports

section Tells

variable {names : String → Prop} {reports : Prop}

/-- A reply has one name for what was created. -/
theorem tells_created {id : String} (named : ∀ other, names other ↔ other = id) :
    Tells names reports (.created id) where
  created_iff := fun other => by simp [named, eq_comm]
  duplicate_iff := by simp [IsDuplicate, named]
  failed_iff := by simp [IsFailed, named]

theorem tells_duplicate {outcome : CreateOutcome} (duplicate : outcome.IsDuplicate)
    (unnamed : ∀ id, ¬ names id) (reported : reports) : Tells names reports outcome := by
  rcases duplicate with rfl | ⟨id, rfl⟩ <;>
    exact ⟨by simp [unnamed], by simp [IsDuplicate, unnamed, reported],
      by simp [IsFailed, reported]⟩

theorem tells_failed {reason : String} (unnamed : ∀ id, ¬ names id) (unreported : ¬ reports) :
    Tells names reports (.failed reason) :=
  ⟨by simp [unnamed], by simp [IsDuplicate, unreported], by simp [IsFailed, unnamed, unreported]⟩

end Tells

theorem ofBatch_tells (created failed : String) (reply : Json) :
    Tells (FirstUsable created reply) (ReportedUnder [failed, "error"] reply)
      (ofBatch created failed reply) := by
  unfold ofBatch
  cases first : ((entriesUnder created reply).filterMap idOf?).head? with
  | some id =>
    refine tells_created fun other => ?_
    rw [← firstUsable_iff, first, Option.some.injEq, eq_comm]
  | none =>
    have unnamed : ∀ id, ¬ FirstUsable created reply id := fun id named => by
      rw [← firstUsable_iff, first] at named
      cases named
    have reports : (((reply.field? failed).elim [] messagesIn ++
        (reply.field? "error").elim [] messagesIn).any reportsDuplicate = true) ↔
          ReportedUnder [failed, "error"] reply := by
      rw [List.any_append, Bool.or_eq_true, any_reportsDuplicate_iff, any_reportsDuplicate_iff]
      simp [ReportedUnder]
    dsimp only
    split
    · rename_i reported
      exact tells_duplicate (duplicate_isDuplicate reply) unnamed (reports.mp reported)
    · rename_i unreported
      split <;> exact tells_failed unnamed fun reported => unreported (reports.mpr reported)

theorem ofSingle_tells (key : String) (reply : Json) :
    Tells (UsableId key reply) False (ofSingle key reply) := by
  unfold ofSingle
  cases found : idUnder? key reply with
  | some id =>
    refine tells_created fun other => ?_
    rw [← idUnder?_eq_some_iff, found, Option.some.injEq, eq_comm]
  | none => exact tells_failed (idUnder?_eq_none_iff.mp found) not_false

theorem ofUpload_tells (reply : Json) : Tells (Uploaded reply) False (ofUpload reply) := by
  have segment : ((((reply.field? "uri").bind (·.text?)).map lastSegment).filter
      fun id => !id.isEmpty) =
        ((reply.field? "uri").bind (·.text?)).bind (Text.lastPiece? '/') := by
    cases (reply.field? "uri").bind (·.text?) with
    | none => rfl
    | some address => exact lastSegment_filter address
  unfold ofUpload Uploaded
  rw [segment]
  cases ((reply.field? "uri").bind (·.text?)).bind (Text.lastPiece? '/') with
  | some id => exact tells_created fun other => by simp [eq_comm]
  | none =>
    have single := ofSingle_tells "id" reply
    simpa only [reduceCtorEq, false_or, true_and] using single

end CreateOutcome

/-- **The outcome is what the reply tells**, for every kind. -/
theorem Scope.createOutcome_tells (kind : Kind) (reply : Json) :
    (createOutcome kind.endpoint reply).Tells (kind.Names reply) (kind.Reports reply) := by
  cases kind with
  | location | workflow | dataTable | notebook | system =>
    exact CreateOutcome.ofSingle_tells _ reply
  | product | asset | dut | testResult | workItem | workOrder =>
    exact CreateOutcome.ofBatch_tells _ _ reply
  | file => exact CreateOutcome.ofUpload_tells reply

/-! ### Failures that are outcomes -/

/-- The service refused the call and says that the resource exists, by the status or in the
message. -/
def Failure.ReportsExisting : Failure → Prop
  | .service (.refused status message _) => status = 409 ∨ Marked message
  | _ => False

theorem CreateOutcome.failureReportsDuplicate_iff {failed : ServiceFailure} :
    failureReportsDuplicate failed = true ↔ (Failure.service failed).ReportsExisting := by
  cases failed with
  | refused status message body =>
    simp [failureReportsDuplicate, Failure.ReportsExisting, reportsDuplicate_iff]
  | unauthorized | rateLimited | unreachable | malformed =>
    simp [failureReportsDuplicate, Failure.ReportsExisting]

/-- **A failure is an outcome exactly if it says that the resource exists.** -/
theorem CreateOutcome.ofFailure_cases (failure : Failure) :
    (failure.ReportsExisting → ∃ outcome, ofFailure failure = .ok outcome ∧ outcome.IsDuplicate) ∧
      (¬ failure.ReportsExisting → ofFailure failure = .error failure) := by
  cases failure with
  | service failed =>
    rw [← failureReportsDuplicate_iff, ofFailure]
    refine ⟨fun reported => ⟨_, if_pos reported, ?_⟩, fun unreported => if_neg unreported⟩
    cases failed.body? with
    | none => exact Or.inl rfl
    | some body => exact duplicate_isDuplicate body
  | notFound | invalid | missingSetting | io | internal => exact ⟨False.elim, fun _ => rfl⟩

/-! ### Every answer -/

/-- **What a create call comes to, for every kind, every service and every answer.** A failure that
says that the resource exists is a duplicate, and any other is returned as it is. A reply is a
creation exactly if it names what was created where the kind has it, never with an empty name; else
it is a duplicate exactly if it says so in a message, and nothing came of the call otherwise. -/
theorem create_classified {σ : Type} (scope : Scope) (service : Service σ) (state : σ) (kind : Kind)
    (name : String) (properties : Fields) :
    let request := scope.createRequest kind.endpoint name properties
    let call := Dialogue.converse service state (scope.create kind name properties).run
    call.exchanges = [(request, (service request state).1)] ∧
      match (service request state).1 with
      | .error failure =>
        (failure.ReportsExisting → ∃ outcome, call.result = .ok outcome ∧ outcome.IsDuplicate) ∧
          (¬ failure.ReportsExisting → call.result = .error failure)
      | .ok reply =>
        ∃ outcome, call.result = .ok outcome ∧
          outcome.Tells (kind.Names reply) (kind.Reports reply) ∧
          ∀ id, kind.Names reply id → id ≠ "" := by
  intro request call
  have conversation : call = _ := scope.converse_create service state kind name properties
  rw [conversation]
  refine ⟨rfl, ?_⟩
  dsimp only
  cases (service request state).1 with
  | error failure => exact CreateOutcome.ofFailure_cases failure
  | ok reply => exact ⟨_, rfl, Scope.createOutcome_tells kind reply, fun id named => named.ne_empty⟩

/-- A reply that names nothing that was created. What went wrong is told below lists and other
keys. -/
def declined : Json :=
  .object [
    ("error", .object [("innerErrors", .array [
      .object [("message", .string "Product ALREADY Exists"), ("resourceId", .string "p-9")]])]),
    ("failed", .array [.object [("name", .string "Widget")]]),
    ("products", .array [.object [("id", .string "")]])]

/-- The reply is about a product that exists. -/
theorem create_classified_declined :
    (∀ id, ¬ Kind.product.Names declined id) ∧ Kind.product.Reports declined ∧
      ∃ outcome, (Dialogue.converse (fun _ state => (.ok declined, state)) ()
        (Scope.create ⟨none, "seedbed-example:demo"⟩ .product "Widget" []).run).result =
          .ok outcome ∧
        outcome.IsDuplicate := by
  have unnamed : ∀ id, ¬ Kind.product.Names declined id := fun id named => by
    have none : ((entriesUnder "products" declined).filterMap idOf?).head? = none := by
      decide +kernel
    rw [firstUsable_iff.mpr named] at none
    cases none
  have reported : Kind.product.Reports declined := by
    refine ⟨"error", by decide, _, rfl, "Product ALREADY Exists", ?_,
      "already exists", by decide, ?_⟩
    · exact .field List.mem_cons_self (by decide) (.item List.mem_cons_self (.own rfl))
    · decide +kernel
  refine ⟨unnamed, reported, ?_⟩
  obtain ⟨_, outcome, came, tells, _⟩ := create_classified ⟨none, "seedbed-example:demo"⟩
    (fun _ state => (.ok declined, state)) () .product "Widget" []
  exact ⟨outcome, came, tells.duplicate_iff.mpr ⟨unnamed, reported⟩⟩

end ResourceGraph
