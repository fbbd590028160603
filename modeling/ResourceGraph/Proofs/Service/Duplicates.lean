/-
**One report of an existing resource, accepted and refused.**

The service may report an existing resource in a reply that it accepts or in the body of a refusal.
A reply is searched for messages at every depth; of a refusal only one message counts: the one at
the top of its body, or else its whole text. So the two need not come to the same.

* `infix_compactChars_of_hasMessage`: the text of a value spells out the messages in it, up to
  escapes;
* `escaped_of_plain`, `plain_of_toLower`: what marks a message is never escaped;
* `marked_compact`: so the whole text of a value is marked if a message in it is;
* `duplicate_refused`: when the refusal with the same text comes to what the reply comes to.
-/

import ResourceGraph.Http.Client
import ResourceGraph.Proofs.Json.CompactText
import ResourceGraph.Proofs.Provision.Course
import ResourceGraph.Proofs.Service.Creation

namespace ResourceGraph

/-! ### Messages in the text of a value -/

section Text

variable {α : Type} {text : α → List Char}

/-- What is written of a thing stands in what is written of the list. -/
theorem Json.infix_separated {thing : α} {things : List α} (member : thing ∈ things) :
    text thing <:+: separated text things := by
  cases things with
  | nil => cases member
  | cons first rest =>
    rcases List.mem_cons.mp member with rfl | later
    · exact (List.prefix_append _ _).isInfix
    · obtain ⟨before, after, rfl⟩ := List.append_of_mem later
      refine ⟨text first ++ before.flatMap (fun thing => ',' :: text thing) ++ [','],
        after.flatMap fun thing => ',' :: text thing, ?_⟩
      simp [separated]

end Text

theorem Json.infix_compactChars_object {field : String × Json} {fields : Fields}
    (member : field ∈ fields) : field.2.compactChars <:+: (Json.object fields).compactChars := by
  have inside : field.2.compactChars <:+: fieldChars field :=
    ((List.suffix_cons _ _).trans (List.suffix_append _ _)).isInfix
  have among : fieldChars field <:+: compactFields fields :=
    compactFields_eq fields ▸ infix_separated member
  rw [compactChars]
  exact (inside.trans among).trans
    ((List.prefix_append _ _).isInfix.trans (List.suffix_cons _ _).isInfix)

theorem Json.infix_compactChars_array {item : Json} {items : List Json} (member : item ∈ items) :
    item.compactChars <:+: (Json.array items).compactChars := by
  have among : item.compactChars <:+: compactItems items :=
    compactItems_eq items ▸ infix_separated member
  rw [compactChars]
  exact among.trans ((List.prefix_append _ _).isInfix.trans (List.suffix_cons _ _).isInfix)

/-- **The text of a value spells out its messages**, with their characters escaped. -/
theorem Json.infix_compactChars_of_hasMessage {message : String} {value : Json}
    (has : value.HasMessage message) :
    message.toList.flatMap escaped <:+: value.compactChars := by
  induction has with
  | own here =>
    have spelled : message.toList.flatMap escaped <:+: (Json.string message).compactChars :=
      (List.prefix_append _ _).isInfix.trans (List.suffix_cons _ _).isInfix
    exact spelled.trans (infix_compactChars_object (Fields.mem_of_get? here))
  | field member other inside ih => exact ih.trans (infix_compactChars_object member)
  | item member inside ih => exact ih.trans (infix_compactChars_array member)

/-! ### Marks in the text of a value -/

/-- The character is no quote, no backslash and no control character. -/
def Plain (c : Char) : Prop :=
  c ≠ '"' ∧ c ≠ '\\' ∧ 32 ≤ c.toNat

instance : DecidablePred Plain := fun _ => inferInstanceAs (Decidable (_ ∧ _))

theorem escaped_of_plain {c : Char} (plain : Plain c) : Json.escaped c = [c] := by
  obtain ⟨quote, backslash, visible⟩ := plain
  have apart {control : Char} (low : control.toNat < 32) : c ≠ control := by
    rintro rfl
    omega
  rw [Json.escaped, if_neg quote, if_neg backslash, if_neg (apart (by decide)),
    if_neg (apart (by decide)), if_neg (apart (by decide)), if_neg (apart (by decide)),
    if_neg (apart (by decide)), if_neg (by omega)]

/-- Only letters change their case. -/
theorem plain_of_toLower {c : Char} (plain : Plain c.toLower) : Plain c := by
  by_cases upper : 'A'.val ≤ c.val ∧ c.val ≤ 'Z'.val
  · have range : 65 ≤ c.toNat ∧ c.toNat ≤ 90 := upper
    refine ⟨?_, ?_, by omega⟩
    · rintro rfl
      exact absurd range.1 (by decide)
    · rintro rfl
      exact absurd range.2 (by decide)
  · have same : c.toLower = c := dif_neg upper
    rwa [same] at plain

/-- **The whole text of a value is marked if a message in it is.** -/
theorem marked_compact {message : String} {value : Json} (has : value.HasMessage message)
    (marked : Marked message) : Marked value.compact := by
  obtain ⟨marker, listed, inside⟩ := marked
  obtain ⟨part, within, folded⟩ := List.infix_map_iff.mp inside
  have plain : ∀ c ∈ part, Plain c := by
    intro c member
    have lowered : c.toLower ∈ marker.toList := folded ▸ List.mem_map_of_mem member
    have all : ∀ marker ∈ ["already exists", "duplicate"],
        marker.toList.all (decide <| Plain ·) := by
      decide +kernel
    exact plain_of_toLower (of_decide_eq_true (List.all_eq_true.mp (all marker listed) _ lowered))
  have kept : part.flatMap Json.escaped = part := by
    rw [List.flatMap_congr fun c member => escaped_of_plain (plain c member),
      List.flatMap_singleton']
  have spelled : part <:+: message.toList.flatMap Json.escaped := by
    obtain ⟨before, after, whole⟩ := within
    refine ⟨before.flatMap Json.escaped, after.flatMap Json.escaped, ?_⟩
    rw [← whole, List.flatMap_append, List.flatMap_append, kept]
  refine ⟨marker, listed, ?_⟩
  rw [folded, Json.compact, String.toList_ofList]
  exact (spelled.trans (Json.infix_compactChars_of_hasMessage has)).map _

/-! ### Both ways of reporting -/

/-- A reply that reports an existing resource is a mapping with a marked message in it. -/
theorem Kind.Reports.exists_message {kind : Kind} {reply : Json} (reported : kind.Reports reply) :
    ∃ fields message, reply = .object fields ∧ reply.HasMessage message ∧ Marked message := by
  unfold Kind.Reports at reported
  split at reported
  · rename_i failures listed
    obtain ⟨key, among, part, found, message, has, marked⟩ := reported
    have other : key ≠ "message" := by
      have apart : ∀ kind ∈ Kind.all, ∀ failures ∈ kind.failures?, ∀ key ∈ [failures, "error"],
          key ≠ "message" := by
        decide
      exact apart kind kind.mem_all failures listed key among
    cases reply with
    | object fields =>
      exact ⟨fields, message, rfl, .field (Fields.mem_of_get? found) other has, marked⟩
    | _ => cases found
  · exact reported.elim

/-- The text of a mapping has no blank character at either end. -/
theorem trim_compact_object (fields : Fields) :
    Text.trim (Json.object fields).compact = (Json.object fields).compact := by
  rw [Text.trim_eq_self_iff, Json.compact, String.toList_ofList, Json.compactChars]
  refine ⟨?_, ?_⟩
  · intro c first
    obtain rfl : '\x7b' = c := Option.some.inj first
    decide +kernel
  · intro c last
    rw [← List.cons_append, List.getLast?_concat, Option.mem_some_iff] at last
    subst last
    decide +kernel

/-- A reply that is a duplicate is one by what the whole of it says. -/
theorem Scope.createOutcome_eq_duplicate {kind : Kind} {reply : Json}
    (duplicate : (createOutcome kind.endpoint reply).IsDuplicate) :
    createOutcome kind.endpoint reply = CreateOutcome.duplicate reply := by
  have batch {created failed : String}
      (among : (CreateOutcome.ofBatch created failed reply).IsDuplicate) :
      CreateOutcome.ofBatch created failed reply = CreateOutcome.duplicate reply := by
    unfold CreateOutcome.ofBatch at among ⊢
    split at among
    · rcases among with same | ⟨id, same⟩ <;> cases same
    · dsimp only at among ⊢
      split at among
      · rename_i reported
        rw [if_pos reported]
      · split at among <;> rcases among with same | ⟨id, same⟩ <;> cases same
  have reported := ((createOutcome_tells kind reply).duplicate_iff.mp duplicate).2
  cases kind with
  | product | asset | dut | testResult | workItem | workOrder => exact batch duplicate
  | location | workflow | dataTable | notebook | system | file => exact reported.elim

/-- A mapping is received from a text that is not blank. -/
theorem ofText?_of_replyOfText {text : String} {fields : Fields}
    (received : HttpClient.replyOfText text = .ok (.object fields)) :
    Text.isBlankText text = false ∧ Json.ofText? text = some (.object fields) := by
  unfold HttpClient.replyOfText at received
  split at received
  · cases received
  · rename_i filled
    split at received
    · rename_i value read
      cases received
      exact ⟨Bool.eq_false_iff.mpr filled, read⟩
    · cases received

/-- A resource whose creation is a duplicate is skipped. -/
theorem exists_skipped_of_isDuplicate {resource : Resource} {reply : Json}
    (duplicate : (Scope.createOutcome resource.kind.endpoint reply).IsDuplicate) :
    ∃ id note, Provision.creationOutcome resource (.ok reply) =
      .ok (.skipped resource id note) := by
  have recorded : Provision.creationOutcome resource (.ok reply) =
      .ok (Provision.resultOf resource (Scope.createOutcome resource.kind.endpoint reply)) := rfl
  rw [recorded]
  rcases duplicate with same | ⟨id, same⟩
  · exact ⟨none, _, by rw [same]; rfl⟩
  · exact ⟨some id, _, by rw [same]; rfl⟩

/-- **One report of an existing resource, accepted and refused.** A text that is a duplicate as a
reply is the same duplicate as the body of a refusal if the status is 409 or the one message that is
taken from the body is marked; without a message at its top, the whole text is the message, and what
is written of a value without blanks is then marked always. With any other status and message the
refusal stays a failure: the resource that the reply leaves as skipped is failed. -/
theorem duplicate_refused (resource : Resource) (status : Nat) {text : String} {body : Json}
    (received : HttpClient.replyOfText text = .ok body)
    (reported : (Scope.createOutcome resource.kind.endpoint body).IsDuplicate) :
    let refusal := Failure.service (.ofResponse status text)
    let message := (ServiceFailure.messageIn? body).getD (Text.trim text)
    (status = 409 ∨ Marked message →
      Scope.outcomeOf resource.kind.endpoint (.error refusal) =
          .ok (Scope.createOutcome resource.kind.endpoint body) ∧
        Provision.creationOutcome resource (.error refusal) =
          Provision.creationOutcome resource (.ok body)) ∧
      (¬ (status = 409 ∨ Marked message) →
        Scope.outcomeOf resource.kind.endpoint (.error refusal) = .error refusal ∧
          Provision.creationOutcome resource (.error refusal) =
            .ok (.failed resource refusal.describe) ∧
          ∃ id note, Provision.creationOutcome resource (.ok body) =
            .ok (.skipped resource id note)) ∧
      (ServiceFailure.messageIn? body = none → text = body.compact → Marked message) := by
  intro refusal message
  have told := ((Scope.createOutcome_tells resource.kind body).duplicate_iff.mp reported).2
  obtain ⟨fields, spoken, rfl, has, marked⟩ := told.exists_message
  obtain ⟨filled, read⟩ := ofText?_of_replyOfText received
  have refused : refusal = .service (.refused status message (some (.object fields))) := by
    show Failure.service (.ofResponse status text) = _
    rw [ServiceFailure.ofResponse, read, filled]
    rfl
  have reports : refusal.ReportsExisting ↔ status = 409 ∨ Marked message := by
    rw [refused]
    rfl
  refine ⟨fun agree => ?_, fun apart => ?_, fun bare spelled => ?_⟩
  · have same : Scope.outcomeOf resource.kind.endpoint (.error refusal) =
        .ok (Scope.createOutcome resource.kind.endpoint (.object fields)) := by
      have existing := CreateOutcome.failureReportsDuplicate_iff.mpr (refused ▸ reports.mpr agree)
      rw [refused, Scope.createOutcome_eq_duplicate reported]
      exact if_pos existing
    refine ⟨same, ?_⟩
    rw [Provision.creationOutcome, same]
    rfl
  · have kept : Scope.outcomeOf resource.kind.endpoint (.error refusal) = .error refusal :=
      (CreateOutcome.ofFailure_cases refusal).2 fun existing => apart (reports.mp existing)
    refine ⟨kept, ?_, exists_skipped_of_isDuplicate reported⟩
    rw [Provision.creationOutcome, kept]
    rfl
  · show Marked ((ServiceFailure.messageIn? (.object fields)).getD (Text.trim text))
    rw [bare, Option.getD_none, spelled, trim_compact_object]
    exact marked_compact has marked

/-- A report whose message at the top is general; what went wrong is told below. -/
def summarized : Json :=
  .object [("error", .object [
    ("innerErrors", .array [
      .object [("message", .string "Product already exists"), ("resourceId", .string "p-9")]]),
    ("message", .string "One or more errors occurred")])]

/-- The product of a workshop. -/
def gadget : Resource :=
  { kind := .product, name := "Gadget", reference := "gadget", properties := [], tags := [] }

/-- With a general message at the top, what is skipped as a reply fails as a refusal. -/
theorem duplicate_refused_summarized :
    let refusal := Failure.service (.ofResponse 400 summarized.compact)
    Provision.creationOutcome gadget (.ok summarized) =
        .ok (.skipped gadget (some "p-9") "already exists (reported by service)") ∧
      Provision.creationOutcome gadget (.error refusal) =
        .ok (.failed gadget refusal.describe) := by
  have found : Scope.createOutcome gadget.kind.endpoint summarized = .duplicateFound "p-9" := by
    decide +kernel
  have received : HttpClient.replyOfText summarized.compact = .ok summarized := by decide +kernel
  have general : ¬ ((400 : Nat) = 409 ∨ Marked "One or more errors occurred") := by
    rw [← reportsDuplicate_iff]
    decide +kernel
  refine ⟨?_, ((duplicate_refused gadget 400 received (Or.inr ⟨"p-9", found⟩)).2.1 general).2.1⟩
  exact congrArg (fun outcome => Except.ok (Provision.resultOf gadget outcome)) found

end ResourceGraph
