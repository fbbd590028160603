/-
**Validation accepts the grammar.**

A value is accepted exactly if it is a document of the grammar, and then the document is the one
that it denotes; any other value is refused with at least one problem.

* `ofJson_withTextVersion`: what is read from a value without a problem of the schema pass;
* `problems_referenceFindings_eq_nil_iff`: the documents without a problem of the reference pass;
* `validate_accepts`: both together.
-/

import ResourceGraph.Proofs.Document.Findings
import ResourceGraph.Proofs.Document.Grammar

namespace ResourceGraph

open Grammar

/-! ### Reading fields -/

namespace Json

theorem optionalText_eq_ok {field : Option Json} {text : Option String}
    (holds : OptionalText field text) : optionalText field = .ok text := by
  cases holds <;> rfl

/-- What reads every item of a list reads the list. -/
theorem mapM_eq_ok {α β : Type} {read : α → Except Malformation β} {items : List α}
    {values : List β} (each : List.Forall₂ (fun item value => read item = .ok value) items values) :
    items.mapM read = .ok values := by
  induction each with
  | nil => rfl
  | cons first rest ih =>
    rw [List.mapM_cons, first, ih]
    rfl

theorem optionalTexts_eq_ok {field : Option Json} {texts : List String} (holds : Tags field texts) :
    optionalTexts field = .ok texts := by
  cases holds with
  | absent => rfl
  | null => rfl
  | texts texts =>
    refine mapM_eq_ok ?_
    rw [List.forall₂_map_left_iff, List.forall₂_same]
    exact fun text _ => rfl

/-- **A setup time is read** exactly if it is one. -/
theorem optionalMinutes_eq_ok_iff {field : Option Json} {minutes : Option UInt32} :
    optionalMinutes field = .ok minutes ↔ Minutes field minutes := by
  constructor
  · intro read
    unfold optionalMinutes at read
    split at read
    · cases read
      exact .absent
    · cases read
      exact .null
    · rename_i value _
      split at read
      · rename_i natural number
        split at read
        · rename_i fits
          cases read
          have written : value = .number (.integer (UInt32.ofNat natural).toNat) := by
            rw [UInt32.toNat_ofNat_of_lt' fits]
            unfold natural? at number
            split at number
            · cases number
              rfl
            · cases number
          rw [written]
          exact .minutes _
        · cases read
      · cases read
  · rintro ⟨⟩
    · rfl
    · rfl
    · rename_i minutes
      have fits : minutes.toNat < UInt32.size := minutes.toNat_lt
      show (if minutes.toNat < UInt32.size then _ else _) = _
      rw [if_pos fits, UInt32.ofNat_toNat]

end Json

theorem Grammar.Minutes.eq_natural {field : Option Json} {minutes : Option UInt32}
    (holds : Minutes field minutes) :
    field = none ∨ field = some .null ∨
      ∃ natural : Nat, field = some (.number (.integer natural)) := by
  cases holds with
  | absent => exact Or.inl rfl
  | null => exact Or.inr (Or.inl rfl)
  | minutes given => exact Or.inr (Or.inr ⟨_, rfl⟩)

/-! ### Reading documents -/

theorem Resource.ofJson_eq_ok {entry : Json} {resource : Resource}
    (declares : Entry entry resource) :
    Resource.ofJson entry = .ok resource := by
  obtain ⟨declares⟩ := declares
  have kind : Kind.ofName? resource.kind.name = some resource.kind :=
    Schema.ofName?_eq_some_iff.mpr rfl
  simp only [Resource.ofJson, Json.record?, Resource.fieldNames, List.map_cons, List.map_nil,
    declares.kind, declares.name, declares.properties, declares.reference, Json.requiredKind, kind,
    Json.requiredText, Json.optionalTexts_eq_ok declares.tags, Option.bind_some, Json.fields?,
    Option.elim_some]
  rfl

/-- **What is read** from a value that declares a document, whatever its setup time. -/
theorem Document.ofJson_withTextVersion {fields : Fields} {document : Document}
    (declares : DocumentFields fields document) :
    Document.ofJson (Json.object fields).withTextVersion =
      (Json.optionalMinutes (fields.get? "estimated_setup_time_minutes")).map fun minutes =>
        { document with setupMinutes := minutes } := by
  have kept {key : String} (apart : key ≠ "format_version") :=
    Schema.get?_mapField_of_ne Json.numberAsText fields apart
  obtain ⟨entries, listed, each⟩ := declares.resources
  have resources : entries.mapM Resource.ofJson = .ok document.resources :=
    Json.mapM_eq_ok (each.imp fun _ _ entry => Resource.ofJson_eq_ok entry)
  simp only [Document.ofJson, Json.withTextVersion, Json.record?, Document.fieldNames,
    List.map_cons, List.map_nil, Schema.get?_version_iff.mpr declares.version,
    kept (by decide : "name" ≠ "format_version"), kept (by decide : "title" ≠ "format_version"),
    kept (by decide : "description" ≠ "format_version"),
    kept (by decide : "author" ≠ "format_version"), kept (by decide : "tags" ≠ "format_version"),
    kept (by decide : "estimated_setup_time_minutes" ≠ "format_version"),
    kept (by decide : "resources" ≠ "format_version"), declares.name, declares.title, listed,
    Json.requiredText, Json.optionalText_eq_ok declares.description,
    Json.optionalText_eq_ok declares.author, Json.optionalTexts_eq_ok declares.tags,
    Option.bind_some, Json.items?, Option.elim_some]
  cases Json.optionalMinutes (fields.get? "estimated_setup_time_minutes") with
  | error malformation => rfl
  | ok minutes =>
    show (entries.mapM Resource.ofJson >>= _) = _
    rw [resources]
    rfl

/-! ### References -/

namespace Document

theorem isNone_lastPosition? {document : Document} {reference : String} :
    (document.lastPosition? reference).isNone = true ↔ reference ∉ document.references := by
  unfold lastPosition?
  rw [Option.isNone_iff_eq_none, Option.map_eq_none_iff, List.getLast?_eq_none_iff,
    List.filter_eq_nil_iff]
  constructor
  · intro none member
    obtain ⟨position, declared⟩ := List.mem_iff_getElem?.mp member
    exact none (reference, position) (List.mk_mem_zipIdx_iff_getElem?.mpr declared)
      (beq_self_eq_true _)
  · rintro undeclared ⟨other, position⟩ member same
    obtain rfl := eq_of_beq same
    exact undeclared (List.mem_of_getElem? (List.mk_mem_zipIdx_iff_getElem?.mp member))

/-- **The reference pass finds no problem** exactly if every placeholder names a declared
resource. -/
theorem problems_referenceFindings_eq_nil_iff {document : Document} :
    document.referenceFindings.problems = [] ↔ ∀ resource ∈ document.resources, ∀ reference,
      Json.References (.object resource.properties) reference →
        reference ∈ document.references := by
  have here (resource : Resource) (index : Nat) :
      (document.resourceFindings index resource).problems = [] ↔ ∀ reference,
        Json.References (.object resource.properties) reference →
          reference ∈ document.references := by
    simp only [resourceFindings, List.map_eq_nil_iff, List.filter_eq_nil_iff, isNone_lastPosition?,
      not_not, Json.mem_placeholders_iff]
  unfold referenceFindings
  simp only [List.flatMap_eq_nil_iff, List.forall_mem_map, here]
  constructor
  · intro each resource member
    obtain ⟨index, there⟩ := List.mem_iff_getElem?.mp member
    exact each (resource, index) (List.mk_mem_zipIdx_iff_getElem?.mpr there)
  · rintro each ⟨resource, index⟩ member
    exact each resource (List.mem_of_getElem? (List.mk_mem_zipIdx_iff_getElem?.mp member))

/-! ### Validation -/

theorem texts_ne_nil {findings : Findings} (invalid : findings.isValid = false) :
    ∃ text texts, findings.texts = text :: texts := by
  cases given : findings.problems with
  | nil => simp [Findings.isValid, given] at invalid
  | cons problem rest =>
    refine ⟨problem.text, rest.map Problem.text, ?_⟩
    rw [Findings.texts, given, List.map_cons]

/-- A value is accepted or refused with at least one problem. -/
theorem validate_ok_or_invalid (source : String) (raw : Json) :
    (∃ document warnings, (validate source raw).value = .ok ⟨document, warnings⟩) ∨
      ∃ problem problems,
        (validate source raw).value = .error (.invalid source (problem :: problems)) := by
  simp only [validate]
  split
  · rename_i invalid
    obtain ⟨text, texts, same⟩ := texts_ne_nil (by simpa using invalid)
    rw [same]
    exact Or.inr ⟨text, texts, rfl⟩
  · split
    · exact Or.inr ⟨_, _, rfl⟩
    · split
      · rename_i invalid
        obtain ⟨text, texts, same⟩ := texts_ne_nil (by simpa using invalid)
        rw [same]
        exact Or.inr ⟨text, texts, rfl⟩
      · exact Or.inl ⟨_, _, rfl⟩

/-- A value that goes through both passes is accepted. -/
theorem validate_eq_ok_of_passes {source : String} {raw : Json} {document : Document}
    (shaped : (Schema.check raw.withTextVersion).problems = [])
    (read : Document.ofJson raw.withTextVersion = .ok document)
    (closed : document.referenceFindings.problems = []) :
    ∃ warnings, (validate source raw).value = .ok ⟨document, warnings⟩ := by
  have shapedValid : (Schema.check raw.withTextVersion).isValid = true :=
    List.isEmpty_iff.mpr shaped
  have closedValid : document.referenceFindings.isValid = true := List.isEmpty_iff.mpr closed
  simp only [validate, shapedValid, read, closedValid, Bool.not_true, Bool.false_eq_true, if_false]
  exact ⟨_, rfl⟩

/-- **An accepted value denotes its document.** -/
theorem denotes_of_validate_eq_ok {source : String} {raw : Json} {document : Document}
    {warnings : List String} (accepted : (validate source raw).value = .ok ⟨document, warnings⟩) :
    Denotes raw document := by
  obtain ⟨shaped, read, closed, _⟩ := validate_eq_ok accepted
  cases raw with
  | object fields =>
    obtain ⟨⟨sketch, declares⟩, _⟩ := Schema.problems_check_eq_nil_iff.mp shaped
    rw [ofJson_withTextVersion declares] at read
    cases minutes : Json.optionalMinutes (Fields.get? "estimated_setup_time_minutes" fields) with
    | error malformation =>
      rw [minutes] at read
      cases read
    | ok given =>
      rw [minutes] at read
      cases read
      obtain ⟨version, supported, name, named, title, titled, description, author, tags, resources,
        distinct⟩ := declares
      refine .mapping ⟨version, supported, name, named, title, titled, description, author, tags,
        resources, distinct⟩ (Json.optionalMinutes_eq_ok_iff.mp minutes) ?_
      exact problems_referenceFindings_eq_nil_iff.mp closed
  | _ => exact absurd shaped (List.cons_ne_nil _ _)

/-- **A value that denotes a document is accepted** as that document. -/
theorem validate_eq_ok_of_denotes {source : String} {raw : Json} {document : Document}
    (denotes : Denotes raw document) :
    ∃ warnings, (validate source raw).value = .ok ⟨document, warnings⟩ := by
  obtain ⟨declares, minutes, closed⟩ := denotes
  refine validate_eq_ok_of_passes
    (Schema.problems_check_eq_nil_iff.mpr ⟨⟨_, declares⟩, minutes.eq_natural⟩) ?_
    (problems_referenceFindings_eq_nil_iff.mpr closed)
  rw [ofJson_withTextVersion declares, Json.optionalMinutes_eq_ok_iff.mpr minutes]
  rfl

end Document

/-- **Validation accepts exactly the grammar.** A value is accepted as a document if and only if it
denotes that document; and a value that is not accepted is refused as invalid under the name of its
source, with at least one problem. -/
theorem validate_accepts (source : String) (raw : Json) :
    (∀ document, (∃ warnings, (Document.validate source raw).value = .ok ⟨document, warnings⟩) ↔
        Denotes raw document) ∧
      ((∃ document warnings, (Document.validate source raw).value = .ok ⟨document, warnings⟩) ∨
        ∃ problem problems,
          (Document.validate source raw).value =
            .error (.invalid source (problem :: problems))) := by
  refine ⟨fun document => ⟨?_, Document.validate_eq_ok_of_denotes⟩,
    Document.validate_ok_or_invalid source raw⟩
  rintro ⟨warnings, accepted⟩
  exact Document.denotes_of_validate_eq_ok accepted

end ResourceGraph
