/-
**The grammar of documents.**

`Grammar.Denotes value document` says that a raw value is a document of the grammar, and which one.
It is stated field by field and names no pass of validation.

The schema pass is complete for all of the grammar except three things that it does not look at:
whether the setup time fits its type, and whether placeholders name declared resources.

* `entryProblems_eq_nil_iff`, `entriesProblems_eq_nil_iff`: the resource entries without a problem;
* `problems_check_eq_nil_iff`: the values in which the schema pass finds no problem.
-/

import Mathlib.Data.List.Forall2
import ResourceGraph.Document.Validation
import ResourceGraph.Proofs.Document.Placeholder

namespace ResourceGraph

namespace Grammar

/-! ### The values of fields -/

/-- A text with more than blanks. -/
def Filled (text : String) : Prop :=
  ∃ c ∈ text.toList, Text.isBlank c = false

/-- Identifier syntax: a letter or an underscore, then letters, digits and underscores, all
ASCII. -/
def IsIdentifier (text : String) : Prop :=
  ∃ first rest, text.toList = first :: rest ∧ (first.isAlpha = true ∨ first = '_') ∧
    ∀ c ∈ rest, c.isAlphanum = true ∨ c = '_'

/-- A version: a text, or a number that is written like it. -/
inductive Version : Json → String → Prop where
  | text (text : String) : Version (.string text) text
  | number (number : Number) : Version (.number number) number.text

/-- A text that may be absent or null. -/
inductive OptionalText : Option Json → Option String → Prop where
  | absent : OptionalText none none
  | null : OptionalText (some .null) none
  | text (text : String) : OptionalText (some (.string text)) (some text)

/-- A list of texts; one that is absent or null is empty. -/
inductive Tags : Option Json → List String → Prop where
  | absent : Tags none []
  | null : Tags (some .null) []
  | texts (texts : List String) : Tags (some (.array (texts.map .string))) texts

/-- An integer of 32 bits that is not negative, or none. -/
inductive Minutes : Option Json → Option UInt32 → Prop where
  | absent : Minutes none none
  | null : Minutes (some .null) none
  | minutes (minutes : UInt32) : Minutes (some (.number (.integer minutes.toNat))) (some minutes)

/-! ### Documents -/

/-- The fields declare the resource. -/
structure ResourceFields (fields : Fields) (resource : Resource) : Prop where
  kind : fields.get? "type" = some (.string resource.kind.name)
  name : fields.get? "name" = some (.string resource.name)
  named : Filled resource.name
  properties : fields.get? "properties" = some (.object resource.properties)
  reference : fields.get? "id_reference" = some (.string resource.reference)
  identifier : IsIdentifier resource.reference
  tags : Tags (fields.get? "tags") resource.tags

/-- The entry is a mapping that declares the resource. -/
inductive Entry : Json → Resource → Prop where
  | mapping {fields : Fields} {resource : Resource} (declares : ResourceFields fields resource) :
      Entry (.object fields) resource

/-- The fields declare the document, its setup time aside. -/
structure DocumentFields (fields : Fields) (document : Document) : Prop where
  version : ∃ value, fields.get? "format_version" = some value ∧
    Version value document.formatVersion
  supported : document.formatVersion = "1.0"
  name : fields.get? "name" = some (.string document.name)
  named : Filled document.name
  title : fields.get? "title" = some (.string document.title)
  titled : Filled document.title
  description : OptionalText (fields.get? "description") document.description
  author : OptionalText (fields.get? "author") document.author
  tags : Tags (fields.get? "tags") document.tags
  resources : ∃ entries, fields.get? "resources" = some (.array entries) ∧
    List.Forall₂ Entry entries document.resources
  distinct : document.references.Nodup

/-- **The value is a document of the grammar**, and it is this one. -/
inductive Denotes : Json → Document → Prop where
  | mapping {fields : Fields} {document : Document} (declares : DocumentFields fields document)
      (minutes : Minutes (fields.get? "estimated_setup_time_minutes") document.setupMinutes)
      (closed : ∀ resource ∈ document.resources, ∀ reference,
        Json.References (.object resource.properties) reference → reference ∈ document.references) :
      Denotes (.object fields) document

end Grammar

namespace Schema

open Grammar

/-! ### Fields without a problem -/

theorem isBlankText_eq_false_iff {text : String} : Text.isBlankText text = false ↔ Filled text := by
  simp only [Text.isBlankText, List.all_eq_false, Bool.not_eq_true, Filled]

theorem isIdentifier_iff {text : String} : isIdentifier text = true ↔ IsIdentifier text := by
  unfold isIdentifier IsIdentifier
  cases text.toList with
  | nil => simp
  | cons first rest =>
    simp only [Bool.and_eq_true, Bool.or_eq_true, beq_iff_eq, List.all_eq_true]
    constructor
    · exact fun syn => ⟨first, rest, rfl, syn.1, syn.2⟩
    · rintro ⟨_, _, same, start, more⟩
      cases same
      exact ⟨start, more⟩

theorem ofName?_eq_some_iff {name : String} {kind : Kind} :
    Kind.ofName? name = some kind ↔ name = kind.name := by
  constructor
  · intro found
    have same := List.find?_some (p := fun kind : Kind => kind.name == name) found
    exact (eq_of_beq same).symm
  · rintro rfl
    cases kind <;> rfl

theorem textProblems_eq_nil_iff (path : String) {value : Json} :
    textProblems path value = [] ↔ ∃ text, value = .string text ∧ Filled text := by
  cases value with
  | string text =>
    simp only [textProblems, ← isBlankText_eq_false_iff, Json.string.injEq, exists_eq_left']
    cases Text.isBlankText text <;> simp
  | _ => simp [textProblems]

theorem versionProblems_eq_nil_iff {value : Json} :
    versionProblems value = [] ↔ value = .string "1.0" := by
  cases value with
  | string text =>
    have supported : supportedVersions.contains text = true ↔ text = "1.0" := by
      rw [List.contains_iff_mem, supportedVersions, List.mem_singleton]
    rw [versionProblems, Json.string.injEq, ← supported, ite_eq_left_iff,
      imp_iff_not (List.cons_ne_nil _ _), not_not]
  | _ => exact iff_of_false (List.cons_ne_nil _ _) Json.noConfusion

theorem kindProblems_eq_nil_iff (path : String) {value : Json} :
    kindProblems path value = [] ↔ ∃ kind : Kind, value = .string kind.name := by
  cases value with
  | string text =>
    simp only [kindProblems, Json.string.injEq, ← ofName?_eq_some_iff, ← Option.isSome_iff_exists]
    cases (Kind.ofName? text).isSome <;> simp
  | _ => simp [kindProblems]

theorem propertiesProblems_eq_nil_iff (path : String) {value : Json} :
    propertiesProblems path value = [] ↔ ∃ fields, value = .object fields := by
  cases value <;> simp [propertiesProblems]

theorem referenceProblems_eq_nil_iff (path : String) {declared : List String} {value : Json} :
    referenceProblems path declared value = [] ↔
      ∃ reference, value = .string reference ∧ IsIdentifier reference ∧ reference ∉ declared := by
  cases value with
  | string reference =>
    simp only [referenceProblems, Json.string.injEq, exists_eq_left', ← isIdentifier_iff]
    cases isIdentifier reference with
    | false => simp
    | true => by_cases member : reference ∈ declared <;> simp [member]
  | _ => simp [referenceProblems]

theorem all_isString_iff {items : List Json} :
    items.all Json.isString = true ↔ ∃ texts : List String, items = texts.map .string := by
  constructor
  · intro texts
    induction items with
    | nil => exact ⟨[], rfl⟩
    | cons item rest ih =>
      obtain ⟨first, later⟩ := Bool.and_eq_true_iff.mp texts
      obtain ⟨more, rfl⟩ := ih later
      cases item with
      | string text => exact ⟨text :: more, rfl⟩
      | _ => cases first
  · rintro ⟨texts, rfl⟩
    simp [Json.isString]

section Optional

variable {fields : Fields} {key : String} (path : String)

/-- A field has no problem if it is not there or its value has none. -/
theorem fieldProblems_eq_nil_iff {check : Json → List Problem} :
    fieldProblems key check fields = [] ↔
      fields.get? key = none ∨ ∃ value, fields.get? key = some value ∧ check value = [] := by
  unfold fieldProblems
  cases fields.get? key <;> simp

theorem fieldProblems_optionalText :
    fieldProblems key (optionalTextProblems path) fields = [] ↔
      ∃ text, OptionalText (fields.get? key) text := by
  rw [fieldProblems_eq_nil_iff]
  cases fields.get? key with
  | none => exact iff_of_true (Or.inl rfl) ⟨none, .absent⟩
  | some value =>
    simp only [reduceCtorEq, Option.some.injEq, exists_eq_left', false_or]
    cases value with
    | null => exact iff_of_true rfl ⟨none, .null⟩
    | string text => exact iff_of_true rfl ⟨some text, .text text⟩
    | _ =>
      refine iff_of_false (List.cons_ne_nil _ _) ?_
      rintro ⟨text, impossible⟩
      cases impossible

theorem fieldProblems_tags :
    fieldProblems key (tagsProblems path) fields = [] ↔ ∃ texts, Tags (fields.get? key) texts := by
  rw [fieldProblems_eq_nil_iff]
  cases fields.get? key with
  | none => exact iff_of_true (Or.inl rfl) ⟨[], .absent⟩
  | some value =>
    simp only [reduceCtorEq, Option.some.injEq, exists_eq_left', false_or]
    cases value with
    | null => exact iff_of_true rfl ⟨[], .null⟩
    | array items =>
      rw [tagsProblems, ite_eq_left_iff, imp_iff_not (List.cons_ne_nil _ _), not_not,
        all_isString_iff]
      constructor
      · rintro ⟨texts, rfl⟩
        exact ⟨texts, .texts texts⟩
      · rintro ⟨texts, same⟩
        cases same
        exact ⟨texts, rfl⟩
    | _ =>
      refine iff_of_false (List.cons_ne_nil _ _) ?_
      rintro ⟨texts, impossible⟩
      cases impossible

theorem fieldProblems_minutes :
    fieldProblems key minutesProblems fields = [] ↔
      fields.get? key = none ∨ fields.get? key = some .null ∨
        ∃ minutes : Nat, fields.get? key = some (.number (.integer minutes)) := by
  rw [fieldProblems_eq_nil_iff]
  cases fields.get? key with
  | none => simp
  | some value =>
    simp only [reduceCtorEq, Option.some.injEq, exists_eq_left', false_or]
    cases value with
    | null => simp [minutesProblems, Json.natural?, Json.isNull]
    | number number =>
      cases number with
      | integer value => cases value <;> simp [minutesProblems, Json.natural?, Json.isNull]
      | double value => simp [minutesProblems, Json.natural?, Json.isNull]
    | _ => simp [minutesProblems, Json.natural?, Json.isNull]

end Optional

/-! ### Required fields -/

section Required

variable {fields : Fields}

/-- Nothing required is missing. -/
theorem missing_eq_nil_iff {required : List String} {problem : String → Problem} :
    (required.filter fun key => !Fields.hasKey fields key).map problem = [] ↔
      ∀ key ∈ required, fields.get? key ≠ none := by
  simp only [List.map_eq_nil_iff, List.filter_eq_nil_iff, Fields.hasKey, Bool.not_eq_true',
    Bool.not_eq_false, Option.isSome_iff_ne_none]

/-- A required field without a problem has a value without one. -/
theorem required_and_fieldProblems {key : String} {check : Json → List Problem} :
    fields.get? key ≠ none ∧ fieldProblems key check fields = [] ↔
      ∃ value, fields.get? key = some value ∧ check value = [] := by
  rw [fieldProblems_eq_nil_iff]
  cases fields.get? key <;> simp

end Required

/-! ### Entries without a problem -/

theorem entryProblems_object_eq_nil_iff {index : Nat} {declared : List String} {fields : Fields} :
    entryProblems index declared (.object fields) = [] ↔
      ∃ resource, ResourceFields fields resource ∧ resource.reference ∉ declared := by
  simp only [entryProblems, List.append_eq_nil_iff, missing_eq_nil_iff, requiredResourceFields,
    List.forall_mem_cons, List.not_mem_nil, false_implies, implies_true, and_true, and_assoc]
  constructor
  · rintro ⟨hasKind, hasName, hasProperties, hasReference, kindOk, nameOk, propertiesOk, tagsOk,
      referenceOk⟩
    obtain ⟨_, kindIs, noKind⟩ := required_and_fieldProblems.mp ⟨hasKind, kindOk⟩
    obtain ⟨_, nameIs, noName⟩ := required_and_fieldProblems.mp ⟨hasName, nameOk⟩
    obtain ⟨_, propertiesAre, noProperties⟩ :=
      required_and_fieldProblems.mp ⟨hasProperties, propertiesOk⟩
    obtain ⟨_, referenceIs, noReference⟩ :=
      required_and_fieldProblems.mp ⟨hasReference, referenceOk⟩
    obtain ⟨kind, rfl⟩ := (kindProblems_eq_nil_iff _).mp noKind
    obtain ⟨name, rfl, named⟩ := (textProblems_eq_nil_iff _).mp noName
    obtain ⟨properties, rfl⟩ := (propertiesProblems_eq_nil_iff _).mp noProperties
    obtain ⟨reference, rfl, identifier, fresh⟩ := (referenceProblems_eq_nil_iff _).mp noReference
    obtain ⟨tags, tagsAre⟩ := (fieldProblems_tags _).mp tagsOk
    exact ⟨⟨kind, name, properties, reference, tags⟩,
      ⟨kindIs, nameIs, named, propertiesAre, referenceIs, identifier, tagsAre⟩, fresh⟩
  · rintro ⟨resource, declares, fresh⟩
    obtain ⟨hasKind, kindOk⟩ := required_and_fieldProblems.mpr
      ⟨_, declares.kind, (kindProblems_eq_nil_iff (entryPath index ++ ".type")).mpr ⟨_, rfl⟩⟩
    obtain ⟨hasName, nameOk⟩ := required_and_fieldProblems.mpr
      ⟨_, declares.name, (textProblems_eq_nil_iff (entryPath index ++ ".name")).mpr
        ⟨_, rfl, declares.named⟩⟩
    obtain ⟨hasProperties, propertiesOk⟩ := required_and_fieldProblems.mpr
      ⟨_, declares.properties,
        (propertiesProblems_eq_nil_iff (entryPath index ++ ".properties")).mpr ⟨_, rfl⟩⟩
    obtain ⟨hasReference, referenceOk⟩ := required_and_fieldProblems.mpr
      ⟨_, declares.reference,
        (referenceProblems_eq_nil_iff (entryPath index ++ ".id_reference")).mpr
          ⟨_, rfl, declares.identifier, fresh⟩⟩
    have tagsOk := (fieldProblems_tags (entryPath index ++ ".tags")).mpr ⟨_, declares.tags⟩
    exact ⟨hasKind, hasName, hasProperties, hasReference, kindOk, nameOk, propertiesOk, tagsOk,
      referenceOk⟩

theorem entryProblems_eq_nil_iff {index : Nat} {declared : List String} {entry : Json} :
    entryProblems index declared entry = [] ↔
      ∃ resource, Entry entry resource ∧ resource.reference ∉ declared := by
  cases entry with
  | object fields =>
    rw [entryProblems_object_eq_nil_iff]
    refine exists_congr fun resource => and_congr_left fun _ => ?_
    constructor
    · exact .mapping
    · rintro ⟨declares⟩
      exact declares
  | _ =>
    refine iff_of_false (List.cons_ne_nil _ _) ?_
    rintro ⟨resource, impossible, _⟩
    cases impossible

theorem declaredReference?_of_entry {entry : Json} {resource : Resource}
    (declares : Entry entry resource) :
    declaredReference? entry = some resource.reference := by
  obtain ⟨declares⟩ := declares
  have identifier := isIdentifier_iff.mpr declares.identifier
  simp only [declaredReference?, Json.field?, declares.reference, Option.bind_some, Json.text?,
    Option.filter_some, identifier, if_true]

/-- **Entries have no problem** exactly if they declare resources with references of their own. -/
theorem entriesProblems_eq_nil_iff {index : Nat} {declared : List String} {entries : List Json} :
    entriesProblems index declared entries = [] ↔
      ∃ resources, List.Forall₂ Entry entries resources ∧
        (resources.map Resource.reference).Nodup ∧
        ∀ resource ∈ resources, resource.reference ∉ declared := by
  induction entries generalizing index declared with
  | nil => exact iff_of_true rfl ⟨[], .nil, List.nodup_nil, List.forall_mem_nil _⟩
  | cons entry rest ih =>
    rw [entriesProblems, List.append_eq_nil_iff, entryProblems_eq_nil_iff, ih]
    constructor
    · rintro ⟨⟨resource, declares, fresh⟩, resources, each, distinct, apart⟩
      rw [declaredReference?_of_entry declares] at apart
      simp only [Option.toList_some, List.mem_append, List.mem_singleton, not_or] at apart
      refine ⟨resource :: resources, .cons declares each, ?_, ?_⟩
      · refine List.nodup_cons.mpr ⟨fun member => ?_, distinct⟩
        obtain ⟨other, among, same⟩ := List.mem_map.mp member
        exact (apart other among).2 same
      · exact List.forall_mem_cons.mpr ⟨fresh, fun other among => (apart other among).1⟩
    · rintro ⟨resources, each, distinct, apart⟩
      cases each with
      | @cons _ resource _ resources declares each =>
        obtain ⟨fresh, apartRest⟩ := List.forall_mem_cons.mp apart
        obtain ⟨new, distinctRest⟩ := List.nodup_cons.mp distinct
        refine ⟨⟨resource, declares, fresh⟩, resources, each, distinctRest, ?_⟩
        rw [declaredReference?_of_entry declares]
        simp only [Option.toList_some, List.mem_append, List.mem_singleton, not_or]
        refine fun other among => ⟨apartRest other among, fun same => new ?_⟩
        rw [← same]
        exact List.mem_map_of_mem among

/-! ### The format version as a text -/

theorem get?_mapField {key other : String} {change : Json → Json} {fields : Fields} :
    Fields.get? other (Json.mapField key change fields) =
      if other = key then (fields.get? other).map change else fields.get? other := by
  induction fields with
  | nil => simp [Json.mapField, Fields.get?]
  | cons field rest ih =>
    obtain ⟨name, value⟩ := field
    unfold Json.mapField at ih ⊢
    by_cases here : name = other
    · subst here
      by_cases same : name = key <;> simp [Fields.get?, same]
    · have elsewhere : (if name = key then (name, change value) else (name, value)).1 ≠ other := by
        split <;> exact here
      rw [List.map_cons, Fields.get?, if_neg elsewhere, ih, Fields.get?, if_neg here]

theorem get?_mapField_of_ne {key other : String} (change : Json → Json) (fields : Fields)
    (apart : other ≠ key) :
    Fields.get? other (Json.mapField key change fields) = fields.get? other := by
  rw [get?_mapField, if_neg apart]

theorem numberAsText_eq_string_iff {value : Json} {text : String} :
    value.numberAsText = .string text ↔ Version value text := by
  cases value with
  | string other =>
    constructor
    · intro same
      cases same
      exact .text text
    · rintro ⟨⟩
      rfl
  | number number =>
    constructor
    · intro same
      cases same
      exact .number number
    · rintro ⟨⟩
      rfl
  | _ =>
    refine iff_of_false Json.noConfusion ?_
    rintro ⟨⟩

/-- The version after it was taken as a text. -/
theorem get?_version_iff {fields : Fields} {text : String} :
    Fields.get? "format_version" (Json.mapField "format_version" Json.numberAsText fields) =
        some (.string text) ↔
      ∃ value, fields.get? "format_version" = some value ∧ Version value text := by
  rw [get?_mapField, if_pos rfl, Option.map_eq_some_iff]
  simp only [numberAsText_eq_string_iff]

/-! ### Documents without a problem -/

/-- No problem in the entries and none beside them. -/
theorem problems_check_object_eq_nil_iff {fields : Fields} :
    (check (.object fields)).problems = [] ↔
      documentProblems fields = [] ∧ ∃ entries, fields.get? "resources" = some (.array entries) ∧
        entriesProblems 0 [] entries = [] := by
  have listed (clean : documentProblems fields = []) : fields.get? "resources" ≠ none := by
    simp only [documentProblems, List.append_eq_nil_iff, missing_eq_nil_iff] at clean
    exact clean.1.1.1.1.1.1.1 "resources" (by decide)
  simp only [check]
  cases given : Fields.get? "resources" fields with
  | none => exact iff_of_false (fun clean => listed clean given) fun clean => listed clean.1 given
  | some value =>
    cases value with
    | array entries => simp
    | _ => simp

/-- **The schema pass finds no problem** exactly in a value that declares a document and has no
other setup time than a natural number. -/
theorem problems_check_eq_nil_iff {fields : Fields} :
    (check (Json.object fields).withTextVersion).problems = [] ↔
      (∃ document, DocumentFields fields document) ∧
        (fields.get? "estimated_setup_time_minutes" = none ∨
          fields.get? "estimated_setup_time_minutes" = some .null ∨
          ∃ minutes : Nat,
            fields.get? "estimated_setup_time_minutes" = some (.number (.integer minutes))) := by
  have kept {key : String} (apart : key ≠ "format_version") :=
    get?_mapField_of_ne Json.numberAsText fields apart
  rw [Json.withTextVersion, problems_check_object_eq_nil_iff]
  simp only [documentProblems, List.append_eq_nil_iff, missing_eq_nil_iff, requiredFields,
    List.forall_mem_cons, List.not_mem_nil, false_implies, implies_true, and_true,
    fieldProblems_optionalText, fieldProblems_tags, fieldProblems_minutes,
    entriesProblems_eq_nil_iff, not_false_eq_true, and_assoc,
    kept (by decide : "resources" ≠ "format_version"),
    kept (by decide : "description" ≠ "format_version"),
    kept (by decide : "author" ≠ "format_version"), kept (by decide : "tags" ≠ "format_version"),
    kept (by decide : "estimated_setup_time_minutes" ≠ "format_version")]
  constructor
  · rintro ⟨hasVersion, hasName, hasTitle, _, versionOk, nameOk, titleOk, ⟨description, described⟩,
      ⟨author, authored⟩, ⟨tags, tagged⟩, minutes, entries, listed, resources, each, distinct⟩
    obtain ⟨_, versionIs, noVersion⟩ := required_and_fieldProblems.mp ⟨hasVersion, versionOk⟩
    obtain ⟨_, nameIs, noName⟩ := required_and_fieldProblems.mp ⟨hasName, nameOk⟩
    obtain ⟨_, titleIs, noTitle⟩ := required_and_fieldProblems.mp ⟨hasTitle, titleOk⟩
    obtain rfl := versionProblems_eq_nil_iff.mp noVersion
    obtain ⟨name, rfl, named⟩ := (textProblems_eq_nil_iff _).mp noName
    obtain ⟨title, rfl, titled⟩ := (textProblems_eq_nil_iff _).mp noTitle
    rw [kept (by decide)] at nameIs titleIs
    exact ⟨⟨⟨"1.0", name, title, description, author, tags, none, resources⟩,
      ⟨get?_version_iff.mp versionIs, rfl, nameIs, named, titleIs, titled, described,
        authored, tagged, ⟨entries, listed, each⟩, distinct⟩⟩, minutes⟩
  · rintro ⟨⟨document, declares⟩, minutes⟩
    have versionIs := get?_version_iff.mpr declares.version
    have nameIs := (kept (by decide : "name" ≠ "format_version")).trans declares.name
    have titleIs := (kept (by decide : "title" ≠ "format_version")).trans declares.title
    obtain ⟨entries, listed, each⟩ := declares.resources
    obtain ⟨hasVersion, versionOk⟩ := required_and_fieldProblems.mpr
      ⟨_, versionIs, versionProblems_eq_nil_iff.mpr (congrArg Json.string declares.supported)⟩
    obtain ⟨hasName, nameOk⟩ := required_and_fieldProblems.mpr
      ⟨_, nameIs, (textProblems_eq_nil_iff "name").mpr ⟨_, rfl, declares.named⟩⟩
    obtain ⟨hasTitle, titleOk⟩ := required_and_fieldProblems.mpr
      ⟨_, titleIs, (textProblems_eq_nil_iff "title").mpr ⟨_, rfl, declares.titled⟩⟩
    have isListed : fields.get? "resources" ≠ none := by
      rw [listed]
      exact Option.some_ne_none _
    exact ⟨hasVersion, hasName, hasTitle, isListed, versionOk, nameOk, titleOk,
      ⟨_, declares.description⟩, ⟨_, declares.author⟩, ⟨_, declares.tags⟩, minutes, entries, listed,
      document.resources, each, declares.distinct⟩

end Schema

end ResourceGraph
