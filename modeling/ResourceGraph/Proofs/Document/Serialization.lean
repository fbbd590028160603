/-
**Validated documents survive serialization.**

A document is written as a mapping that leaves out what is absent or empty, and a tree keeps the
fields of a mapping in an order of its own. Whatever the order, validation accepts the tree of an
accepted document, as the same document and with the same warnings: the tree is in the grammar, and
the warnings depend on the document alone.

* `Resource.WrittenAs`, `Document.WrittenAs`: the trees of a resource and of a document, in any
  order of the fields; `writtenAs_json` and `writtenAs_arranged` are the declared and the increasing
  one;
* `Grammar.Denotes.of_writtenAs`: the tree of a document of the grammar denotes that document;
* `warnings_of_denotes`: the warnings about the document that a value denotes;
* `validate_survives`: both together.
-/

import ResourceGraph.Proofs.Document.Acceptance
import ResourceGraph.Proofs.Json.Fields

namespace ResourceGraph

open Grammar

/-! ### Trees of documents -/

/-- A mapping with its fields in increasing order. -/
def Json.arranged : Json → Json
  | .object fields => .object (Fields.ofList fields)
  | other => other

/-- The tree holds the fields of the resource, in some order. -/
inductive Resource.WrittenAs (resource : Resource) : Json → Prop where
  | mapping {fields : Fields} (same : ∀ key, fields.get? key = resource.json.field? key) :
      WrittenAs resource (.object fields)

/-- The tree holds the fields of the document, in some order, and so do those of its resources. -/
inductive Document.WrittenAs (document : Document) : Json → Prop where
  | mapping {fields : Fields} {entries : List Json}
      (same : ∀ key, key ≠ "resources" → fields.get? key = document.json.field? key)
      (listed : fields.get? "resources" = some (.array entries))
      (each : List.Forall₂ (fun entry resource => Resource.WrittenAs resource entry) entries
        document.resources) :
      WrittenAs document (.object fields)

/-- The document as a value with all fields in increasing order. -/
def Document.arranged (document : Document) : Json :=
  .object (((document.json.arranged.fields?).getD []).insert "resources"
    (.array (document.resources.map fun resource => resource.json.arranged)))

/-! ### Fields of written values -/

namespace Fields

theorem get?_optionalField (key other : String) (value : Option Json) :
    get? other (Json.optionalField key value) = if key = other then value else none := by
  cases value with
  | none => exact (ite_self _).symm
  | some value => rfl

theorem get?_textsField (key other : String) (texts : List String) :
    get? other (Json.textsField key texts) =
      if key = other then if texts.isEmpty then none else some (Json.ofTexts texts) else none := by
  unfold Json.textsField
  cases texts.isEmpty with
  | true => exact (ite_self _).symm
  | false => rfl

theorem keys_optionalField (key : String) (value : Option Json) :
    ((Json.optionalField key value).map Prod.fst).Sublist [key] := by
  cases value with
  | none => exact List.nil_sublist _
  | some value => exact List.Sublist.refl _

theorem keys_textsField (key : String) (texts : List String) :
    ((Json.textsField key texts).map Prod.fst).Sublist [key] := by
  unfold Json.textsField
  cases texts.isEmpty with
  | true => exact List.nil_sublist _
  | false => exact List.Sublist.refl _

/-- **The order of fields without repeated keys means nothing.** -/
theorem get?_ofList_of_nodup {fields : Fields} (distinct : (fields.map Prod.fst).Nodup)
    (key : String) : get? key (ofList fields) = get? key fields := by
  have reversed : (fields.reverse.map Prod.fst).Nodup := by
    rw [List.map_reverse]
    exact List.nodup_reverse.mpr distinct
  rw [get?_ofList]
  by_cases there : key ∈ fields.map Prod.fst
  · obtain ⟨⟨_, value⟩, member, rfl⟩ := List.mem_map.mp there
    rw [get?_eq_some_of_mem distinct member,
      get?_eq_some_of_mem reversed (List.mem_reverse.mpr member)]
  · rw [get?_eq_none_iff.mpr there, get?_eq_none_iff, List.map_reverse, List.mem_reverse]
    exact there

end Fields

namespace Resource

variable (resource : Resource)

/-- What the fields of a written resource hold. -/
theorem field?_json :
    resource.json.field? "type" = some (.string resource.kind.name) ∧
      resource.json.field? "name" = some (.string resource.name) ∧
      resource.json.field? "properties" = some (.object resource.properties) ∧
      resource.json.field? "id_reference" = some (.string resource.reference) ∧
      resource.json.field? "tags" =
        if resource.tags.isEmpty then none else some (Json.ofTexts resource.tags) := by
  simp [json, Json.field?, Fields.get?, Fields.get?_textsField]

theorem field?_arranged (key : String) :
    resource.json.arranged.field? key = resource.json.field? key := by
  refine Fields.get?_ofList_of_nodup ?_ key
  have distinct : Resource.fieldNames.Nodup := by decide
  refine distinct.sublist ?_
  rw [List.map_append]
  exact (List.Sublist.refl _).append (Fields.keys_textsField "tags" resource.tags)

theorem writtenAs_json : resource.WrittenAs resource.json :=
  .mapping fun _ => rfl

theorem writtenAs_arranged : resource.WrittenAs resource.json.arranged :=
  .mapping (field?_arranged resource)

end Resource

namespace Document

variable (document : Document)

/-- What the fields of a written document hold. -/
theorem field?_json :
    document.json.field? "format_version" = some (.string document.formatVersion) ∧
      document.json.field? "name" = some (.string document.name) ∧
      document.json.field? "title" = some (.string document.title) ∧
      document.json.field? "description" = document.description.map .string ∧
      document.json.field? "author" = document.author.map .string ∧
      document.json.field? "tags" =
        (if document.tags.isEmpty then none else some (Json.ofTexts document.tags)) ∧
      document.json.field? "estimated_setup_time_minutes" =
        (document.setupMinutes.map fun minutes => Json.ofNat minutes.toNat) ∧
      document.json.field? "resources" =
        some (.array (document.resources.map Resource.json)) := by
  simp [json, Json.field?, Fields.get?, Fields.get?_append, Fields.get?_textsField,
    Fields.get?_optionalField]

theorem field?_arranged_json (key : String) :
    document.json.arranged.field? key = document.json.field? key := by
  refine Fields.get?_ofList_of_nodup ?_ key
  have distinct : Document.fieldNames.Nodup := by decide
  refine distinct.sublist ?_
  simp only [List.map_append]
  exact (((((List.Sublist.refl ["format_version", "name", "title"]).append
    (Fields.keys_optionalField "description" _)).append
    (Fields.keys_optionalField "author" _)).append (Fields.keys_textsField "tags" _)).append
    (Fields.keys_optionalField "estimated_setup_time_minutes" _)).append
    (List.Sublist.refl ["resources"])

/-- The fields of a document may stand in declared order. -/
theorem writtenAs_json : document.WrittenAs document.json := by
  refine .mapping (fun _ _ => rfl) (field?_json document).2.2.2.2.2.2.2 ?_
  rw [List.forall₂_map_left_iff, List.forall₂_same]
  exact fun resource _ => resource.writtenAs_json

/-- The fields of a document may stand in increasing order. -/
theorem writtenAs_arranged : document.WrittenAs document.arranged := by
  refine .mapping (fun key apart => ?_) (Fields.get?_insert_self _ _ _) ?_
  · rw [Fields.get?_insert_of_ne apart.symm]
    exact field?_arranged_json document key
  · rw [List.forall₂_map_left_iff, List.forall₂_same]
    exact fun resource _ => resource.writtenAs_arranged

end Document

/-! ### Written documents are in the grammar -/

namespace Grammar

theorem optionalText_written (text : Option String) : OptionalText (text.map .string) text := by
  cases text with
  | none => exact .absent
  | some text => exact .text text

theorem tags_written (texts : List String) :
    Tags (if texts.isEmpty then none else some (Json.ofTexts texts)) texts := by
  cases texts with
  | nil => exact .absent
  | cons text rest => exact .texts (text :: rest)

theorem minutes_written (minutes : Option UInt32) :
    Minutes (minutes.map fun minutes => Json.ofNat minutes.toNat) minutes := by
  cases minutes with
  | none => exact .absent
  | some minutes => exact .minutes minutes

/-- The tree of a resource that an entry declares is an entry that declares it. -/
theorem Entry.of_writtenAs {entry tree : Json} {resource : Resource}
    (declares : Entry entry resource)
    (written : resource.WrittenAs tree) : Entry tree resource := by
  obtain ⟨declares⟩ := declares
  obtain ⟨same⟩ := written
  obtain ⟨kind, name, properties, reference, tags⟩ := resource.field?_json
  refine .mapping ⟨(same _).trans kind, (same _).trans name, declares.named,
    (same _).trans properties, (same _).trans reference, declares.identifier, ?_⟩
  rw [same, tags]
  exact tags_written resource.tags

theorem forall₂_entry_of_writtenAs {entries trees : List Json} {resources : List Resource}
    (declare : List.Forall₂ Entry entries resources)
    (written : List.Forall₂ (fun tree resource => Resource.WrittenAs resource tree) trees
      resources) :
    List.Forall₂ Entry trees resources := by
  induction written generalizing entries with
  | nil => exact .nil
  | cons first rest ih =>
    cases declare with
    | cons declares later => exact .cons (declares.of_writtenAs first) (ih later)

/-- **The tree of a document of the grammar denotes that document.** -/
theorem Denotes.of_writtenAs {raw tree : Json} {document : Document}
    (denotes : Denotes raw document)
    (written : document.WrittenAs tree) : Denotes tree document := by
  obtain ⟨declares, _, closed⟩ := denotes
  obtain ⟨same, listed, each⟩ := written
  obtain ⟨version, name, title, description, author, tags, minutes, _⟩ := document.field?_json
  obtain ⟨declared, _, entries⟩ := declares.resources
  refine .mapping ⟨⟨_, (same _ (by decide)).trans version, .text _⟩, declares.supported,
    (same _ (by decide)).trans name, declares.named, (same _ (by decide)).trans title,
    declares.titled, ?_, ?_, ?_, ⟨_, listed, ?_⟩, declares.distinct⟩ ?_ closed
  · rw [same _ (by decide), description]
    exact optionalText_written document.description
  · rw [same _ (by decide), author]
    exact optionalText_written document.author
  · rw [same _ (by decide), tags]
    exact tags_written document.tags
  · exact forall₂_entry_of_writtenAs entries each
  · rw [same _ (by decide), minutes]
    exact minutes_written document.setupMinutes

end Grammar

/-! ### Validation of written documents -/

namespace Document

/-- **The warnings about a document** depend on nothing else. -/
theorem warnings_of_denotes {source : String} {raw : Json} {document : Document}
    {warnings : List String} (denotes : Denotes raw document)
    (accepted : (validate source raw).value = .ok ⟨document, warnings⟩) :
    warnings = document.referenceFindings.warnings ++
      if document.resources.isEmpty then ["Document declares no resources"] else [] := by
  obtain ⟨_, _, _, given⟩ := validate_eq_ok accepted
  cases denotes with
  | @mapping fields _ declares minutes closed =>
    obtain ⟨entries, listed, each⟩ := declares.resources
    have kept := Schema.get?_mapField_of_ne Json.numberAsText fields
      (by decide : "resources" ≠ "format_version")
    have schema : (Schema.check (Json.object fields).withTextVersion).warnings =
        if entries.isEmpty then ["Document declares no resources"] else [] := by
      simp only [Schema.check, Json.withTextVersion, kept, listed]
    have empty : entries.isEmpty = document.resources.isEmpty := by
      generalize document.resources = resources at each
      cases each <;> rfl
    dsimp only at given
    rw [given, schema, empty]

end Document

/-- **Validated documents survive serialization.** An accepted document written as a tree is
accepted again, whatever the order of the fields: it is the same document, with the same warnings in
the same order and so with the same fingerprint. -/
theorem validate_survives (source : String) (raw : Json) (document : Document)
    (warnings : List String)
    (accepted : (Document.validate source raw).value = .ok ⟨document, warnings⟩) :
    document.WrittenAs document.json ∧ document.WrittenAs document.arranged ∧
      ∀ other tree, document.WrittenAs tree →
        (Document.validate other tree).value = .ok ⟨document, warnings⟩ := by
  refine ⟨document.writtenAs_json, document.writtenAs_arranged, fun other tree written => ?_⟩
  have denotes := Document.denotes_of_validate_eq_ok accepted
  have denotesAgain := denotes.of_writtenAs written
  obtain ⟨again, acceptedAgain⟩ :
      ∃ again, (Document.validate other tree).value = .ok ⟨document, again⟩ :=
    Document.validate_eq_ok_of_denotes denotesAgain
  have same : again = warnings := by
    rw [Document.warnings_of_denotes denotesAgain acceptedAgain,
      Document.warnings_of_denotes denotes accepted]
  rw [acceptedAgain, same]

/-- The number one, as a version is written without quotes. -/
def one : Binary64 :=
  { Binary64.zero false with exponent := ⟨1023, by decide⟩ }

/-- A value with a version written as a number, tags that are null, and a system that refers to the
location after it. -/
def rawBay : Json :=
  .object [("title", .string "Bay"), ("name", .string "bay"), ("tags", .null),
    ("format_version", .number (.double one)), ("author", .null),
    ("estimated_setup_time_minutes", Json.ofNat 15),
    ("resources", .array [
      .object [("type", .string "system"), ("name", .string "Bench"),
        ("id_reference", .string "bench"),
        ("properties", .object [("location", .string "${lab}")]), ("tags", Json.ofTexts ["hot"])],
      .object [("type", .string "location"), ("name", .string "Lab"),
        ("id_reference", .string "lab"), ("properties", .object []), ("tags", .null)]])]

/-- The document in it. -/
def bay : Document where
  formatVersion := "1.0"
  name := "bay"
  title := "Bay"
  description := none
  author := none
  tags := []
  setupMinutes := some 15
  resources := [⟨.system, "Bench", [("location", .string "${lab}")], "bench", ["hot"]⟩,
    ⟨.location, "Lab", [], "lab", []⟩]

/-- The document is accepted again from its tree, where the version is a text and no field is null,
with the warning about its forward reference. -/
theorem validate_survives_bay :
    ∃ bench, bench.reference = "bench" ∧
      let warnings := [Document.forwardReference 0 bench "lab"]
      (Document.validate "raw" rawBay).value = .ok ⟨bay, warnings⟩ ∧
        bay.WrittenAs bay.arranged ∧ bay.arranged ≠ rawBay ∧ bay.arranged ≠ bay.json ∧
        (Document.validate "again" bay.arranged).value = .ok ⟨bay, warnings⟩ := by
  have accepted : ∃ bench, bench.reference = "bench" ∧ (Document.validate "raw" rawBay).value =
      .ok ⟨bay, [Document.forwardReference 0 bench "lab"]⟩ := ⟨_, rfl, rfl⟩
  obtain ⟨bench, named, accepted⟩ := accepted
  obtain ⟨_, arranged, survives⟩ := validate_survives "raw" rawBay bay _ accepted
  exact ⟨bench, named, accepted, arranged, by decide, by decide, survives "again" _ arranged⟩

end ResourceGraph
