/-
**What a created entry says, and which filters select it.**

A create call carries one entry. It starts from the declared properties under their names on the
service; then the name, the keywords, the custom properties and what is derived from the properties
are set over them, and last come the fields that only stand in where nothing is declared. So no
declared key, however it is spelled, reaches the fields that are set; but the workspace is one of
those that stand in.

* `Clause.holds`, `Filter.selects`: which entries a filter is about;
* `get?_createdFields_of_mem`: what is set is in the entry;
* `holds_nameClause`, `holds_tagClause`: the entry meets the clauses on its name and its cleanup
  tag;
* `createRequest_identifies`: every create call carries the name and the cleanup tag;
* `createRequest_scoped`: and the workspace, unless another one is declared.
-/

import ResourceGraph.Proofs.Json.Fields
import ResourceGraph.Proofs.Service.Deletion
import ResourceGraph.Proofs.Text.Pieces
import ResourceGraph.Service.Resource

namespace ResourceGraph

/-! ### Which entries a filter is about -/

/-- The value below some keys, the outermost first. -/
def Json.at? : List String → Json → Option Json
  | [], value => some value
  | key :: rest, value => (value.field? key).bind (at? rest)

theorem Json.isString_eq_true_iff {value : Json} :
    value.isString = true ↔ ∃ text, value = .string text := by
  cases value with
  | string text => exact iff_of_true rfl ⟨text, rfl⟩
  | _ => exact iff_of_false Bool.false_ne_true fun ⟨text, same⟩ => by cases same

/-- The fields that filters name otherwise than entries do: what an asset has, and custom
properties. -/
def Filter.places : List (String × List String) :=
  [("AssetName", ["name"]), ("Keywords", ["keywords"]),
    (Endpoint.propertyField Endpoint.cleanupProperty, ["properties", Endpoint.cleanupProperty]),
    ("properties." ++ Endpoint.cleanupProperty, ["properties", Endpoint.cleanupProperty]),
    (Endpoint.propertyField Endpoint.tagsProperty, ["properties", Endpoint.tagsProperty])]

/-- Where an entry has the field that a filter names. -/
def Filter.place (field : String) : List String :=
  (places.lookup field).getD [field]

/-- The entry meets the clause. A list contains its items, and a text contains the texts inside
it. -/
def Clause.holds (entry : Json) : Clause → Bool
  | .equals field value => decide (entry.at? (Filter.place field) = some (.string value))
  | .contains field value =>
    match entry.at? (Filter.place field) with
    | some (.array items) => items.contains (.string value)
    | some (.string text) => Text.contains text value
    | _ => false

/-- The entry meets all clauses. -/
def Filter.selects (filter : Filter) (entry : Json) : Bool :=
  filter.all fun clause => clause.holds entry

/-- The entry that a create call carries: its body, or the only item of the list in it. -/
def Endpoint.entryIn? (endpoint : Endpoint) (request : Request) : Option Json :=
  request.body.bind fun body =>
    match endpoint.batchKey with
    | none => some body
    | some key =>
      match body.field? key with
      | some (.array [entry]) => some entry
      | _ => none

/-! ### Bodies -/

namespace Payload

theorem get?_setAll (key : String) (fields : Fields) (forced : List (String × Json)) :
    Fields.get? key (setAll fields forced) =
      (Fields.get? key forced.reverse).or (Fields.get? key fields) :=
  Fields.get?_foldl_insert key fields forced

/-- What is set is there, if no key is set twice. -/
theorem get?_setAll_of_mem {key : String} {value : Json} {fields : Fields}
    {forced : List (String × Json)} (distinct : (forced.map Prod.fst).Nodup)
    (member : (key, value) ∈ forced) :
    Fields.get? key (setAll fields forced) = some value := by
  have reversed : (forced.reverse.map Prod.fst).Nodup := by
    rw [List.map_reverse]
    exact List.nodup_reverse.mpr distinct
  rw [get?_setAll, Fields.get?_eq_some_of_mem reversed (List.mem_reverse.mpr member)]
  rfl

theorem get?_setAll_of_not_mem {key : String} {forced : List (String × Json)}
    (other : key ∉ forced.map Prod.fst) (fields : Fields) :
    Fields.get? key (setAll fields forced) = Fields.get? key fields := by
  have unset : Fields.get? key forced.reverse = none := by
    rw [Fields.get?_eq_none_iff, List.map_reverse, List.mem_reverse]
    exact other
  rw [get?_setAll, unset, Option.none_or]

/-- A default counts where nothing is there. -/
theorem get?_setMissing (key : String) (fields : Fields) (defaults : List (String × Json)) :
    Fields.get? key (setMissing fields defaults) =
      (Fields.get? key fields).or (Fields.get? key defaults) := by
  induction defaults generalizing fields with
  | nil => exact Option.or_none.symm
  | cons field rest ih =>
    obtain ⟨name, value⟩ := field
    show Fields.get? key (setMissing (fields.insertIfNew name value) rest) = _
    rw [ih, Fields.insertIfNew, Fields.hasKey]
    show _ = (Fields.get? key fields).or (if name = key then some value else Fields.get? key rest)
    cases there : Fields.get? name fields with
    | some old =>
      rw [Option.isSome_some, if_pos rfl]
      by_cases here : name = key
      · rw [← here, there, Option.some_or, Option.some_or]
      · rw [if_neg here]
    | none =>
      rw [Option.isSome_none, if_neg Bool.false_ne_true, Fields.get?_insert]
      by_cases here : name = key
      · rw [if_pos here, if_pos here, ← here, there, Option.some_or, Option.none_or]
      · rw [if_neg here, if_neg here]

theorem mem_including {tag text : String} {texts : List String} :
    text ∈ including tag texts ↔ text ∈ texts ∨ text = tag := by
  unfold including
  by_cases there : texts.contains tag = true
  · rw [if_pos there]
    refine ⟨Or.inl, fun either => either.elim id ?_⟩
    rintro rfl
    exact List.contains_iff_mem.mp there
  · rw [if_neg there, List.mem_append, List.mem_singleton]

/-- What is neither a text nor null is stored as its compact text. -/
theorem storedText_eq_compact {value : Json} (other : ∀ text, value ≠ .string text)
    (filled : value ≠ .null) : storedText value = value.compact := by
  cases value with
  | string text => exact absurd rfl (other text)
  | null => exact absurd rfl filled
  | _ => rfl

/-- The cleanup tag is among the keywords, and so is every declared one. -/
theorem mem_keywords {declared : Option Json} {tag text : String} :
    text ∈ keywords declared tag ↔
      (∃ items, declared = some (.array items) ∧ ∃ item ∈ items, storedText item = text) ∨
      text = tag := by
  rw [keywords, mem_including, List.mem_map]
  refine or_congr_left ⟨?_, ?_⟩
  · rintro ⟨item, member, same⟩
    cases declared with
    | none => cases member
    | some value =>
      cases value with
      | array items => exact ⟨items, rfl, item, member, same⟩
      | _ => cases member
  · rintro ⟨items, rfl, item, member, same⟩
    exact ⟨item, member, same⟩

theorem contains_joinedTags (declared : Option Json) (tag : String) :
    Text.contains (joinedTags declared tag) tag = true :=
  Text.contains_join (mem_including.mpr (Or.inr rfl))

/-- Custom properties are texts, whatever was declared. -/
theorem isString_of_mem_storedProperties {declared : Option Json} {field : String × Json}
    (member : field ∈ storedProperties declared) : field.2.isString = true := by
  unfold storedProperties at member
  split at member
  · obtain ⟨given, _, rfl⟩ := List.mem_map.mp (Fields.mem_ofList member)
    rfl
  · cases member

end Payload

namespace Scope

variable (scope : Scope)

theorem isString_of_mem_insert {fields : Fields} (texts : ∀ field ∈ fields, field.2.isString = true)
    (key text : String) : ∀ field ∈ fields.insert key (.string text), field.2.isString = true := by
  intro field member
  rcases Fields.mem_insert member with rfl | kept
  · rfl
  · exact texts field kept

theorem isString_of_mem_customProperties (endpoint : Endpoint) (name : String)
    (properties : Fields) :
    ∀ field ∈ scope.customProperties endpoint name properties, field.2.isString = true := by
  have stored : ∀ field ∈ Payload.storedProperties (properties.get? "properties"),
      field.2.isString = true := fun field member => Payload.isString_of_mem_storedProperties member
  unfold customProperties
  -- the name comes first, where it is repeated, and then the tag
  cases endpoint.nameProperty with
  | none =>
    cases endpoint.carrier with
    | property => exact isString_of_mem_insert stored _ _
    | keyword => exact stored
    | joinedTag => exact isString_of_mem_insert stored _ _
  | some key =>
    have named := isString_of_mem_insert stored key name
    cases endpoint.carrier with
    | property => exact isString_of_mem_insert named _ _
    | keyword => exact named
    | joinedTag => exact isString_of_mem_insert named _ _

theorem get?_customProperties_of_property {endpoint : Endpoint}
    (kept : endpoint.carrier = .property) (name : String) (properties : Fields) :
    Fields.get? Endpoint.cleanupProperty (scope.customProperties endpoint name properties) =
      some (.string scope.tag) := by
  unfold customProperties
  rw [kept]
  exact Fields.get?_insert_self _ _ _

theorem exists_joinedTags_of_joinedTag {endpoint : Endpoint} (kept : endpoint.carrier = .joinedTag)
    (name : String) (properties : Fields) :
    ∃ declared, Fields.get? Endpoint.tagsProperty
        (scope.customProperties endpoint name properties) =
      some (.string (Payload.joinedTags declared scope.tag)) := by
  unfold customProperties
  rw [kept]
  exact ⟨_, Fields.get?_insert_self _ _ _⟩

/-! ### The fields of a created entry -/

/-- The fields of the entry that a create call carries. -/
def createdFields (endpoint : Endpoint) (name : String) (properties : Fields) : Fields :=
  Payload.setMissing
    (Payload.setAll (Payload.declared endpoint.reserved properties)
      (scope.forcedFields endpoint name properties))
    (scope.defaultFields endpoint name)

theorem entryIn?_createRequest (endpoint : Endpoint) (name : String) (properties : Fields) :
    endpoint.entryIn? (scope.createRequest endpoint name properties) =
      some (.object (scope.createdFields endpoint name properties)) := by
  have body : (scope.createRequest endpoint name properties).body =
      some (endpoint.batchKey.elim (.object (scope.createdFields endpoint name properties))
        fun key =>
        .object [(key, .array [.object (scope.createdFields endpoint name properties)])]) := rfl
  rw [Endpoint.entryIn?, body, Option.bind_some]
  cases endpoint.batchKey with
  | none => rfl
  | some key =>
    simp only [Option.elim, Json.field?, Fields.get?, if_true]

/-- Which fields are set does not depend on what is declared. -/
theorem forcedFields_keys (kind : Kind) (name : String) (properties : Fields) :
    (scope.forcedFields kind.endpoint name properties).map Prod.fst =
      (forcedFields ⟨none, ""⟩ kind.endpoint "" []).map Prod.fst := by
  cases kind <;> rfl

theorem nodup_forcedFields (kind : Kind) (name : String) (properties : Fields) :
    ((scope.forcedFields kind.endpoint name properties).map Prod.fst).Nodup := by
  have all : ∀ kind ∈ Kind.all,
      ((forcedFields ⟨none, ""⟩ kind.endpoint "" []).map Prod.fst).Nodup := by
    decide +kernel
  rw [forcedFields_keys]
  exact all kind kind.mem_all

/-- **What is set is in the entry**, whatever is declared. -/
theorem get?_createdFields_of_mem {kind : Kind} {name key : String} {properties : Fields}
    {value : Json} (member : (key, value) ∈ scope.forcedFields kind.endpoint name properties) :
    Fields.get? key (scope.createdFields kind.endpoint name properties) = some value := by
  rw [createdFields, Payload.get?_setMissing,
    Payload.get?_setAll_of_mem (scope.nodup_forcedFields kind name properties) member]
  rfl

theorem get?_createdFields_name (kind : Kind) (name : String) (properties : Fields) :
    Fields.get? kind.endpoint.nameField (scope.createdFields kind.endpoint name properties) =
      some (.string name) :=
  scope.get?_createdFields_of_mem List.mem_cons_self

theorem get?_createdFields_properties (kind : Kind) (name : String) (properties : Fields) :
    Fields.get? "properties" (scope.createdFields kind.endpoint name properties) =
      some (.object (scope.customProperties kind.endpoint name properties)) := by
  refine scope.get?_createdFields_of_mem (List.mem_cons_of_mem _ ?_)
  exact List.mem_append_right _ (List.mem_singleton_self _)

theorem get?_createdFields_keywords {kind : Kind} (kept : kind.endpoint.carrier = .keyword)
    (name : String) (properties : Fields) :
    Fields.get? "keywords" (scope.createdFields kind.endpoint name properties) =
      some (Json.ofTexts (Payload.keywords (properties.get? "keywords") scope.tag)) := by
  refine scope.get?_createdFields_of_mem (List.mem_cons_of_mem _ ?_)
  refine List.mem_append_left _ (List.mem_append_left _ ?_)
  rw [keywordFields, kept]
  exact List.mem_singleton_self _

/-! ### The clauses that a created entry meets -/

/-- The clause on the name is about the field that holds the name. -/
theorem exists_place_nameClause (kind : Kind) :
    ∃ field, kind.endpoint.nameClause = .equals field ∧
      Filter.place field = [kind.endpoint.nameField] := by
  cases kind <;> exact ⟨_, rfl, rfl⟩

/-- The clause on the cleanup tag is about the place where it is kept. -/
theorem exists_place_tagClause (kind : Kind) :
    ∃ field, match kind.endpoint.carrier with
      | .property => kind.endpoint.tagClause = .equals field ∧
          Filter.place field = ["properties", Endpoint.cleanupProperty]
      | .keyword => kind.endpoint.tagClause = .contains field ∧ Filter.place field = ["keywords"]
      | .joinedTag => kind.endpoint.tagClause = .contains field ∧
          Filter.place field = ["properties", Endpoint.tagsProperty] := by
  cases kind <;> exact ⟨_, rfl, rfl⟩

theorem holds_nameClause_iff {kind : Kind} {name : String} {fields : Fields} :
    (kind.endpoint.nameClause name).holds (.object fields) = true ↔
      Fields.get? kind.endpoint.nameField fields = some (.string name) := by
  obtain ⟨field, clause, place⟩ := exists_place_nameClause kind
  rw [clause, Clause.holds, place, decide_eq_true_iff]
  show (Fields.get? kind.endpoint.nameField fields).bind some = _ ↔ _
  rw [Option.bind_fun_some]

/-- **A created entry meets the clause on its name**, and that on no other one. -/
theorem holds_nameClause {kind : Kind} {name other : String} {properties : Fields} :
    (kind.endpoint.nameClause other).holds
      (.object (scope.createdFields kind.endpoint name properties)) = true ↔ other = name := by
  rw [holds_nameClause_iff, get?_createdFields_name, Option.some_inj, Json.string.injEq]
  exact eq_comm

/-- **A created entry meets the clause on the cleanup tag.** -/
theorem holds_tagClause (kind : Kind) (name : String) (properties : Fields) :
    (kind.endpoint.tagClause scope.tag).holds
      (.object (scope.createdFields kind.endpoint name properties)) = true := by
  obtain ⟨field, tagged⟩ := exists_place_tagClause kind
  have custom : Json.field? "properties"
      (.object (scope.createdFields kind.endpoint name properties)) =
      some (.object (scope.customProperties kind.endpoint name properties)) :=
    scope.get?_createdFields_properties kind name properties
  cases kept : kind.endpoint.carrier with
  | property =>
    rw [kept] at tagged
    obtain ⟨clause, place⟩ := tagged
    rw [clause, Clause.holds, place, Json.at?, custom, decide_eq_true_iff, Option.bind_some,
      Json.at?, Json.field?, scope.get?_customProperties_of_property kept]
    rfl
  | keyword =>
    rw [kept] at tagged
    obtain ⟨clause, place⟩ := tagged
    have keywords : Json.field? "keywords"
        (.object (scope.createdFields kind.endpoint name properties)) =
          some (Json.ofTexts (Payload.keywords (properties.get? "keywords") scope.tag)) :=
      scope.get?_createdFields_keywords kept name properties
    rw [clause, Clause.holds, place, Json.at?, keywords]
    have member : scope.tag ∈ Payload.keywords (properties.get? "keywords") scope.tag :=
      Payload.mem_keywords.mpr (Or.inr rfl)
    exact List.contains_iff_mem.mpr (List.mem_map_of_mem member)
  | joinedTag =>
    rw [kept] at tagged
    obtain ⟨clause, place⟩ := tagged
    obtain ⟨declared, tags⟩ := scope.exists_joinedTags_of_joinedTag kept name properties
    rw [clause, Clause.holds, place, Json.at?, custom, Option.bind_some, Json.at?,
      Json.field?, tags]
    exact Payload.contains_joinedTags declared scope.tag

/-! ### The workspace of a created entry -/

/-- The workspace that properties declare: the last value under a key which is the workspace's on
the service. -/
def declaredWorkspace? (properties : Fields) : Option Json :=
  (properties.reverse.find? fun field => Payload.camelCase field.1 == "workspace").map Prod.snd

theorem get?_map_camelCase (key : String) (properties : Fields) :
    Fields.get? key (properties.map fun field => (Payload.camelCase field.1, field.2)) =
      (properties.find? fun field => Payload.camelCase field.1 == key).map Prod.snd := by
  induction properties with
  | nil => rfl
  | cons field rest ih =>
    rw [List.map_cons, Fields.get?, ih, List.find?_cons]
    by_cases here : Payload.camelCase field.1 = key
    · rw [if_pos here, beq_iff_eq.mpr here]
      rfl
    · rw [if_neg here, beq_eq_false_iff_ne.mpr here]

/-- Under a name on the service the last declared property of the name is collected, reserved ones
left aside. -/
theorem get?_declared (reserved : List String) (properties : Fields) (name : String) :
    Fields.get? name (Payload.declared reserved properties) =
      (properties.reverse.find? fun field =>
        !reserved.contains field.1 && Payload.camelCase field.1 == name).map Prod.snd := by
  rw [Payload.declared, Fields.get?_ofList, ← List.map_reverse, get?_map_camelCase,
    ← List.filter_reverse, List.find?_filter]
  simp only [Bool.decide_and, Bool.decide_eq_true]

/-- No key that is handled on its own is the workspace's. -/
theorem camelCase_ne_workspace (kind : Kind) :
    ∀ key ∈ kind.endpoint.reserved, Payload.camelCase key ≠ "workspace" := by
  have all : ∀ kind ∈ Kind.all, ∀ key ∈ kind.endpoint.reserved,
      Payload.camelCase key ≠ "workspace" := by
    decide +kernel
  exact all kind kind.mem_all

theorem get?_declared_workspace (kind : Kind) (properties : Fields) :
    Fields.get? "workspace" (Payload.declared kind.endpoint.reserved properties) =
      declaredWorkspace? properties := by
  rw [get?_declared, declaredWorkspace?]
  congr 2
  funext field
  by_cases here : Payload.camelCase field.1 = "workspace"
  · have passed : kind.endpoint.reserved.contains field.1 = false := by
      rw [List.contains_eq_mem, decide_eq_false_iff_not]
      exact fun handled => camelCase_ne_workspace kind field.1 handled here
    rw [passed, Bool.not_false, Bool.true_and]
  · rw [beq_eq_false_iff_ne.mpr here, Bool.and_false]

theorem get?_createdFields_workspace (kind : Kind) (name : String) (properties : Fields) :
    Fields.get? "workspace" (scope.createdFields kind.endpoint name properties) =
      (declaredWorkspace? properties).or (scope.workspace.map .string) := by
  have unforced :
      "workspace" ∉ (scope.forcedFields kind.endpoint name properties).map Prod.fst := by
    have all : ∀ kind ∈ Kind.all,
        "workspace" ∉ (forcedFields ⟨none, ""⟩ kind.endpoint "" []).map Prod.fst := by
      decide +kernel
    rw [forcedFields_keys]
    exact all kind kind.mem_all
  have standsIn : Fields.get? "workspace" (scope.defaultFields kind.endpoint name) =
      scope.workspace.map .string := by
    have others : Fields.get? "workspace" (kind.endpoint.defaults name) = none := by
      cases kind <;> rfl
    rw [defaultFields, Fields.get?_append, others, Option.none_or]
    cases scope.workspace with
    | none => rfl
    | some workspace => rfl
  rw [createdFields, Payload.get?_setMissing, Payload.get?_setAll_of_not_mem unforced,
    get?_declared_workspace, standsIn]

/-- The filters of the scope select a created entry if its workspace is the configured one. -/
theorem selects_createdFields_iff (kind : Kind) (name : String) (properties : Fields)
    {workspace : String} (configured : scope.workspace = some workspace) :
    ((scope.sweepFilter kind.endpoint).selects
        (.object (scope.createdFields kind.endpoint name properties)) = true ↔
      Fields.get? "workspace" (scope.createdFields kind.endpoint name properties) =
        some (.string workspace)) ∧
    ((scope.lookupFilter kind.endpoint name).selects
        (.object (scope.createdFields kind.endpoint name properties)) = true ↔
      Fields.get? "workspace" (scope.createdFields kind.endpoint name properties) =
        some (.string workspace)) := by
  have place : Filter.place "workspace" = ["workspace"] := rfl
  have sweep : (scope.sweepFilter kind.endpoint).selects
        (.object (scope.createdFields kind.endpoint name properties)) = true ↔
      Fields.get? "workspace" (scope.createdFields kind.endpoint name properties) =
        some (.string workspace) := by
    rw [Filter.selects, sweepFilter, configured, Filter.inWorkspace, List.all_cons, holds_tagClause,
      Bool.true_and, List.all_cons, List.all_nil, Bool.and_true, Clause.holds, place,
      decide_eq_true_iff]
    show (Fields.get? "workspace" _).bind some = _ ↔ _
    rw [Option.bind_fun_some]
  refine ⟨sweep, ?_⟩
  rw [← sweep, Filter.selects, lookupFilter, List.all_cons, scope.holds_nameClause.mpr rfl,
    Bool.true_and]
  rfl

end Scope

/-! ### What every create call carries -/

/-- **Every create call carries the name and the cleanup tag** of its resource, whatever is
declared: the name in the field that look-ups test, custom properties that are texts, and the tag
where look-ups and sweeps test it, beside the declared keywords. A keyword that is a text is kept as
it is, null is an empty one, and any other value is kept as its compact text. -/
theorem createRequest_identifies (scope : Scope) (kind : Kind) (name : String)
    (properties : Fields) :
    ∃ fields custom : Fields,
      kind.endpoint.entryIn? (scope.createRequest kind.endpoint name properties) =
        some (.object fields) ∧
      fields.get? (match kind with
        | .system => "alias"
        | .testResult => "programName"
        | _ => "name") = some (.string name) ∧
      fields.get? "properties" = some (.object custom) ∧
      (∀ field ∈ custom, ∃ text, field.2 = .string text) ∧
      (kind ∈ [.location, .workflow, .dataTable, .file, .notebook] →
        custom.get? "seedbedCleanupTag" = some (.string scope.tag)) ∧
      (kind ∈ [.product, .system, .asset, .dut, .testResult] →
        ∃ keywords : List String, fields.get? "keywords" = some (Json.ofTexts keywords) ∧
          scope.tag ∈ keywords ∧
          ∀ items, properties.get? "keywords" = some (.array items) → ∀ item ∈ items,
            (∀ text, item = .string text → text ∈ keywords) ∧
            (item = .null → "" ∈ keywords) ∧
            ((∀ text, item ≠ .string text) → item ≠ .null → item.compact ∈ keywords)) ∧
      (kind ∈ [.workItem, .workOrder] →
        ∃ tags, custom.get? "tags" = some (.string tags) ∧ scope.tag.toList <:+: tags.toList) ∧
      (kind.endpoint.nameClause name).holds (.object fields) = true ∧
      (kind.endpoint.tagClause scope.tag).holds (.object fields) = true := by
  have nameField : kind.endpoint.nameField = match kind with
      | .system => "alias"
      | .testResult => "programName"
      | _ => "name" := by
    cases kind <;> rfl
  have carriers : (kind ∈ [.location, .workflow, .dataTable, .file, .notebook] →
      kind.endpoint.carrier = .property) ∧
      (kind ∈ [.product, .system, .asset, .dut, .testResult] → kind.endpoint.carrier = .keyword) ∧
      (kind ∈ [.workItem, .workOrder] → kind.endpoint.carrier = .joinedTag) := by
    cases kind <;> decide
  obtain ⟨property, keyword, joinedTag⟩ := carriers
  refine ⟨scope.createdFields kind.endpoint name properties,
    scope.customProperties kind.endpoint name properties, scope.entryIn?_createRequest _ _ _, ?_,
    scope.get?_createdFields_properties kind name properties,
    fun field member => Json.isString_eq_true_iff.mp
      (scope.isString_of_mem_customProperties _ _ _ field member), ?_, ?_, ?_,
    scope.holds_nameClause.mpr rfl, scope.holds_tagClause kind name properties⟩
  · rw [← nameField]
    exact scope.get?_createdFields_name kind name properties
  · exact fun among => scope.get?_customProperties_of_property (property among) name properties
  · intro among
    refine ⟨_, scope.get?_createdFields_keywords (keyword among) name properties,
      Payload.mem_keywords.mpr (Or.inr rfl), fun items declared item member => ?_⟩
    have kept : Payload.storedText item ∈
        Payload.keywords (properties.get? "keywords") scope.tag :=
      Payload.mem_keywords.mpr (Or.inl ⟨items, declared, item, member, rfl⟩)
    refine ⟨fun text same => ?_, fun none => ?_, fun other filled => ?_⟩
    · rwa [same] at kept
    · rwa [none] at kept
    · rwa [Payload.storedText_eq_compact other filled] at kept
  · intro among
    obtain ⟨declared, tags⟩ :=
      scope.exists_joinedTags_of_joinedTag (joinedTag among) name properties
    exact ⟨_, tags, Text.occursIn_iff.mp (Payload.contains_joinedTags declared scope.tag)⟩

/-- **Every create call carries the configured workspace**, unless a workspace is declared: then it
carries that one, the last under a key which is the workspace's on the service. The filters of
look-ups and sweeps ask for the configured one all the same, so they select the entry if none is
declared, or the same. -/
theorem createRequest_scoped (kind : Kind) (name : String) (properties : Fields)
    (tag workspace : String) :
    let scope : Scope := ⟨some workspace, tag⟩
    ∃ fields : Fields,
      kind.endpoint.entryIn? (scope.createRequest kind.endpoint name properties) =
        some (.object fields) ∧
      fields.get? "workspace" =
        some ((Scope.declaredWorkspace? properties).getD (.string workspace)) ∧
      (∀ filter ∈ [scope.lookupFilter kind.endpoint name, scope.sweepFilter kind.endpoint],
        .equals "workspace" workspace ∈ filter ∧
        (filter.selects (.object fields) = true ↔ Scope.declaredWorkspace? properties = none ∨
          Scope.declaredWorkspace? properties = some (.string workspace))) := by
  intro scope
  have given : Fields.get? "workspace" (scope.createdFields kind.endpoint name properties) =
      some ((Scope.declaredWorkspace? properties).getD (.string workspace)) := by
    rw [scope.get?_createdFields_workspace]
    cases Scope.declaredWorkspace? properties with
    | none => rfl
    | some declared => rfl
  have kept : Fields.get? "workspace" (scope.createdFields kind.endpoint name properties) =
        some (.string workspace) ↔ Scope.declaredWorkspace? properties = none ∨
          Scope.declaredWorkspace? properties = some (.string workspace) := by
    rw [given]
    cases Scope.declaredWorkspace? properties with
    | none => exact iff_of_true rfl (Or.inl rfl)
    | some declared => simp only [Option.getD_some, reduceCtorEq, false_or]
  obtain ⟨sweep, lookup⟩ := scope.selects_createdFields_iff kind name properties rfl
  rw [kept] at sweep lookup
  refine ⟨_, scope.entryIn?_createRequest _ _ _, given, ?_⟩
  refine List.forall_mem_cons.mpr ⟨⟨?_, lookup⟩, List.forall_mem_singleton.mpr ⟨?_, sweep⟩⟩
  · exact List.mem_cons_of_mem _ (List.mem_cons_of_mem _ (List.mem_singleton_self _))
  · exact List.mem_cons_of_mem _ (List.mem_singleton_self _)

/-- Not every create call carries the configured workspace: a declared one is kept. -/
theorem not_scoped_of_declared :
    ¬ ∀ (kind : Kind) (name : String) (properties : Fields) (tag workspace : String),
      ∃ fields : Fields,
        kind.endpoint.entryIn?
            (Scope.createRequest ⟨some workspace, tag⟩ kind.endpoint name properties) =
          some (.object fields) ∧
        fields.get? "workspace" = some (.string workspace) := by
  intro all
  obtain ⟨fields, entry, given⟩ :=
    all .location "Lab" [("workspace", .string "other")] "seedbed-example:demo" "ws-1"
  rw [Scope.entryIn?_createRequest] at entry
  cases entry
  rw [Scope.get?_createdFields_workspace] at given
  have apart : ("other" : String) ≠ "ws-1" := by decide
  exact apart (Json.string.inj (Option.some.inj given))

end ResourceGraph
