/-
**Declared properties on their way to the service.**

A create call renames the declared properties from `snake_case` to `camelCase` and collects them
under their new names. Renaming forgets where the underscores were, so keys may share a name, and of
those that do the last one is sent. Keys in plain `snake_case` never share one.

* `isSnakeCase`: keys of words that start with a small letter and have no capitals;
* `camelCase_injOn`: on these keys the renaming can be undone;
* `Payload.LastSent`: the last declared property that goes by a name on the service;
* `Payload.get?_declared_eq_some_iff`: it is the one that is collected;
* `Kind.setFields`: the fields that are set whatever is declared;
* `createRequest_declared`: what a create call carries of the declared properties.
-/

import ResourceGraph.Proofs.Service.Entry

namespace ResourceGraph

/-! ### Keys in plain `snake_case` -/

namespace Payload

/-- The rest of a key in plain `snake_case`: no capitals, and a small letter after every underscore.
The flag tells whether an underscore was just read. -/
def snakeFrom : (raised : Bool) → List Char → Bool
  | raised, [] => !raised
  | true, c :: rest => c.isLower && snakeFrom false rest
  | false, c :: rest =>
    if c = '_' then snakeFrom true rest else !c.isUpper && snakeFrom false rest

/-- Whether a key is in plain `snake_case`. -/
def isSnakeCase (key : String) : Bool :=
  key.toList.head? != some '_' && snakeFrom false key.toList

/-- A character of a key in `camelCase` as it was written in `snake_case`. -/
def lowered (c : Char) : List Char :=
  if c.isUpper then ['_', c.toLower] else [c]

/-- A small letter has one capital, which tells it. -/
theorem upperChar_of_isLower {c : Char} (small : c.isLower = true) :
    Text.upperChar c = [c.toUpper] ∧ lowered c.toUpper = ['_', c] := by
  have all : ∀ code ∈ List.range' 97 26,
      Text.upperChar (Char.ofNat code) = [(Char.ofNat code).toUpper] ∧
        lowered (Char.ofNat code).toUpper = ['_', Char.ofNat code] := by
    decide +kernel
  have range : 97 ≤ c.toNat ∧ c.toNat ≤ 122 := by
    obtain ⟨least, most⟩ := Bool.and_eq_true_iff.mp small
    exact ⟨of_decide_eq_true least, of_decide_eq_true most⟩
  have letter := all c.toNat (List.mem_range'_1.mpr ⟨range.1, by omega⟩)
  rwa [Char.ofNat_toNat] at letter

/-- **Renaming the rest of a key in plain `snake_case` can be undone.** -/
theorem flatMap_lowered_camelFrom {raised : Bool} {chars : List Char}
    (plain : snakeFrom raised chars = true) :
    (camelFrom true raised chars).flatMap lowered = if raised then '_' :: chars else chars := by
  induction chars generalizing raised with
  | nil =>
    cases raised with
    | true => cases plain
    | false => rfl
  | cons c rest ih =>
    cases raised with
    | true =>
      obtain ⟨small, more⟩ := Bool.and_eq_true_iff.mp plain
      have other : c ≠ '_' := by
        rintro rfl
        cases small
      obtain ⟨upper, undone⟩ := upperChar_of_isLower small
      rw [camelFrom, if_neg other, if_pos rfl, upper, List.singleton_append,
        List.flatMap_cons, undone, ih more]
      rfl
    | false =>
      rw [snakeFrom] at plain
      by_cases joint : c = '_'
      · rw [if_pos joint] at plain
        rw [camelFrom, if_pos joint, ih plain, joint]
        rfl
      · rw [if_neg joint] at plain
        obtain ⟨noCapital, more⟩ := Bool.and_eq_true_iff.mp plain
        have kept : lowered c = [c] := if_neg (by simpa using noCapital)
        rw [camelFrom, if_neg joint, if_neg Bool.false_ne_true, List.flatMap_cons, kept, ih more]
        rfl

/-- A key that does not start with an underscore is renamed from its first character on. -/
theorem camelFrom_of_head? {chars : List Char} (head : chars.head? ≠ some '_') :
    camelFrom false false chars = camelFrom true false chars := by
  cases chars with
  | nil => rfl
  | cons c rest =>
    have other : c ≠ '_' := fun same => head (congrArg some same)
    rw [camelFrom, camelFrom, if_neg other, if_neg other]

/-- **Keys in plain `snake_case` do not share a name on the service.** -/
theorem camelCase_injOn {key other : String} (plain : isSnakeCase key = true)
    (alsoPlain : isSnakeCase other = true) (same : camelCase key = camelCase other) :
    key = other := by
  have undone {key : String} (plain : isSnakeCase key = true) :
      (camelCase key).toList.flatMap lowered = key.toList := by
    obtain ⟨head, rest⟩ := Bool.and_eq_true_iff.mp plain
    rw [camelCase, String.toList_ofList, camelFrom_of_head? (by simpa using head),
      flatMap_lowered_camelFrom rest]
    rfl
  refine String.toList_inj.mp ?_
  rw [← undone plain, same, undone alsoPlain]

/-! ### The property that is collected under a name -/

/-- Of the properties that are passed on, this is the last one that goes by the name on the
service. -/
def LastSent (reserved : List String) (properties : Fields) (name key : String)
    (value : Json) : Prop :=
  ∃ before after, properties = before ++ (key, value) :: after ∧
    key ∉ reserved ∧ camelCase key = name ∧
    ∀ later ∈ after, later.1 ∉ reserved → camelCase later.1 ≠ name

/-- **Under each name the last property that goes by it is collected.** -/
theorem get?_declared_eq_some_iff {reserved : List String} {properties : Fields} {name : String}
    {value : Json} :
    Fields.get? name (declared reserved properties) = some value ↔
      ∃ key, LastSent reserved properties name key value := by
  have passes {field : String × Json} :
      (!reserved.contains field.1 && camelCase field.1 == name) = true ↔
        field.1 ∉ reserved ∧ camelCase field.1 = name := by
    simp
  -- the search runs from the end, so what it passes over are the later properties
  rw [Scope.get?_declared, Option.map_eq_some_iff]
  simp only [List.find?_eq_some_iff_append]
  constructor
  · rintro ⟨⟨key, _⟩, ⟨goes, after, before, split, others⟩, rfl⟩
    refine ⟨key, before.reverse, after.reverse, ?_, (passes.mp goes).1, (passes.mp goes).2, ?_⟩
    · rw [← List.reverse_reverse properties, split, List.reverse_append, List.reverse_cons,
        List.append_assoc, List.singleton_append]
    · intro later among free shared
      have kept := others later (List.mem_reverse.mp among)
      rw [passes.mpr ⟨free, shared⟩] at kept
      cases kept
  · rintro ⟨key, before, after, rfl, free, goes, others⟩
    refine ⟨(key, value), ⟨passes.mpr ⟨free, goes⟩, after.reverse, before.reverse, ?_, ?_⟩, rfl⟩
    · rw [List.reverse_append, List.reverse_cons, List.append_assoc, List.singleton_append]
    · intro later among
      rw [Bool.not_eq_true', ← Bool.not_eq_true, passes]
      exact fun both => others later (List.mem_reverse.mp among) both.1 both.2

/-- A property that is passed on goes by its name, or a later one does. -/
theorem exists_lastSent {reserved : List String} {properties : Fields} {field : String × Json}
    (member : field ∈ properties) (free : field.1 ∉ reserved) :
    ∃ last value, LastSent reserved properties (camelCase field.1) last value := by
  have found : (properties.reverse.find? fun other =>
      !reserved.contains other.1 && camelCase other.1 == camelCase field.1).isSome = true := by
    rw [List.find?_isSome]
    exact ⟨field, List.mem_reverse.mpr member, by simpa using free⟩
  obtain ⟨last, there⟩ := Option.isSome_iff_exists.mp found
  have collected : Fields.get? (camelCase field.1) (declared reserved properties) =
      some last.2 := by
    rw [Scope.get?_declared, there]
    rfl
  obtain ⟨key, sent⟩ := get?_declared_eq_some_iff.mp collected
  exact ⟨key, last.2, sent⟩

/-- With plain keys that differ, every property that is passed on is the last one of its name. -/
theorem lastSent_of_isSnakeCase {reserved : List String} {properties : Fields}
    (distinct : (properties.map Prod.fst).Nodup)
    (plain : ∀ field ∈ properties, isSnakeCase field.1 = true) {key : String} {value : Json}
    (member : (key, value) ∈ properties) (free : key ∉ reserved) :
    LastSent reserved properties (camelCase key) key value := by
  obtain ⟨before, after, rfl⟩ := List.append_of_mem member
  refine ⟨before, after, rfl, free, rfl, fun later among _ shared => ?_⟩
  have there : later ∈ before ++ (key, value) :: after :=
    List.mem_append_right _ (List.mem_cons_of_mem _ among)
  have same : later.1 = key :=
    camelCase_injOn (plain later there) (plain (key, value) member) shared
  rw [List.map_append, List.map_cons] at distinct
  have fresh : key ∉ after.map Prod.fst := (List.nodup_cons.mp distinct.of_append_right).1
  exact fresh (List.mem_map.mpr ⟨later, among, same⟩)

end Payload

/-! ### What a create call carries -/

/-- The fields of a create call that are set whatever is declared. -/
def Kind.setFields : Kind → List String
  | system => ["alias", "keywords", "properties"]
  | product | asset | dut => ["name", "keywords", "properties"]
  | testResult => ["programName", "keywords", "status", "properties"]
  | dataTable => ["name", "columns", "properties"]
  | location | workflow | workItem | workOrder | file | notebook => ["name", "properties"]

namespace Scope

variable (scope : Scope)

theorem map_fst_forcedFields (kind : Kind) (name : String) (properties : Fields) :
    (scope.forcedFields kind.endpoint name properties).map Prod.fst = kind.setFields := by
  cases kind <;> rfl

/-- What is collected is sent, unless the field is set; a default never takes its place. -/
theorem get?_createdFields_of_lastSent {kind : Kind} {properties : Fields} {field key : String}
    {value : Json} (sent : Payload.LastSent kind.endpoint.reserved properties field key value)
    (unset : field ∉ kind.setFields) (name : String) :
    Fields.get? field (scope.createdFields kind.endpoint name properties) = some value := by
  have collected := Payload.get?_declared_eq_some_iff.mpr ⟨key, sent⟩
  rw [← scope.map_fst_forcedFields kind name properties] at unset
  rw [createdFields, Payload.get?_setMissing, Payload.get?_setAll_of_not_mem unset, collected]
  rfl

end Scope

/-- **What a create call carries of the declared properties**, for every kind and whatever is
declared. A property that is not handled on its own, with a name on the service which is not that of
a field that is set, has its value in the entry unless a later property goes by the same name; what
the field holds is in any case the value of the last declared one, never a default. Where the keys
are in plain `snake_case` and differ, every such property has its own value in the entry. -/
theorem createRequest_declared (scope : Scope) (kind : Kind) (name : String) (properties : Fields) :
    ∃ fields : Fields,
      kind.endpoint.entryIn? (scope.createRequest kind.endpoint name properties) =
        some (.object fields) ∧
      ∀ key value, (key, value) ∈ properties → key ∉ kind.endpoint.reserved →
        Payload.camelCase key ∉ kind.setFields →
          (Payload.LastSent kind.endpoint.reserved properties (Payload.camelCase key) key value →
            fields.get? (Payload.camelCase key) = some value) ∧
          (∃ last sent,
            Payload.LastSent kind.endpoint.reserved properties (Payload.camelCase key) last sent ∧
              fields.get? (Payload.camelCase key) = some sent) ∧
          ((properties.map Prod.fst).Nodup →
            (∀ field ∈ properties, Payload.isSnakeCase field.1 = true) →
              fields.get? (Payload.camelCase key) = some value) := by
  refine ⟨_, scope.entryIn?_createRequest kind.endpoint name properties, ?_⟩
  intro key value member free unset
  refine ⟨fun sent => scope.get?_createdFields_of_lastSent sent unset name, ?_,
    fun distinct plain => ?_⟩
  · obtain ⟨last, other, sent⟩ := Payload.exists_lastSent member free
    exact ⟨last, other, sent, scope.get?_createdFields_of_lastSent sent unset name⟩
  · have sent := Payload.lastSent_of_isSnakeCase distinct plain member free
    exact scope.get?_createdFields_of_lastSent sent unset name

/-- The declared properties of a product: keywords, and two that are renamed. -/
def labelled : Fields :=
  [("keywords", .array [.string "spare"]), ("part_number", .string "PN-2"),
    ("unit_of_sale", .string "box")]

/-- The declared part number is sent, although a product without one is given its name. -/
theorem createRequest_declared_labelled :
    ("part_number", Json.string "PN-2") ∈ labelled ∧
      "part_number" ∉ Kind.product.endpoint.reserved ∧
      Payload.camelCase "part_number" ∉ Kind.product.setFields ∧
      (labelled.map Prod.fst).Nodup ∧ (∀ field ∈ labelled, Payload.isSnakeCase field.1 = true) ∧
      ∃ fields : Fields,
        Kind.product.endpoint.entryIn? (Scope.createRequest ⟨none, "seedbed-example:demo"⟩
            Kind.product.endpoint "Widget" labelled) = some (.object fields) ∧
          fields.get? "partNumber" = some (.string "PN-2") := by
  have member : ("part_number", Json.string "PN-2") ∈ labelled :=
    List.mem_cons_of_mem _ List.mem_cons_self
  have free : "part_number" ∉ Kind.product.endpoint.reserved := by decide
  have renamed : Payload.camelCase "part_number" = "partNumber" := by decide +kernel
  have unset : Payload.camelCase "part_number" ∉ Kind.product.setFields := by
    rw [renamed]
    decide
  have distinct : (labelled.map Prod.fst).Nodup := by decide
  have plain : ∀ field ∈ labelled, Payload.isSnakeCase field.1 = true := by
    unfold labelled
    decide +kernel
  obtain ⟨fields, entry, carried⟩ :=
    createRequest_declared ⟨none, "seedbed-example:demo"⟩ .product "Widget" labelled
  have sent := (carried _ _ member free unset).2.2 distinct plain
  rw [renamed] at sent
  exact ⟨member, free, unset, distinct, plain, fields, entry, sent⟩

/-- Not every declared property is sent: of two that go by one name the first is lost, although the
keys differ and are in order. -/
theorem not_declared_of_shared_name :
    ¬ ∀ (scope : Scope) (kind : Kind) (name : String) (properties : Fields),
      (properties.map Prod.fst).Pairwise (· < ·) →
        ∃ fields : Fields,
          kind.endpoint.entryIn? (scope.createRequest kind.endpoint name properties) =
            some (.object fields) ∧
          ∀ key value, (key, value) ∈ properties → key ∉ kind.endpoint.reserved →
            Payload.camelCase key ∉ kind.setFields →
              fields.get? (Payload.camelCase key) = some value := by
  intro all
  obtain ⟨fields, entry, carried⟩ := all ⟨none, "seedbed-example:demo"⟩ .product "Widget"
    [("partNumber", .string "PN-1"), ("part_number", .string "PN-2")] (by decide)
  have unset : "partNumber" ∉ Kind.product.setFields := by decide
  have kept : Payload.camelCase "partNumber" = "partNumber" := by decide +kernel
  have renamed : Payload.camelCase "part_number" = "partNumber" := by decide +kernel
  have first := carried "partNumber" _ List.mem_cons_self (by decide) (kept.symm ▸ unset)
  have second := carried "part_number" _ (List.mem_cons_of_mem _ List.mem_cons_self) (by decide)
    (renamed.symm ▸ unset)
  rw [kept] at first
  rw [renamed, first] at second
  have apart : ("PN-1" : String) ≠ "PN-2" := by decide
  exact apart (Json.string.inj (Option.some.inj second))

end ResourceGraph
