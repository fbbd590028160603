/-
**Placeholders and their replacement.**

A string is a placeholder if it is a reference, not empty and free of braces, between `$` with an
opening brace and a closing brace. Replacement changes such strings and nothing else.

* `reference?_eq_some_iff`: the reader of placeholders recognizes exactly these strings;
* `mem_placeholders_iff`: the references gathered from a value are those that its strings name;
* `Json.Substituted`: a value with the placeholders replaced that have an identifier;
  `substituted_resolve` says that `Json.resolve` gives it;
* `Substituted.yields`: a string of the result was there before, or it is an identifier;
* `Substituted.not_references`: when nothing is left to replace.
-/

import Mathlib.Data.List.Forall2
import ResourceGraph.Document.Placeholder
import ResourceGraph.Proofs.Json.Induction

namespace ResourceGraph

/-! ### Reading placeholders -/

theorem Text.afterPrefix?_eq_some_iff {head chars rest : List Char} :
    Text.afterPrefix? head chars = some rest ↔ chars = head ++ rest := by
  induction head generalizing chars with
  | nil => exact ⟨fun same => Option.some.inj same, fun same => congrArg some same⟩
  | cons first head ih =>
    cases chars with
    | nil =>
      constructor
      · intro found
        cases found
      · intro same
        cases same
    | cons c chars =>
      rw [Text.afterPrefix?]
      by_cases same : first = c
      · rw [if_pos same, ih, same, List.cons_append, List.cons.injEq]
        exact ⟨fun parts => ⟨rfl, parts⟩, fun parts => parts.2⟩
      · rw [if_neg same]
        constructor
        · intro found
          cases found
        · intro parts
          exact absurd (List.cons.inj parts).1.symm same

theorem Text.beforeSuffix?_eq_some_iff {tail chars inner : List Char} :
    Text.beforeSuffix? tail chars = some inner ↔ chars = inner ++ tail := by
  rw [Text.beforeSuffix?, Option.map_eq_some_iff]
  simp only [Text.afterPrefix?_eq_some_iff]
  constructor
  · rintro ⟨rest, parts, rfl⟩
    have turned := congrArg List.reverse parts
    rw [List.reverse_reverse, List.reverse_append, List.reverse_reverse] at turned
    exact turned
  · rintro rfl
    exact ⟨inner.reverse, List.reverse_append, List.reverse_reverse inner⟩

namespace Placeholder

/-- The text is the placeholder of the reference. -/
structure Names (text reference : String) : Prop where
  form : text = "$\x7b" ++ reference ++ "\x7d"
  filled : reference ≠ ""
  free : ∀ c ∈ reference.toList, c ≠ '\x7b' ∧ c ≠ '\x7d'

theorem isReference_iff {reference : String} :
    isReference reference.toList = true ↔
      reference ≠ "" ∧ ∀ c ∈ reference.toList, c ≠ '\x7b' ∧ c ≠ '\x7d' := by
  simp only [isReference, Bool.and_eq_true, Bool.not_eq_true', List.isEmpty_eq_false_iff,
    List.all_eq_true, bne_iff_ne, ne_eq, String.toList_eq_nil_iff]

/-- **The reader recognizes exactly the placeholders.** -/
theorem reference?_eq_some_iff {text reference : String} :
    reference? text = some reference ↔ Names text reference := by
  unfold reference?
  simp only [Option.bind_eq_bind, Option.bind_eq_some_iff, Text.afterPrefix?_eq_some_iff,
    Text.beforeSuffix?_eq_some_iff, Option.ite_none_right_eq_some, Option.some.injEq]
  constructor
  · rintro ⟨rest, form, inner, rfl, usable, rfl⟩
    rw [← String.toList_ofList (l := inner)] at usable
    obtain ⟨filled, free⟩ := isReference_iff.mp usable
    refine ⟨String.toList_inj.mp ?_, filled, free⟩
    rw [form, String.toList_append, String.toList_append, String.toList_ofList (l := inner),
      List.append_assoc]
    rfl
  · rintro ⟨form, filled, free⟩
    refine ⟨reference.toList ++ closing, ?_, reference.toList, rfl,
      isReference_iff.mpr ⟨filled, free⟩, String.ofList_toList⟩
    rw [form, String.toList_append, String.toList_append, List.append_assoc]
    rfl

theorem reference?_eq_none_iff {text : String} :
    reference? text = none ↔ ∀ reference, ¬ Names text reference := by
  simp only [Option.eq_none_iff_forall_ne_some, ne_eq, reference?_eq_some_iff]

theorem Names.reference_eq {text first second : String} (one : Names text first)
    (other : Names text second) : first = second :=
  Option.some.inj ((reference?_eq_some_iff.mpr one).symm.trans (reference?_eq_some_iff.mpr other))

end Placeholder

namespace Json

open Placeholder

/-! ### Gathering references -/

theorem mem_addReference {found : List String} {reference other : String} :
    other ∈ addReference found reference ↔ other ∈ found ∨ other = reference := by
  unfold addReference
  split
  · rename_i there
    constructor
    · exact Or.inl
    · rintro (member | rfl)
      · exact member
      · exact List.contains_iff_mem.mp there
  · rw [List.mem_append, List.mem_singleton]

/-- What is in a list after steps that each add what they should. -/
theorem mem_foldl {α β : Type} {step : List β → α → List β} {adds : α → Prop} {given : β}
    {values : List α}
    (each : ∀ value ∈ values, ∀ found, given ∈ step found value ↔ given ∈ found ∨ adds value)
    (found : List β) :
    given ∈ values.foldl step found ↔ given ∈ found ∨ ∃ value ∈ values, adds value := by
  induction values generalizing found with
  | nil => simp only [List.foldl_nil, List.not_mem_nil, false_and, exists_false, or_false]
  | cons value rest ih =>
    obtain ⟨here, later⟩ := List.forall_mem_cons.mp each
    rw [List.foldl_cons, ih later, here, or_assoc]
    simp only [List.mem_cons, exists_eq_or_imp]

theorem gatherItems_eq_foldl (found : List String) (items : List Json) :
    gatherItems found items = items.foldl gatherPlaceholders found := by
  induction items generalizing found with
  | nil => rfl
  | cons item rest ih => exact ih _

theorem gatherFields_eq_foldl (found : List String) (fields : Fields) :
    gatherFields found fields =
      fields.foldl (fun found field => gatherPlaceholders found field.2) found := by
  induction fields generalizing found with
  | nil => rfl
  | cons field rest ih => exact ih _

/-- Some string of the value is the placeholder of the reference. -/
def References (value : Json) (reference : String) : Prop :=
  ∃ text, Names text reference ∧ Holds text value

theorem references_string_iff {text reference : String} :
    References (.string text) reference ↔ Names text reference := by
  unfold References
  constructor
  · rintro ⟨other, named, holds⟩
    rwa [holds_string_iff.mp holds]
  · exact fun named => ⟨text, named, .here⟩

theorem references_array_iff {items : List Json} {reference : String} :
    References (.array items) reference ↔ ∃ item ∈ items, References item reference := by
  simp only [References, holds_array_iff]
  constructor
  · rintro ⟨text, named, item, member, holds⟩
    exact ⟨item, member, text, named, holds⟩
  · rintro ⟨item, member, text, named, holds⟩
    exact ⟨text, named, item, member, holds⟩

theorem references_object_iff {fields : Fields} {reference : String} :
    References (.object fields) reference ↔ ∃ field ∈ fields, References field.2 reference := by
  simp only [References, holds_object_iff]
  constructor
  · rintro ⟨text, named, field, member, holds⟩
    exact ⟨field, member, text, named, holds⟩
  · rintro ⟨field, member, text, named, holds⟩
    exact ⟨text, named, field, member, holds⟩

theorem mem_gatherPlaceholders {reference : String} (value : Json) :
    ∀ found, reference ∈ gatherPlaceholders found value ↔
      reference ∈ found ∨ References value reference := by
  have scalar {value : Json} (none : ∀ text, ¬ Holds text value) (found : List String) :
      reference ∈ found ↔ reference ∈ found ∨ References value reference := by
    constructor
    · exact Or.inl
    · rintro (member | ⟨text, _, holds⟩)
      · exact member
      · exact absurd holds (none text)
  induction value using Json.induct with
  | null => exact scalar fun text holds => by cases holds
  | bool value => exact scalar fun text holds => by cases holds
  | number value => exact scalar fun text holds => by cases holds
  | string text =>
    intro found
    rw [gatherPlaceholders, references_string_iff, ← reference?_eq_some_iff]
    cases reference? text with
    | none => simp only [Option.elim_none, reduceCtorEq, or_false]
    | some named =>
      rw [Option.elim_some, mem_addReference, Option.some.injEq, @eq_comm _ named]
  | array items ih =>
    intro found
    rw [gatherPlaceholders, gatherItems_eq_foldl, references_array_iff]
    exact mem_foldl ih found
  | object fields ih =>
    intro found
    rw [gatherPlaceholders, gatherFields_eq_foldl, references_object_iff]
    exact mem_foldl ih found

/-- **The gathered references are those that the strings name.** -/
theorem mem_placeholders_iff {value : Json} {reference : String} :
    reference ∈ value.placeholders ↔ References value reference := by
  rw [placeholders, mem_gatherPlaceholders]
  simp only [List.not_mem_nil, false_or]

/-! ### Replacement -/

/-- **The second value is the first with its placeholders replaced** whose reference has an
identifier; every other string, every other value and every key is the same. -/
inductive Substituted (ids : String → Option String) : Json → Json → Prop where
  | replaced {text reference id : String} (named : Names text reference)
      (known : ids reference = some id) : Substituted ids (.string text) (.string id)
  | kept {text : String} (unknown : ∀ reference, Names text reference → ids reference = none) :
      Substituted ids (.string text) (.string text)
  | null : Substituted ids .null .null
  | bool (value : Bool) : Substituted ids (.bool value) (.bool value)
  | number (value : Number) : Substituted ids (.number value) (.number value)
  | array {items results : List Json} (each : List.Forall₂ (Substituted ids) items results) :
      Substituted ids (.array items) (.array results)
  | object {fields results : Fields} (keys : fields.map Prod.fst = results.map Prod.fst)
      (each : List.Forall₂ (Substituted ids) (fields.map Prod.snd) (results.map Prod.snd)) :
      Substituted ids (.object fields) (.object results)

theorem resolveItems_eq_map (ids : Identifiers) (items : List Json) :
    resolveItems ids items = items.map (resolve ids) := by
  induction items with
  | nil => rfl
  | cons item rest ih => exact congrArg (List.cons _) ih

theorem resolveFields_eq_map (ids : Identifiers) (fields : Fields) :
    resolveFields ids fields = fields.map fun field => (field.1, resolve ids field.2) := by
  induction fields with
  | nil => rfl
  | cons field rest ih => exact congrArg (List.cons _) ih

/-- **Replacement replaces what it should, and nothing else.** -/
theorem substituted_resolve (ids : Identifiers) (value : Json) :
    Substituted ids.get? value (value.resolve ids) := by
  induction value using Json.induct with
  | null => exact .null
  | bool value => exact .bool value
  | number value => exact .number value
  | string text =>
    rw [resolve]
    cases found : reference? text with
    | none => exact .kept fun reference named => absurd named (reference?_eq_none_iff.mp found _)
    | some reference =>
      have named := reference?_eq_some_iff.mp found
      rw [Option.bind_some]
      cases known : ids.get? reference with
      | none => exact .kept fun other also => by rwa [also.reference_eq named]
      | some id => exact .replaced named known
  | array items ih =>
    rw [resolve, resolveItems_eq_map]
    refine .array ?_
    rw [List.forall₂_map_right_iff, List.forall₂_same]
    exact ih
  | object fields ih =>
    rw [resolve, resolveFields_eq_map]
    refine .object ?_ ?_
    · rw [List.map_map]
      rfl
    · rw [List.map_map, List.forall₂_map_left_iff, List.forall₂_map_right_iff, List.forall₂_same]
      exact ih

/-- The text is a string of the value that stays, or the identifier of a reference in it. -/
def Yields (ids : String → Option String) (value : Json) (text : String) : Prop :=
  (Holds text value ∧ ∀ reference, Names text reference → ids reference = none) ∨
    ∃ reference, References value reference ∧ ids reference = some text

/-- What holds of the values of a list and their replacements holds of the lists. -/
theorem exists_yields_of_forall₂ {ids : String → Option String} {text : String}
    {values results : List Json}
    (each : ∀ value ∈ values, ∀ {result : Json}, Substituted ids value result →
      Holds text result → Yields ids value text)
    (related : List.Forall₂ (Substituted ids) values results) {result : Json}
    (member : result ∈ results) (holds : Holds text result) :
    ∃ value ∈ values, Yields ids value text := by
  induction related with
  | nil => cases member
  | cons head tail ih =>
    obtain ⟨first, rest⟩ := List.forall_mem_cons.mp each
    rcases List.mem_cons.mp member with rfl | later
    · exact ⟨_, List.mem_cons_self, first head holds⟩
    · obtain ⟨value, there, found⟩ := ih rest later
      exact ⟨value, List.mem_cons_of_mem _ there, found⟩

/-- **A string of the result was there and stayed**, or it is the identifier of a reference. -/
theorem Substituted.yields {ids : String → Option String} {text : String} (value : Json) :
    ∀ {result : Json}, Substituted ids value result → Holds text result →
      Yields ids value text := by
  induction value using Json.induct with
  | null =>
    intro result same holds
    cases same
    cases holds
  | bool value =>
    intro result same holds
    cases same
    cases holds
  | number value =>
    intro result same holds
    cases same
    cases holds
  | string given =>
    intro result same holds
    cases same with
    | replaced named known =>
      cases holds
      exact Or.inr ⟨_, references_string_iff.mpr named, known⟩
    | kept unknown =>
      cases holds
      exact Or.inl ⟨.here, unknown⟩
  | array items ih =>
    intro result same holds
    cases same with
    | array each =>
      obtain ⟨result, member, there⟩ := holds_array_iff.mp holds
      obtain ⟨item, found, kept | ⟨reference, named, known⟩⟩ :=
        exists_yields_of_forall₂ ih each member there
      · exact Or.inl ⟨.item found kept.1, kept.2⟩
      · exact Or.inr ⟨reference, references_array_iff.mpr ⟨item, found, named⟩, known⟩
  | object fields ih =>
    intro result same holds
    cases same with
    | object keys each =>
      obtain ⟨field, member, there⟩ := holds_object_iff.mp holds
      obtain ⟨value, found, origin⟩ :=
        exists_yields_of_forall₂ (List.forall_mem_map.mpr ih) each
          (List.mem_map_of_mem member) there
      obtain ⟨declared, among, rfl⟩ := List.mem_map.mp found
      rcases origin with kept | ⟨reference, named, known⟩
      · exact Or.inl ⟨.field among kept.1, kept.2⟩
      · exact Or.inr ⟨reference, references_object_iff.mpr ⟨declared, among, named⟩, known⟩

/-- **Nothing is left to replace** where every reference has an identifier, and no identifier is a
placeholder. -/
theorem Substituted.not_references {ids : String → Option String} {value result : Json}
    (same : Substituted ids value result)
    (known : ∀ reference, References value reference → ids reference ≠ none)
    (clean : ∀ reference id, ids reference = some id → ∀ other, ¬ Names id other)
    (reference : String) : ¬ References result reference := by
  rintro ⟨text, named, holds⟩
  rcases same.yields value holds with ⟨stays, unknown⟩ | ⟨other, _, identifies⟩
  · exact known reference ⟨text, named, stays⟩ (unknown reference named)
  · exact clean other text identifies reference named

end Json

end ResourceGraph
