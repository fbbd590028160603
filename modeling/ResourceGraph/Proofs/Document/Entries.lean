/-
**The problems of resource entries are found apart from each other.**

The schema pass goes through the entries in order and remembers the references that they declare.
Nothing else goes from one entry to the next: what it finds at an entry is what it would find if the
entry stood alone, at its own index, and one problem more if its reference is taken.

* `entryProblems_eq_append`: what earlier entries add to the problems of an entry;
* `entryProblems_eq_map_moved`: the same entry at another index;
* `exists_problem_iff_violates`: the fields with a problem are those whose rule is violated;
* `filter_concerns_entriesProblems`: what is found at one entry is told by its path;
* `check_separates`: the whole pass.
-/

import ResourceGraph.Proofs.Document.Grammar
import ResourceGraph.Proofs.Document.Problems

namespace ResourceGraph

namespace Grammar

/-- The entry is a mapping that gives a reference with identifier syntax, whatever else is wrong
with it. -/
inductive Declares : Json → String → Prop where
  | mapping {fields : Fields} {reference : String}
      (given : fields.get? "id_reference" = some (.string reference))
      (identifier : IsIdentifier reference) : Declares (.object fields) reference

/-- One of the entries before an index declares the reference. -/
def Taken (entries : List Json) (index : Nat) (reference : String) : Prop :=
  ∃ entry ∈ entries.take index, Declares entry reference

/-- **The entry violates the rule of a place in it**, where some references are taken. The place of
the entry itself is empty. -/
inductive Violates (taken : String → Prop) : Json → String → Prop where
  | mapping {entry : Json} (other : ∀ fields, entry ≠ .object fields) : Violates taken entry ""
  | kind {fields : Fields} (wrong : ∀ kind : Kind, fields.get? "type" ≠ some (.string kind.name)) :
      Violates taken (.object fields) ".type"
  | name {fields : Fields}
      (wrong : ∀ name, fields.get? "name" = some (.string name) → ¬ Filled name) :
      Violates taken (.object fields) ".name"
  | properties {fields : Fields}
      (wrong : ∀ properties, fields.get? "properties" ≠ some (.object properties)) :
      Violates taken (.object fields) ".properties"
  | tags {fields : Fields} (wrong : ∀ tags, ¬ Tags (fields.get? "tags") tags) :
      Violates taken (.object fields) ".tags"
  | reference {fields : Fields}
      (wrong : ∀ reference, fields.get? "id_reference" = some (.string reference) →
        IsIdentifier reference → taken reference) :
      Violates taken (.object fields) ".id_reference"

end Grammar

namespace Schema

open Grammar

/-! ### One entry -/

/-- What earlier entries add: a problem about a reference that is taken. -/
def duplicateProblems (index : Nat) (declared : List String) (entry : Json) : List Problem :=
  (declaredReference? entry).elim [] fun reference =>
    if declared.contains reference then
      [⟨entryPath index ++ ".id_reference", "Duplicate id_reference: " ++ reference⟩]
    else []

theorem declaredReference?_eq_some_iff {entry : Json} {reference : String} :
    declaredReference? entry = some reference ↔ Declares entry reference := by
  unfold declaredReference?
  rw [Option.filter_eq_some_iff, Option.bind_eq_some_iff, isIdentifier_iff]
  constructor
  · rintro ⟨⟨value, given, text⟩, identifier⟩
    cases entry with
    | object fields =>
      cases value with
      | string other =>
        cases text
        exact .mapping given identifier
      | _ => cases text
    | _ => cases given
  · rintro ⟨given, identifier⟩
    exact ⟨⟨_, given, rfl⟩, identifier⟩

/-- **What earlier entries add to the problems of an entry** comes after all others. -/
theorem entryProblems_eq_append (index : Nat) (declared : List String) (entry : Json) :
    entryProblems index declared entry =
      entryProblems index [] entry ++ duplicateProblems index declared entry := by
  cases entry with
  | object fields =>
    unfold duplicateProblems declaredReference?
    simp only [entryProblems, fieldProblems, Json.field?]
    rw [List.append_assoc _ (Option.elim (Fields.get? "id_reference" fields) _ _)]
    congr 1
    cases Fields.get? "id_reference" fields with
    | none => rfl
    | some value =>
      cases value with
      | string reference =>
        simp only [Option.elim_some, referenceProblems, Option.bind_some, Json.text?,
          Option.filter_some]
        cases isIdentifier reference with
        | false => rfl
        | true => simp
      | _ => rfl
  | _ => rfl

/-- **The same entry at another index** has the same problems, with the other path in them. -/
theorem entryProblems_eq_map_moved (source target : Nat) (declared : List String) (entry : Json) :
    entryProblems target declared entry =
      (entryProblems source declared entry).map (Problem.moved source target) := by
  cases entry with
  | object fields =>
    have missing (key : String) :
        (⟨entryPath target ++ "." ++ key,
            "Missing required resource field '" ++ key ++ "'"⟩ : Problem) =
          Problem.moved source target
            ⟨entryPath source ++ "." ++ key,
              "Missing required resource field '" ++ key ++ "'"⟩ := by
      have alone :=
        Problem.moved_of_head ("Missing required resource field '" ++ key ++ "'") (by simp)
          source target ("." ++ key)
      rw [← String.append_assoc, ← String.append_assoc] at alone
      exact alone.symm
    simp only [entryProblems, List.map_append, List.map_map, Function.comp_def, ← missing]
    rw [(told_fieldProblems "type" told_kindProblems fields).eq_map_moved source target,
      (told_fieldProblems "name" told_textProblems fields).eq_map_moved source target,
      (told_fieldProblems "properties" told_propertiesProblems fields).eq_map_moved source target,
      (told_fieldProblems "tags" told_tagsProblems fields).eq_map_moved source target,
      (told_fieldProblems "id_reference" (told_referenceProblems declared) fields).eq_map_moved
        source target]
  | _ =>
    have alone :=
      Problem.moved_of_head "Resource entry must be a mapping" (by decide) source target ""
    rw [String.append_empty, String.append_empty] at alone
    exact congrArg (fun problem => [problem]) alone.symm

/-! ### Violated rules -/

section Rules

variable (fields : Fields) (path : String)

/-- A required field is missing or has a problem exactly if it has no value without one. -/
theorem missing_or_problems_iff {key : String} {check : Json → List Problem} :
    Fields.get? key fields = none ∨ fieldProblems key check fields ≠ [] ↔
      ∀ value, Fields.get? key fields = some value → check value ≠ [] := by
  rw [← not_iff_not, not_or, not_not, required_and_fieldProblems]
  simp only [not_forall, not_not, exists_prop]

theorem kind_violated_iff :
    Fields.get? "type" fields = none ∨ fieldProblems "type" (kindProblems path) fields ≠ [] ↔
      ∀ kind : Kind, Fields.get? "type" fields ≠ some (.string kind.name) := by
  simp only [missing_or_problems_iff, ne_eq, kindProblems_eq_nil_iff]
  constructor
  · exact fun wrong kind given => wrong _ given ⟨kind, rfl⟩
  · rintro wrong _ given ⟨kind, rfl⟩
    exact wrong kind given

theorem name_violated_iff :
    Fields.get? "name" fields = none ∨ fieldProblems "name" (textProblems path) fields ≠ [] ↔
      ∀ name, Fields.get? "name" fields = some (.string name) → ¬ Filled name := by
  simp only [missing_or_problems_iff, ne_eq, textProblems_eq_nil_iff]
  constructor
  · exact fun wrong name given filled => wrong _ given ⟨name, rfl, filled⟩
  · rintro wrong _ given ⟨name, rfl, filled⟩
    exact wrong name given filled

theorem properties_violated_iff :
    Fields.get? "properties" fields = none ∨
        fieldProblems "properties" (propertiesProblems path) fields ≠ [] ↔
      ∀ properties, Fields.get? "properties" fields ≠ some (.object properties) := by
  simp only [missing_or_problems_iff, ne_eq, propertiesProblems_eq_nil_iff]
  constructor
  · exact fun wrong properties given => wrong _ given ⟨properties, rfl⟩
  · rintro wrong _ given ⟨properties, rfl⟩
    exact wrong properties given

theorem reference_violated_iff {declared : List String} {taken : String → Prop}
    (known : ∀ reference, reference ∈ declared ↔ taken reference) :
    Fields.get? "id_reference" fields = none ∨
        fieldProblems "id_reference" (referenceProblems path declared) fields ≠ [] ↔
      ∀ reference, Fields.get? "id_reference" fields = some (.string reference) →
        IsIdentifier reference → taken reference := by
  simp only [missing_or_problems_iff, ne_eq, referenceProblems_eq_nil_iff]
  constructor
  · intro wrong reference given identifier
    by_contra new
    exact wrong _ given ⟨reference, rfl, identifier,
      fun declared => new ((known reference).mp declared)⟩
  · rintro wrong _ given ⟨reference, rfl, identifier, new⟩
    exact new ((known reference).mpr (wrong reference given identifier))

end Rules

/-- The missing fields with a place. -/
theorem exists_missing_iff {index : Nat} {fields : Fields} {place : String} :
    (∃ problem ∈ (requiredResourceFields.filter fun key => !Fields.hasKey fields key).map
        fun key => (⟨entryPath index ++ "." ++ key,
          "Missing required resource field '" ++ key ++ "'"⟩ : Problem),
      problem.field = entryPath index ++ place) ↔
      ∃ key ∈ requiredResourceFields, Fields.get? key fields = none ∧ "." ++ key = place := by
  simp only [List.mem_map, List.mem_filter, Fields.hasKey, Bool.not_eq_true',
    Option.isSome_eq_false_iff, Option.isNone_iff_eq_none]
  constructor
  · rintro ⟨_, ⟨key, ⟨required, absent⟩, rfl⟩, here⟩
    exact ⟨key, required, absent,
      (String.append_right_inj _).mp (String.append_assoc.symm.trans here)⟩
  · rintro ⟨key, required, absent, rfl⟩
    exact ⟨_, ⟨key, ⟨required, absent⟩, rfl⟩, String.append_assoc⟩

/-- The fields of a mapping with a problem: those that are missing, and those with a problem of
their own. -/
theorem exists_problem_object_iff {index : Nat} {declared : List String} {fields : Fields}
    {place : String} :
    (∃ problem ∈ entryProblems index declared (.object fields),
        problem.field = entryPath index ++ place) ↔
      (∃ key ∈ requiredResourceFields, Fields.get? key fields = none ∧ "." ++ key = place) ∨
        (fieldProblems "type" (kindProblems (entryPath index ++ ".type")) fields ≠ [] ∧
          ".type" = place) ∨
        (fieldProblems "name" (textProblems (entryPath index ++ ".name")) fields ≠ [] ∧
          ".name" = place) ∨
        (fieldProblems "properties" (propertiesProblems (entryPath index ++ ".properties"))
          fields ≠ [] ∧ ".properties" = place) ∨
        (fieldProblems "tags" (tagsProblems (entryPath index ++ ".tags")) fields ≠ [] ∧
          ".tags" = place) ∨
        (fieldProblems "id_reference"
          (referenceProblems (entryPath index ++ ".id_reference") declared)
          fields ≠ [] ∧ ".id_reference" = place) := by
  simp only [entryProblems, List.mem_append, or_and_right, exists_or, or_assoc]
  rw [exists_missing_iff, (told_fieldProblems "type" told_kindProblems fields).exists_field_iff,
    (told_fieldProblems "name" told_textProblems fields).exists_field_iff,
    (told_fieldProblems "properties" told_propertiesProblems fields).exists_field_iff,
    (told_fieldProblems "tags" told_tagsProblems fields).exists_field_iff,
    (told_fieldProblems "id_reference" (told_referenceProblems declared) fields).exists_field_iff]
  simp only [String.append_right_inj]

/-- **The fields with a problem are those whose rule is violated.** -/
theorem exists_problem_iff_violates {index : Nat} {declared : List String} {taken : String → Prop}
    (known : ∀ reference, reference ∈ declared ↔ taken reference) {entry : Json} {place : String} :
    (∃ problem ∈ entryProblems index declared entry, problem.field = entryPath index ++ place) ↔
      Violates taken entry place := by
  cases entry with
  | object fields =>
    have kind := kind_violated_iff fields (entryPath index ++ ".type")
    have name := name_violated_iff fields (entryPath index ++ ".name")
    have properties := properties_violated_iff fields (entryPath index ++ ".properties")
    have tags : fieldProblems "tags" (tagsProblems (entryPath index ++ ".tags")) fields ≠ [] ↔
        ¬ ∃ texts, Tags (Fields.get? "tags" fields) texts :=
      not_iff_not.mpr (fieldProblems_tags _)
    have reference := reference_violated_iff fields (entryPath index ++ ".id_reference") known
    rw [exists_problem_object_iff]
    constructor
    · rintro (⟨key, required, absent, rfl⟩ | ⟨found, rfl⟩ | ⟨found, rfl⟩ | ⟨found, rfl⟩ |
        ⟨found, rfl⟩ | ⟨found, rfl⟩)
      · simp only [requiredResourceFields, List.mem_cons, List.not_mem_nil, or_false] at required
        rcases required with rfl | rfl | rfl | rfl
        · exact .kind (kind.mp (Or.inl absent))
        · exact .name (name.mp (Or.inl absent))
        · exact .properties (properties.mp (Or.inl absent))
        · exact .reference (reference.mp (Or.inl absent))
      · exact .kind (kind.mp (Or.inr found))
      · exact .name (name.mp (Or.inr found))
      · exact .properties (properties.mp (Or.inr found))
      · exact .tags (not_exists.mp (tags.mp found))
      · exact .reference (reference.mp (Or.inr found))
    · intro violates
      cases violates with
      | mapping other => exact absurd rfl (other fields)
      | kind wrong =>
        rcases kind.mpr wrong with absent | found
        · exact Or.inl ⟨"type", by decide, absent, rfl⟩
        · exact Or.inr (Or.inl ⟨found, rfl⟩)
      | name wrong =>
        rcases name.mpr wrong with absent | found
        · exact Or.inl ⟨"name", by decide, absent, rfl⟩
        · exact Or.inr (Or.inr (Or.inl ⟨found, rfl⟩))
      | properties wrong =>
        rcases properties.mpr wrong with absent | found
        · exact Or.inl ⟨"properties", by decide, absent, rfl⟩
        · exact Or.inr (Or.inr (Or.inr (Or.inl ⟨found, rfl⟩)))
      | tags wrong =>
        have found := tags.mpr (not_exists.mpr wrong)
        exact Or.inr (Or.inr (Or.inr (Or.inr (Or.inl ⟨found, rfl⟩))))
      | reference wrong =>
        rcases reference.mpr wrong with absent | found
        · exact Or.inl ⟨"id_reference", by decide, absent, rfl⟩
        · exact Or.inr (Or.inr (Or.inr (Or.inr (Or.inr ⟨found, rfl⟩))))
  | _ =>
    have here : entryPath index ++ "" = entryPath index ++ place ↔ "" = place :=
      String.append_right_inj _
    rw [String.append_empty] at here
    simp only [entryProblems, List.mem_singleton, exists_eq_left, here]
    constructor
    · rintro rfl
      exact .mapping fun fields same => by cases same
    · rintro ⟨⟩
      rfl

/-! ### All entries -/

/-- **The problems of an entry are about the entry.** -/
theorem concerns_of_mem_entryProblems {index : Nat} {declared : List String} {entry : Json}
    {problem : Problem} (found : problem ∈ entryProblems index declared entry) :
    problem.concerns index = true := by
  cases entry with
  | object fields =>
    simp only [entryProblems, List.mem_append, List.mem_map, or_assoc] at found
    rcases found with ⟨key, _, rfl⟩ | kind | name | properties | tags | reference
    · exact Problem.concerns_iff.mpr (Or.inr ⟨key, rfl⟩)
    · exact Problem.concerns_of_field (by decide)
        ((told_fieldProblems "type" told_kindProblems fields).field_eq kind)
    · exact Problem.concerns_of_field (by decide)
        ((told_fieldProblems "name" told_textProblems fields).field_eq name)
    · exact Problem.concerns_of_field (by decide)
        ((told_fieldProblems "properties" told_propertiesProblems fields).field_eq properties)
    · exact Problem.concerns_of_field (by decide)
        ((told_fieldProblems "tags" told_tagsProblems fields).field_eq tags)
    · exact Problem.concerns_of_field (by decide)
        ((told_fieldProblems "id_reference" (told_referenceProblems declared) fields).field_eq
          reference)
  | _ =>
    obtain rfl := List.mem_singleton.mp found
    exact Problem.concerns_iff.mpr (Or.inl rfl)

/-- The problems at the entry with an index, if there is one. -/
def problemsAt (entries : List Json) (start : Nat) (declared : List String) (index : Nat) :
    List Problem :=
  (entries[index]?).elim [] (entryProblems (start + index)
    (declared ++ (entries.take index).filterMap declaredReference?))

theorem problemsAt_cons_zero (entry : Json) (rest : List Json) (start : Nat)
    (declared : List String) :
    problemsAt (entry :: rest) start declared 0 = entryProblems start declared entry := by
  rw [problemsAt, List.getElem?_cons_zero, List.take_zero, List.filterMap_nil, List.append_nil]
  rfl

theorem problemsAt_cons_succ (entry : Json) (rest : List Json) (start : Nat)
    (declared : List String) (index : Nat) :
    problemsAt (entry :: rest) start declared (index + 1) =
      problemsAt rest (start + 1) (declared ++ (declaredReference? entry).toList) index := by
  rw [problemsAt, problemsAt, List.getElem?_cons_succ, List.take_succ_cons, List.append_assoc,
    Nat.add_assoc, Nat.add_comm 1]
  cases declares : declaredReference? entry with
  | none => rw [List.filterMap_cons_none declares]; rfl
  | some reference => rw [List.filterMap_cons_some declares]; rfl

/-- **The entries are gone through in order.** -/
theorem entriesProblems_eq_flatMap (entries : List Json) (start : Nat) (declared : List String) :
    entriesProblems start declared entries =
      (List.range entries.length).flatMap (problemsAt entries start declared) := by
  induction entries generalizing start declared with
  | nil => rfl
  | cons entry rest ih =>
    rw [entriesProblems, ih, List.length_cons, List.range_succ_eq_map, List.flatMap_cons,
      List.flatMap_map, problemsAt_cons_zero]
    refine congrArg _ (List.flatMap_congr fun index _ => ?_)
    rw [Nat.succ_eq_add_one, problemsAt_cons_succ]

theorem concerns_of_mem_problemsAt {entries : List Json} {start index : Nat}
    {declared : List String} {problem : Problem}
    (found : problem ∈ problemsAt entries start declared index) :
    problem.concerns (start + index) = true := by
  unfold problemsAt at found
  cases there : entries[index]? with
  | none =>
    rw [there] at found
    cases found
  | some entry =>
    rw [there] at found
    exact concerns_of_mem_entryProblems found

theorem exists_concerns_of_mem_entriesProblems {entries : List Json} {start : Nat}
    {declared : List String} {problem : Problem}
    (found : problem ∈ entriesProblems start declared entries) :
    ∃ index, problem.concerns (start + index) = true := by
  rw [entriesProblems_eq_flatMap] at found
  obtain ⟨index, _, here⟩ := List.mem_flatMap.mp found
  exact ⟨index, concerns_of_mem_problemsAt here⟩

/-- **What is found at one entry is told by its path.** -/
theorem filter_concerns_entriesProblems (entries : List Json) (start : Nat) (declared : List String)
    (index : Nat) :
    (entriesProblems start declared entries).filter (Problem.concerns (start + index)) =
      problemsAt entries start declared index := by
  induction entries generalizing start declared index with
  | nil => rfl
  | cons entry rest ih =>
    rw [entriesProblems, List.filter_append]
    cases index with
    | zero =>
      have here : (entryProblems start declared entry).filter (Problem.concerns (start + 0)) =
          entryProblems start declared entry :=
        List.filter_eq_self.mpr fun problem found => concerns_of_mem_entryProblems found
      have later :
          (entriesProblems (start + 1) (declared ++ (declaredReference? entry).toList) rest).filter
            (Problem.concerns (start + 0)) = [] := by
        refine List.filter_eq_nil_iff.mpr fun problem found about => ?_
        obtain ⟨index, elsewhere⟩ := exists_concerns_of_mem_entriesProblems found
        have same := Problem.concerns_unique about elsewhere
        omega
      rw [here, later, List.append_nil, problemsAt_cons_zero]
    | succ index =>
      have here : (entryProblems start declared entry).filter
          (Problem.concerns (start + (index + 1))) = [] := by
        refine List.filter_eq_nil_iff.mpr fun problem found about => ?_
        have same := Problem.concerns_unique about (concerns_of_mem_entryProblems found)
        omega
      rw [here, List.nil_append, problemsAt_cons_succ, ← ih, Nat.add_assoc, Nat.add_comm 1]

/-! ### The document beside its entries -/

theorem field_of_mem_versionProblems {value : Json} {problem : Problem}
    (found : problem ∈ versionProblems value) : problem.field = "format_version" := by
  unfold versionProblems at found
  split at found
  · split at found
    · cases found
    · exact congrArg Problem.field (List.mem_singleton.mp found)
  · exact congrArg Problem.field (List.mem_singleton.mp found)

theorem field_of_mem_minutesProblems {value : Json} {problem : Problem}
    (found : problem ∈ minutesProblems value) : problem.field = "estimated_setup_time_minutes" := by
  unfold minutesProblems at found
  split at found
  · cases found
  · exact congrArg Problem.field (List.mem_singleton.mp found)

theorem exists_of_mem_fieldProblems {key : String} {check : Json → List Problem} {fields : Fields}
    {problem : Problem} (found : problem ∈ fieldProblems key check fields) :
    ∃ value, problem ∈ check value := by
  unfold fieldProblems at found
  cases given : Fields.get? key fields with
  | none =>
    rw [given] at found
    cases found
  | some value =>
    rw [given] at found
    exact ⟨value, found⟩

/-- What is found beside the entries names a field of the document. -/
theorem field_mem_of_mem_documentProblems {fields : Fields} {problem : Problem}
    (found : problem ∈ documentProblems fields) : problem.field ∈ Document.fieldNames := by
  simp only [documentProblems, List.mem_append, List.mem_map, or_assoc] at found
  rcases found with
    ⟨key, missing, rfl⟩ | version | name | title | description | author | tags | minutes
  · have required : ∀ key ∈ requiredFields, key ∈ Document.fieldNames := by decide
    exact required key (List.mem_filter.mp missing).1
  · obtain ⟨value, here⟩ := exists_of_mem_fieldProblems version
    rw [field_of_mem_versionProblems here]
    decide
  · rw [(told_fieldProblems "name" told_textProblems fields).field_eq name]
    decide
  · rw [(told_fieldProblems "title" told_textProblems fields).field_eq title]
    decide
  · rw [(told_fieldProblems "description" told_optionalTextProblems fields).field_eq description]
    decide
  · rw [(told_fieldProblems "author" told_optionalTextProblems fields).field_eq author]
    decide
  · rw [(told_fieldProblems "tags" told_tagsProblems fields).field_eq tags]
    decide
  · obtain ⟨value, here⟩ := exists_of_mem_fieldProblems minutes
    rw [field_of_mem_minutesProblems here]
    decide

/-- **What is found beside the entries is about the document.** -/
theorem isOverall_of_mem_documentProblems {fields : Fields} {problem : Problem}
    (found : problem ∈ documentProblems fields) : problem.isOverall = true := by
  have named : ∀ field ∈ Document.fieldNames,
      (!"resources[".toList.isPrefixOf field.toList) = true := by decide
  exact named _ (field_mem_of_mem_documentProblems found)

/-- Only whether there are resources counts beside the entries, and not which. -/
theorem documentProblems_congr {fields others : Fields}
    (same : ∀ key ≠ "resources", others.get? key = Fields.get? key fields)
    (listed : fields.get? "resources" ≠ none) (also : others.get? "resources" ≠ none) :
    documentProblems others = documentProblems fields := by
  have there (key : String) : Fields.hasKey others key = Fields.hasKey fields key := by
    by_cases apart : key = "resources"
    · subst apart
      rw [Fields.hasKey, Fields.hasKey, Option.isSome_iff_ne_none.mpr listed,
        Option.isSome_iff_ne_none.mpr also]
    · rw [Fields.hasKey, Fields.hasKey, same key apart]
  simp only [documentProblems, there, fieldProblems, same "format_version" (by decide),
    same "name" (by decide), same "title" (by decide), same "description" (by decide),
    same "author" (by decide), same "tags" (by decide),
    same "estimated_setup_time_minutes" (by decide)]

/-! ### The whole pass -/

section Pass

variable {fields : Fields} {entries : List Json}
  (listed : fields.get? "resources" = some (.array entries))

include listed

theorem problems_check_of_listed :
    (check (.object fields)).problems =
      documentProblems fields ++ entriesProblems 0 [] entries := by
  simp only [check, listed]

theorem filter_isOverall_check :
    (check (.object fields)).problems.filter Problem.isOverall = documentProblems fields := by
  have overall : (documentProblems fields).filter Problem.isOverall = documentProblems fields :=
    List.filter_eq_self.mpr fun problem found => isOverall_of_mem_documentProblems found
  have inside : (entriesProblems 0 [] entries).filter Problem.isOverall = [] := by
    refine List.filter_eq_nil_iff.mpr fun problem found => ?_
    obtain ⟨index, about⟩ := exists_concerns_of_mem_entriesProblems found
    rw [Problem.isOverall_of_concerns about]
    exact Bool.false_ne_true
  rw [problems_check_of_listed listed, List.filter_append, overall, inside, List.append_nil]

theorem filter_concerns_check (index : Nat) :
    (check (.object fields)).problems.filter (Problem.concerns index) =
      problemsAt entries 0 [] index := by
  have outside : (documentProblems fields).filter (Problem.concerns index) = [] := by
    refine List.filter_eq_nil_iff.mpr fun problem found about => ?_
    cases (Problem.isOverall_of_concerns about).symm.trans (isOverall_of_mem_documentProblems found)
  have inside := filter_concerns_entriesProblems entries 0 [] index
  rw [Nat.zero_add] at inside
  rw [problems_check_of_listed listed, List.filter_append, outside, inside, List.nil_append]

/-- **The problems of an entry**, by itself and by what is declared before it. -/
theorem filter_concerns_check_of_getElem? {index : Nat} {entry : Json}
    (there : entries[index]? = some entry) :
    (check (.object fields)).problems.filter (Problem.concerns index) =
      entryProblems index ((entries.take index).filterMap declaredReference?) entry := by
  rw [filter_concerns_check listed, problemsAt, there, Option.elim_some, Nat.zero_add,
    List.nil_append]

end Pass

theorem mem_filterMap_declaredReference?_iff {entries : List Json} {index : Nat}
    {reference : String} :
    reference ∈ (entries.take index).filterMap declaredReference? ↔
      Taken entries index reference := by
  simp only [List.mem_filterMap, declaredReference?_eq_some_iff, Taken]

/-- **Problems never hide one another.** The pass finds the problems of the document and then those
of each entry, in order, and the path of a problem tells which it is about. Those of the document
are the same for all lists of entries. Those of an entry are what the entry has as the only one of a
list, in any document, at its own index, and after them one problem more if and only if its
reference has identifier syntax and is taken by an earlier entry. There is none exactly if the entry
declares a resource with a new reference; and the fields with a problem are exactly those whose rule
the entry violates, whatever else is wrong. -/
theorem check_separates {fields : Fields} {entries : List Json}
    (listed : fields.get? "resources" = some (.array entries)) :
    let found := (check (.object fields)).problems
    found = found.filter Problem.isOverall ++
        (List.range entries.length).flatMap (fun index => found.filter (Problem.concerns index)) ∧
      (∀ (others : Fields) (replaced : List Json),
        others.get? "resources" = some (.array replaced) →
        (∀ key ≠ "resources", others.get? key = Fields.get? key fields) →
          (check (.object others)).problems.filter Problem.isOverall =
            found.filter Problem.isOverall) ∧
      ∀ index entry, entries[index]? = some entry →
        let here := found.filter (Problem.concerns index)
        (∀ solo : Fields, solo.get? "resources" = some (.array [entry]) →
          let alone := ((check (.object solo)).problems.filter (Problem.concerns 0)).map
            (Problem.moved 0 index)
          (∀ reference, Declares entry reference → Taken entries index reference →
            here = alone ++
              [⟨entryPath index ++ ".id_reference", "Duplicate id_reference: " ++ reference⟩]) ∧
          ((∀ reference, Declares entry reference → ¬ Taken entries index reference) →
            here = alone)) ∧
        (here = [] ↔ ∃ resource, Entry entry resource ∧ ¬ Taken entries index resource.reference) ∧
        ∀ place, (∃ problem ∈ here, problem.field = entryPath index ++ place) ↔
          Violates (Taken entries index) entry place := by
  intro found
  refine ⟨?_, fun others replaced given same => ?_,
    fun index entry there => ⟨fun solo single => ?_, ?_, fun place => ?_⟩⟩
  · simp only [found, filter_isOverall_check listed, filter_concerns_check listed]
    rw [problems_check_of_listed listed, entriesProblems_eq_flatMap]
  · rw [filter_isOverall_check given, filter_isOverall_check listed]
    refine documentProblems_congr same ?_ ?_
    · rw [listed]
      exact Option.some_ne_none _
    · rw [given]
      exact Option.some_ne_none _
  · simp only [found, filter_concerns_check_of_getElem? listed there,
      filter_concerns_check_of_getElem? single (List.getElem?_cons_zero), List.take_zero,
      List.filterMap_nil]
    rw [← entryProblems_eq_map_moved, entryProblems_eq_append, duplicateProblems]
    constructor
    · intro reference declares taken
      have known := List.contains_iff_mem.mpr (mem_filterMap_declaredReference?_iff.mpr taken)
      rw [declaredReference?_eq_some_iff.mpr declares, Option.elim_some, if_pos known]
    · intro new
      cases declares : declaredReference? entry with
      | none => exact List.append_nil _
      | some reference =>
        have unknown := new reference (declaredReference?_eq_some_iff.mp declares)
        rw [Option.elim_some, if_neg, List.append_nil]
        rwa [List.contains_iff_mem, mem_filterMap_declaredReference?_iff]
  · simp only [found, filter_concerns_check_of_getElem? listed there, entryProblems_eq_nil_iff,
      mem_filterMap_declaredReference?_iff]
  · simp only [found, filter_concerns_check_of_getElem? listed there]
    exact exists_problem_iff_violates fun reference => mem_filterMap_declaredReference?_iff

/-- Entries of which the first has a blank name and no type, the second is nothing, and the third is
without a list of tags and repeats the reference of the first. -/
def muddled : List Json :=
  [.object [("id_reference", .string "lab"), ("name", .string " "), ("properties", .object [])],
    .null,
    .object [("id_reference", .string "lab"), ("name", .string "Lab"), ("properties", .object []),
      ("tags", .string "a"), ("type", .string "location")]]

/-- The third of the muddled entries has the problem of its tags, which it has alone as well, and
the one that its reference is taken by the first, wrong as that is. -/
theorem check_separates_muddled :
    let found := (check (.object [("resources", .array muddled)])).problems
    Fields.get? "resources" [("resources", .array muddled)] = some (.array muddled) ∧
      found.filter (Problem.concerns 2) = [⟨"resources[2].tags", "tags must be a list of strings"⟩,
        ⟨"resources[2].id_reference", "Duplicate id_reference: lab"⟩] ∧
      (∃ problem ∈ found.filter (Problem.concerns 0), problem.field = entryPath 0 ++ ".type") := by
  intro found
  have listed : Fields.get? "resources" [("resources", .array muddled)] = some (.array muddled) :=
    rfl
  obtain ⟨_, _, each⟩ := check_separates listed
  have identifier : IsIdentifier "lab" := isIdentifier_iff.mp (by decide)
  refine ⟨listed, ?_, ?_⟩
  · obtain ⟨apart, _⟩ := each 2 _ rfl
    have taken : Taken muddled 2 "lab" := ⟨_, List.mem_cons_self, .mapping rfl identifier⟩
    refine ((apart [("resources", .array [muddled[2]])] rfl).1 "lab"
      (.mapping rfl identifier) taken).trans ?_
    decide +kernel
  · obtain ⟨_, _, places⟩ := each 0 _ rfl
    exact (places ".type").mpr (.kind fun kind given => by cases given)

end Schema

end ResourceGraph
