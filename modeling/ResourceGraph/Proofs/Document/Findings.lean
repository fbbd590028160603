/-
**What the reference pass guarantees.**

A document that validation accepts has no undefined reference. If it has no warning about a forward
reference either, then every reference of a resource is declared by a resource before it.

* `validate_eq_ok`: what an accepted document went through;
* `exists_position_of_findings`: a reference without a finding is declared before;
* `exists_position_of_validate`, `exists_before_of_validate`: so every reference of an accepted
  document is.
-/

import ResourceGraph.Document.Validation
import ResourceGraph.Proofs.Document.Placeholder

namespace ResourceGraph

namespace Document

/-- **An accepted document went through both passes**, and the warnings are those of both. -/
theorem validate_eq_ok {source : String} {raw : Json} {validated : Validated}
    (accepted : (Document.validate source raw).value = .ok validated) :
    (Schema.check raw.withTextVersion).problems = [] ∧
      Document.ofJson raw.withTextVersion = .ok validated.document ∧
      validated.document.referenceFindings.problems = [] ∧
      validated.warnings = validated.document.referenceFindings.warnings ++
        (Schema.check raw.withTextVersion).warnings := by
  simp only [validate] at accepted
  split at accepted
  · cases accepted
  · rename_i shaped
    split at accepted
    · cases accepted
    · rename_i document read
      split at accepted
      · cases accepted
      · rename_i closed
        cases accepted
        refine ⟨?_, read, ?_, rfl⟩
        · simpa [Findings.isValid] using shaped
        · simpa [Findings.isValid] using closed

theorem getElem?_of_lastPosition? {document : Document} {reference : String} {position : Nat}
    (last : document.lastPosition? reference = some position) :
    document.references[position]? = some reference := by
  obtain ⟨⟨declared, _⟩, final, rfl⟩ := Option.map_eq_some_iff.mp last
  obtain ⟨member, same⟩ := List.mem_filter.mp (List.mem_of_getLast? final)
  obtain rfl := eq_of_beq same
  exact List.mk_mem_zipIdx_iff_getElem?.mp member

section Findings

variable {document : Document} {index : Nat} {resource : Resource} {reference : String}

/-- **A reference without a finding is declared before.** -/
theorem exists_position_of_findings
    (noProblem : (document.resourceFindings index resource).problems = [])
    (noWarning : forwardReference index resource reference ∉
      (document.resourceFindings index resource).warnings)
    (named : Json.References (.object resource.properties) reference) :
    ∃ position < index, document.references[position]? = some reference := by
  have gathered := Json.mem_placeholders_iff.mpr named
  have defined : (document.lastPosition? reference).isNone = false := by
    have none := List.filter_eq_nil_iff.mp (List.map_eq_nil_iff.mp noProblem) reference gathered
    exact Bool.eq_false_iff.mpr none
  cases last : document.lastPosition? reference with
  | none =>
    rw [last] at defined
    cases defined
  | some position =>
    refine ⟨position, ?_, getElem?_of_lastPosition? last⟩
    -- at or after the index it would be warned about
    by_contra late
    refine noWarning (List.mem_map_of_mem (List.mem_filter.mpr ⟨gathered, ?_⟩))
    rw [last]
    exact decide_eq_true (Nat.le_of_not_lt late)

/-- The findings at a resource are among those of the document. -/
theorem resourceFindings_of_getElem? (there : document.resources[index]? = some resource) :
    (document.resourceFindings index resource).problems ⊆ document.referenceFindings.problems ∧
      (document.resourceFindings index resource).warnings ⊆
        document.referenceFindings.warnings := by
  have member := List.mem_map_of_mem (f := fun entry => document.resourceFindings entry.2 entry.1)
    (List.mk_mem_zipIdx_iff_getElem?.mpr there)
  exact ⟨fun problem found => List.mem_flatMap.mpr ⟨_, member, found⟩,
    fun warning found => List.mem_flatMap.mpr ⟨_, member, found⟩⟩

end Findings

section Backward

variable {source : String} {raw : Json} {validated : Validated}
  (accepted : (Document.validate source raw).value = .ok validated)
  (backward : ∀ index resource reference,
    forwardReference index resource reference ∉ validated.warnings)

include accepted backward

/-- **Without a forward reference, references point back**: to an earlier position. -/
theorem exists_position_of_validate {index : Nat} {resource : Resource} {reference : String}
    (there : validated.document.resources[index]? = some resource)
    (named : Json.References (.object resource.properties) reference) :
    ∃ position < index, validated.document.references[position]? = some reference := by
  obtain ⟨_, _, noProblem, given⟩ := validate_eq_ok accepted
  obtain ⟨problems, warnings⟩ := resourceFindings_of_getElem? there
  rw [noProblem] at problems
  exact exists_position_of_findings (List.subset_nil.mp problems)
    (fun warned => backward _ _ _ (given ▸ List.mem_append_left _ (warnings warned))) named

/-- Without a forward reference, what is referred to is declared before. -/
theorem exists_before_of_validate {before after : List Resource} {resource : Resource}
    (split : validated.document.resources = before ++ resource :: after) {reference : String}
    (named : Json.References (.object resource.properties) reference) :
    ∃ earlier ∈ before, earlier.reference = reference := by
  have there : validated.document.resources[before.length]? = some resource := by
    rw [split, List.getElem?_append_right (Nat.le_refl _), Nat.sub_self, List.getElem?_cons_zero]
  obtain ⟨position, early, declared⟩ := exists_position_of_validate accepted backward there named
  rw [references, List.getElem?_map, split, List.getElem?_append_left early] at declared
  obtain ⟨earlier, found, same⟩ := Option.map_eq_some_iff.mp declared
  exact ⟨earlier, List.mem_of_getElem? found, same⟩

end Backward

end Document

end ResourceGraph
