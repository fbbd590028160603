/-
**Replacement in two steps, and what is left to replace.**

Identifiers that are published later are put in where the earlier ones left a placeholder. If no
earlier identifier is itself a placeholder, then a placeholder that is left after the first step was
there before it.

* `Identifiers.orElse`: identifiers with others behind them;
* `resolve_resolve`: two replacements are the replacement by the first identifiers or else the
  second;
* `resolve_eq_self_iff`: when replacement changes nothing;
* `placeholders_resolve`: what is left to replace, in the order of before;
* `resolve_composes`: these together, with the references that a run calls unresolved.
-/

import ResourceGraph.Proofs.Provision.ForwardReferences

namespace ResourceGraph

namespace Identifiers

/-- The identifiers, and those of others for the references that have none. -/
def orElse (first second : Identifiers) : Identifiers :=
  ⟨first.entries ++ second.entries⟩

theorem get?_orElse (first second : Identifiers) (reference : String) :
    (first.orElse second).get? reference =
      (first.get? reference).or (second.get? reference) := by
  unfold get? orElse
  rw [List.find?_append, Option.map_or]

end Identifiers

namespace Json

open Placeholder

/-- **Two replacements are one**, by the first identifiers or else the second. -/
theorem resolve_resolve {first second merged : Identifiers} (clean : first.Clean)
    (merges : ∀ reference, merged.get? reference =
      (first.get? reference).or (second.get? reference)) (value : Json) :
    (value.resolve first).resolve second = value.resolve merged := by
  induction value using Json.induct with
  | null => rfl
  | bool value => rfl
  | number value => rfl
  | string text =>
    simp only [resolve]
    refine congrArg string ?_
    cases named : reference? text with
    | none => rw [Option.bind_none, Option.getD_none, named, Option.bind_none, Option.bind_none]
    | some reference =>
      rw [Option.bind_some, Option.bind_some, merges]
      cases known : first.get? reference with
      | none => rw [Option.getD_none, named, Option.bind_some, Option.none_or]
      | some id =>
        -- an identifier stays as it is only because it is no placeholder itself
        have plain : reference? id = none := reference?_eq_none_iff.mpr (clean reference id known)
        rw [Option.getD_some, plain, Option.bind_none, Option.some_or, Option.getD_some,
          Option.getD_none]
  | array items ih =>
    simp only [resolve, resolveItems_eq_map, List.map_map]
    exact congrArg array (List.map_congr_left ih)
  | object fields ih =>
    simp only [resolve, resolveFields_eq_map, List.map_map]
    refine congrArg object (List.map_congr_left fun field member => ?_)
    exact congrArg (Prod.mk field.1) (ih field member)

theorem resolve_eq_self {ids : Identifiers} (value : Json)
    (unknown : ∀ reference ∈ value.mentions, ids.get? reference = none) :
    value.resolve ids = value := by
  induction value using Json.induct with
  | null => rfl
  | bool value => rfl
  | number value => rfl
  | string text =>
    rw [resolve]
    refine congrArg string ?_
    cases named : reference? text with
    | none => rfl
    | some reference =>
      have mentioned : reference ∈ (string text).mentions :=
        mem_mentions_iff.mpr (references_string_iff.mpr (reference?_eq_some_iff.mp named))
      rw [Option.bind_some, unknown reference mentioned, Option.getD_none]
  | array items ih =>
    rw [mentions_array, List.forall_mem_flatMap] at unknown
    rw [resolve, resolveItems_eq_map]
    refine congrArg array ((List.map_congr_left fun item member => ?_).trans (List.map_id items))
    exact ih item member (unknown item member)
  | object fields ih =>
    rw [mentions_object, List.forall_mem_flatMap] at unknown
    rw [resolve, resolveFields_eq_map]
    refine congrArg object ((List.map_congr_left fun field member => ?_).trans (List.map_id fields))
    exact congrArg (Prod.mk field.1) (ih field member (unknown field member))

theorem resolve_eq_self_iff {ids : Identifiers} (clean : ids.Clean) {value : Json} :
    value.resolve ids = value ↔ ∀ reference ∈ value.placeholders, ids.get? reference = none := by
  simp only [placeholders_eq, List.mem_eraseDups]
  refine ⟨fun same reference mentioned => ?_, resolve_eq_self value⟩
  rw [← same, mentions_resolve clean, List.mem_filter, Option.isNone_iff_eq_none] at mentioned
  exact mentioned.2

/-- **What is left to replace**, in the order of before. -/
theorem placeholders_resolve {ids : Identifiers} (clean : ids.Clean) (value : Json) :
    (value.resolve ids).placeholders =
      value.placeholders.filter fun reference => (ids.get? reference).isNone := by
  rw [placeholders_eq, placeholders_eq, mentions_resolve clean, eraseDups_filter]

/-- **Replacement composes, and agrees with gathering.** -/
theorem resolve_composes {first : Identifiers} (clean : first.Clean) (value : Json) :
    (∀ second reference, (first.orElse second).get? reference =
        (first.get? reference).or (second.get? reference)) ∧
      (∀ second merged : Identifiers, (∀ reference, merged.get? reference =
          (first.get? reference).or (second.get? reference)) →
        (value.resolve first).resolve second = value.resolve merged) ∧
      (value.resolve first).resolve first = value.resolve first ∧
      (value.resolve first).placeholders =
        value.placeholders.filter (fun reference => (first.get? reference).isNone) ∧
      (value.resolve first).placeholders.Nodup ∧
      (value.resolve first = value ↔
        ∀ reference ∈ value.placeholders, first.get? reference = none) ∧
      ∀ properties, Provision.unresolvedReferences properties =
        (object properties).placeholders := by
  refine ⟨first.get?_orElse, fun second merged merges => resolve_resolve clean merges value, ?_,
    placeholders_resolve clean value, ?_, resolve_eq_self_iff clean, fun properties => ?_⟩
  · refine (resolve_eq_self_iff clean).mpr fun reference left => ?_
    rw [placeholders_resolve clean, List.mem_filter, Option.isNone_iff_eq_none] at left
    exact left.2
  · rw [placeholders_eq]
    exact nodup_eraseDups _
  · rw [Provision.unresolvedReferences_eq, placeholders_eq]

/-- Of two references that a list names, one is known, and the other is left. -/
theorem resolve_composes_part :
    Identifiers.Clean ⟨[("lab", "L-1")]⟩ ∧
      ((array [.string "${bench}", .string "${lab}", .string "${bench}"]).resolve
        ⟨[("lab", "L-1")]⟩).placeholders = ["bench"] := by
  have clean : Identifiers.Clean ⟨[("lab", "L-1")]⟩ := by
    intro reference id known
    obtain ⟨entry, found, rfl⟩ := Option.map_eq_some_iff.mp known
    obtain rfl := List.mem_singleton.mp (List.mem_of_find?_eq_some found)
    exact reference?_eq_none_iff.mp (by decide)
  refine ⟨clean, ?_⟩
  rw [(resolve_composes clean _).2.2.2.1]
  decide

end Json

end ResourceGraph
