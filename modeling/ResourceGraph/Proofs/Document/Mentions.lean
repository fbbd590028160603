/-
**The references in a value, in order.**

The strings of a value come in the order of its items and fields. A value mentions a reference
wherever one of its strings is the placeholder of it; gathering keeps the first mention of each.

* `pairwise_idxOf_eraseDups`: first occurrences come in order;
* `Json.texts`, `Json.mentions`: the strings of a value and the references that they name;
* `placeholders_eq`: the gathered references are the mentions without repetitions;
* `Identifiers.Clean`: no identifier is a placeholder; `mentions_resolve`: then replacement leaves
  the mentions without an identifier.
-/

import Mathlib.Data.List.Induction
import ResourceGraph.Proofs.Document.Placeholder

namespace ResourceGraph

/-! ### First occurrences -/

theorem eraseDups_concat {α : Type} [DecidableEq α] (items : List α) (last : α) :
    (items ++ [last]).eraseDups =
      if last ∈ items then items.eraseDups else items.eraseDups ++ [last] := by
  rw [List.eraseDups_append, List.cons_removeAll, List.nil_removeAll]
  by_cases there : last ∈ items
  · rw [if_neg (by simpa using there), if_pos there, List.eraseDups_nil, List.append_nil]
  · rw [if_pos (by simpa using there), if_neg there]
    rfl

/-- **First occurrences come in order.** -/
theorem pairwise_idxOf_eraseDups {α : Type} [DecidableEq α] (items : List α) :
    items.eraseDups.Pairwise fun one other => items.idxOf one < items.idxOf other := by
  induction items using List.reverseRecOn with
  | nil => exact .nil
  | append_singleton items last ih =>
    have kept : items.eraseDups.Pairwise fun one other =>
        (items ++ [last]).idxOf one < (items ++ [last]).idxOf other := by
      refine List.Pairwise.imp_of_mem (fun {one other} member also before => ?_) ih
      rw [List.mem_eraseDups] at member also
      rwa [List.idxOf_append, List.idxOf_append, if_pos member, if_pos also]
    rw [eraseDups_concat]
    split
    · exact kept
    · rename_i there
      refine List.pairwise_append.mpr ⟨kept, List.pairwise_singleton _ _,
        fun one member other new => ?_⟩
      obtain rfl := List.mem_singleton.mp new
      rw [List.mem_eraseDups] at member
      rw [List.idxOf_append, List.idxOf_append, if_pos member, if_neg there]
      exact Nat.lt_of_lt_of_le (List.idxOf_lt_length_of_mem member) (Nat.le_add_left _ _)

theorem nodup_eraseDups {α : Type} [DecidableEq α] (items : List α) : items.eraseDups.Nodup := by
  refine (pairwise_idxOf_eraseDups items).imp fun {one other} before same => ?_
  rw [same] at before
  exact Nat.lt_irrefl _ before

theorem eraseDups_filter {α : Type} [DecidableEq α] (keep : α → Bool) (items : List α) :
    (items.filter keep).eraseDups = items.eraseDups.filter keep := by
  induction items using List.reverseRecOn with
  | nil => rfl
  | append_singleton items last ih =>
    rw [List.filter_append, eraseDups_concat]
    by_cases kept : keep last = true
    · have member : last ∈ items.filter keep ↔ last ∈ items :=
        List.mem_filter.trans (and_iff_left kept)
      rw [List.filter_cons_of_pos kept, List.filter_nil, eraseDups_concat, ih]
      by_cases there : last ∈ items
      · rw [if_pos (member.mpr there), if_pos there]
      · rw [if_neg (mt member.mp there), if_neg there, List.filter_append,
          List.filter_cons_of_pos kept, List.filter_nil]
    · rw [List.filter_cons_of_neg kept, List.filter_nil, List.append_nil, ih]
      by_cases there : last ∈ items
      · rw [if_pos there]
      · rw [if_neg there, List.filter_append, List.filter_cons_of_neg kept, List.filter_nil,
          List.append_nil]

/-- No identifier is a placeholder. -/
def Identifiers.Clean (ids : Identifiers) : Prop :=
  ∀ reference id, ids.get? reference = some id → ∀ other, ¬ Placeholder.Names id other

namespace Json

open Placeholder

/-! ### Mentions -/

mutual

/-- The strings of a value, in order. -/
def texts : Json → List String
  | string text => [text]
  | array items => textsOfItems items
  | object fields => textsOfFields fields
  | _ => []

/-- The strings of some items, in order. -/
def textsOfItems : List Json → List String
  | [] => []
  | item :: rest => texts item ++ textsOfItems rest

/-- The strings of some fields, in order. -/
def textsOfFields : List (String × Json) → List String
  | [] => []
  | (_, value) :: rest => texts value ++ textsOfFields rest

end

/-- The references that the strings of a value name, in order. -/
def mentions (value : Json) : List String :=
  value.texts.filterMap reference?

theorem texts_array (items : List Json) : texts (.array items) = items.flatMap texts := by
  rw [texts]
  induction items with
  | nil => rfl
  | cons item rest ih => rw [textsOfItems, ih, List.flatMap_cons]

theorem texts_object (fields : Fields) :
    texts (.object fields) = fields.flatMap fun field => field.2.texts := by
  rw [texts]
  induction fields with
  | nil => rfl
  | cons field rest ih => rw [textsOfFields, ih, List.flatMap_cons]

theorem mentions_array (items : List Json) : mentions (.array items) = items.flatMap mentions := by
  rw [mentions, texts_array, List.filterMap_flatMap]
  rfl

theorem mentions_object (fields : Fields) :
    mentions (.object fields) = fields.flatMap fun field => field.2.mentions := by
  rw [mentions, texts_object, List.filterMap_flatMap]
  rfl

theorem mem_texts_iff {text : String} (value : Json) : text ∈ value.texts ↔ Holds text value := by
  have scalar {value : Json} (empty : value.texts = []) (none : ¬ Holds text value) :
      text ∈ value.texts ↔ Holds text value := by
    rw [empty]
    exact iff_of_false List.not_mem_nil none
  induction value using Json.induct with
  | null => exact scalar rfl fun holds => by cases holds
  | bool value => exact scalar rfl fun holds => by cases holds
  | number value => exact scalar rfl fun holds => by cases holds
  | string other => rw [texts, List.mem_singleton, holds_string_iff, eq_comm]
  | array items ih =>
    rw [texts_array, List.mem_flatMap, holds_array_iff]
    exact exists_congr fun item => and_congr_right (ih item)
  | object fields ih =>
    rw [texts_object, List.mem_flatMap, holds_object_iff]
    exact exists_congr fun field => and_congr_right (ih field)

theorem mem_mentions_iff {value : Json} {reference : String} :
    reference ∈ value.mentions ↔ References value reference := by
  unfold mentions References
  simp only [List.mem_filterMap, mem_texts_iff, reference?_eq_some_iff]
  exact exists_congr fun text => and_comm

/-! ### First mentions -/

/-- **References that are added in turn** are there once each, first occurrence first. -/
theorem foldl_addReference (references found : List String) :
    references.foldl addReference found =
      found ++ (references.filter fun reference => !found.contains reference).eraseDups := by
  induction references generalizing found with
  | nil => simp
  | cons reference rest ih =>
    rw [List.foldl_cons, ih, addReference]
    by_cases there : found.contains reference = true
    · rw [if_pos there, List.filter_cons_of_neg (by rw [there]; exact Bool.false_ne_true)]
    · rw [if_neg there, List.filter_cons, if_pos (by simpa using there), List.eraseDups_cons,
        List.append_assoc, List.singleton_append, List.filter_filter]
      refine congrArg (fun later => found ++ reference :: List.eraseDups later) ?_
      refine List.filter_congr fun other _ => ?_
      rw [List.contains_append, List.contains_cons, List.contains_nil, Bool.or_false, Bool.not_or,
        Bool.and_comm]

theorem mem_foldl_addReference {references found : List String} {reference : String} :
    reference ∈ references.foldl addReference found ↔
      reference ∈ found ∨ reference ∈ references := by
  have each : ∀ other ∈ references, ∀ found,
      reference ∈ addReference found other ↔ reference ∈ found ∨ reference = other :=
    fun _ _ _ => mem_addReference
  rw [mem_foldl each]
  simp only [exists_eq_right']

/-- It makes no difference to add references that were gathered before. -/
theorem foldl_addReference_gathered (references found : List String) :
    (references.foldl addReference []).foldl addReference found =
      references.foldl addReference found := by
  induction references using List.reverseRecOn with
  | nil => rfl
  | append_singleton references last ih =>
    simp only [List.foldl_append, List.foldl_cons, List.foldl_nil]
    by_cases there : (references.foldl addReference []).contains last = true
    · have also : (references.foldl addReference found).contains last = true := by
        have member := mem_foldl_addReference.mp (List.contains_iff_mem.mp there)
        refine List.contains_iff_mem.mpr (mem_foldl_addReference.mpr (Or.inr ?_))
        exact member.resolve_left List.not_mem_nil
      rw [addReference, if_pos there, ih, addReference, if_pos also]
    · rw [addReference, if_neg there, List.foldl_append, ih, List.foldl_cons, List.foldl_nil]

theorem gatherPlaceholders_eq_foldl (value : Json) :
    ∀ found, gatherPlaceholders found value = value.mentions.foldl addReference found := by
  induction value using Json.induct with
  | null => exact fun found => rfl
  | bool value => exact fun found => rfl
  | number value => exact fun found => rfl
  | string text =>
    intro found
    rw [gatherPlaceholders, mentions, texts]
    cases named : reference? text with
    | none => rw [List.filterMap_cons_none named]; rfl
    | some reference => rw [List.filterMap_cons_some named]; rfl
  | array items ih =>
    intro found
    rw [gatherPlaceholders, gatherItems_eq_foldl, mentions_array, List.foldl_flatMap]
    exact List.foldl_ext _ _ _ fun found item member => ih item member found
  | object fields ih =>
    intro found
    rw [gatherPlaceholders, gatherFields_eq_foldl, mentions_object, List.foldl_flatMap]
    exact List.foldl_ext _ _ _ fun found field member => ih field member found

/-- **The gathered references are the mentions without repetitions.** -/
theorem placeholders_eq (value : Json) : value.placeholders = value.mentions.eraseDups := by
  rw [placeholders, gatherPlaceholders_eq_foldl, foldl_addReference, List.nil_append]
  simp

/-! ### What replacement leaves -/

/-- **Replacement leaves the mentions without an identifier.** -/
theorem mentions_resolve {ids : Identifiers} (clean : ids.Clean) (value : Json) :
    (value.resolve ids).mentions =
      value.mentions.filter fun reference => (ids.get? reference).isNone := by
  induction value using Json.induct with
  | null => rfl
  | bool value => rfl
  | number value => rfl
  | string text =>
    rw [resolve, mentions, mentions, texts, texts]
    cases named : reference? text with
    | none =>
      rw [Option.bind_none, Option.getD_none, List.filterMap_cons_none named]
      rfl
    | some reference =>
      rw [Option.bind_some, List.filterMap_cons_some named]
      cases known : ids.get? reference with
      | none =>
        rw [Option.getD_none, List.filterMap_cons_some named]
        simp [known]
      | some id =>
        rw [Option.getD_some,
          List.filterMap_cons_none (reference?_eq_none_iff.mpr (clean _ _ known))]
        simp [known]
  | array items ih =>
    rw [resolve, resolveItems_eq_map, mentions_array, mentions_array, List.flatMap_map,
      List.filter_flatMap]
    exact List.flatMap_congr ih
  | object fields ih =>
    rw [resolve, resolveFields_eq_map, mentions_object, mentions_object, List.flatMap_map,
      List.filter_flatMap]
    exact List.flatMap_congr ih

end Json

end ResourceGraph
