/-
**Looking keys up in mappings.**

What a key holds after fields were set. None of it asks that the keys are in order.

* `get?_insert`: setting one key;
* `get?_foldl_insert`, `get?_ofList`: setting many; the last value of a repeated key counts;
* `mem_of_get?`: what is found is a field;
* `get?_eq_some_of_mem`: a field of a list without repeated keys is found;
* `bind_text?_eq_some_iff`: what is found is a text.
-/

import Mathlib.Data.List.Induction
import Mathlib.Data.List.Nodup
import ResourceGraph.Json.Basic

namespace ResourceGraph

namespace Fields

theorem get?_insert (key other : String) (value : Json) (fields : Fields) :
    get? other (fields.insert key value) =
      if key = other then some value else get? other fields := by
  induction fields with
  | nil => rfl
  | cons field rest ih =>
    obtain ⟨first, old⟩ := field
    rw [insert]
    by_cases here : key = first
    · subst here
      rw [if_pos rfl]
      show (if key = other then _ else _) = _
      by_cases same : key = other
      · rw [if_pos same, if_pos same]
      · rw [if_neg same, if_neg same, get?, if_neg same]
    · rw [if_neg here]
      by_cases before : key < first
      · rw [if_pos before]
        rfl
      · rw [if_neg before, get?, ih, get?]
        by_cases found : first = other
        · have apart : key ≠ other := fun same => here (same.trans found.symm)
          rw [if_pos found, if_neg apart, if_pos found]
        · rw [if_neg found, if_neg found]

@[simp]
theorem get?_insert_self (key : String) (value : Json) (fields : Fields) :
    get? key (fields.insert key value) = some value := by
  rw [get?_insert, if_pos rfl]

theorem get?_insert_of_ne {key other : String} (apart : key ≠ other) (value : Json)
    (fields : Fields) : get? other (fields.insert key value) = get? other fields := by
  rw [get?_insert, if_neg apart]

theorem mem_insert {key : String} {value : Json} {fields : Fields} {field : String × Json}
    (member : field ∈ fields.insert key value) : field = (key, value) ∨ field ∈ fields := by
  induction fields with
  | nil => exact Or.inl (List.mem_singleton.mp member)
  | cons first rest ih =>
    obtain ⟨name, old⟩ := first
    rw [insert] at member
    split at member
    · rcases List.mem_cons.mp member with new | kept
      · exact Or.inl new
      · exact Or.inr (List.mem_cons_of_mem _ kept)
    · split at member
      · exact List.mem_cons.mp member
      · rcases List.mem_cons.mp member with rfl | later
        · exact Or.inr List.mem_cons_self
        · exact (ih later).imp_right (List.mem_cons_of_mem _)

/-- What is found is a text. -/
theorem bind_text?_eq_some_iff {found : Option Json} {text : String} :
    found.bind (·.text?) = some text ↔ found = some (.string text) := by
  cases found with
  | none => simp
  | some value => cases value <;> simp [Json.text?]

theorem get?_append (key : String) (first second : Fields) :
    get? key (first ++ second) = (get? key first).or (get? key second) := by
  induction first with
  | nil => rfl
  | cons field rest ih =>
    obtain ⟨name, value⟩ := field
    rw [List.cons_append, get?, get?, ih]
    split
    · rfl
    · rfl

/-- What a key holds is the value of a field. -/
theorem mem_of_get? {key : String} {value : Json} {fields : Fields}
    (found : fields.get? key = some value) : (key, value) ∈ fields := by
  induction fields with
  | nil => cases found
  | cons field rest ih =>
    obtain ⟨other, there⟩ := field
    rw [get?] at found
    split at found
    · rename_i same
      cases found
      exact same ▸ List.mem_cons_self
    · exact List.mem_cons_of_mem _ (ih found)

theorem get?_eq_some_of_mem {key : String} {value : Json} {fields : Fields}
    (distinct : (fields.map Prod.fst).Nodup) (member : (key, value) ∈ fields) :
    get? key fields = some value := by
  induction fields with
  | nil => cases member
  | cons field rest ih =>
    obtain ⟨first, old⟩ := field
    rw [List.map_cons, List.nodup_cons] at distinct
    obtain ⟨fresh, others⟩ := distinct
    rw [get?]
    rcases List.mem_cons.mp member with here | later
    · cases here
      rw [if_pos rfl]
    · have apart : first ≠ key := by
        rintro rfl
        have listed : (first, value).1 ∈ rest.map Prod.fst := List.mem_map_of_mem later
        exact fresh listed
      rw [if_neg apart]
      exact ih others later

theorem get?_eq_none_iff {key : String} {fields : Fields} :
    get? key fields = none ↔ key ∉ fields.map Prod.fst := by
  induction fields with
  | nil => exact iff_of_true rfl List.not_mem_nil
  | cons field rest ih =>
    obtain ⟨first, old⟩ := field
    rw [get?, List.map_cons, List.mem_cons, not_or, ← ih]
    by_cases here : first = key
    · rw [if_pos here]
      exact iff_of_false (Option.some_ne_none _) fun both => both.1 here.symm
    · rw [if_neg here]
      exact (and_iff_right fun same => here same.symm).symm

/-! ### Setting many keys -/

theorem get?_foldl_insert (key : String) (fields : Fields) (pairs : List (String × Json)) :
    get? key (pairs.foldl (fun fields pair => fields.insert pair.1 pair.2) fields) =
      (get? key pairs.reverse).or (get? key fields) := by
  induction pairs generalizing fields with
  | nil => rfl
  | cons pair rest ih =>
    obtain ⟨name, value⟩ := pair
    rw [List.foldl_cons, ih, List.reverse_cons, get?_append, get?_insert, Option.or_assoc]
    congr 1
    show _ = (if name = key then some value else none).or (get? key fields)
    split
    · rfl
    · rfl

/-- The last value of a repeated key counts. -/
theorem get?_ofList (key : String) (pairs : List (String × Json)) :
    get? key (ofList pairs) = get? key pairs.reverse := by
  rw [ofList, get?_foldl_insert]
  exact Option.or_none

theorem mem_ofList {pairs : List (String × Json)} {field : String × Json}
    (member : field ∈ ofList pairs) : field ∈ pairs := by
  induction pairs using List.reverseRecOn with
  | nil => cases member
  | append_singleton pairs last ih =>
    rw [ofList, List.foldl_append] at member
    rcases mem_insert member with rfl | earlier
    · exact List.mem_append_right _ (List.mem_singleton_self _)
    · exact List.mem_append_left _ (ih earlier)

end Fields

end ResourceGraph
