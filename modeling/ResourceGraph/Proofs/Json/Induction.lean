/-
**Induction on values, and the texts in them.**

A value holds other values in lists and in the fields of mappings. `Json.induct` gives, for a list
or a mapping, the hypothesis for every value in it.

* `Json.Holds text value`: some string of the value, at any depth, is the text. Keys do not count;
* `holds_array_iff`, `holds_object_iff`: the strings of a list and of a mapping are those of what
  they hold.
-/

import ResourceGraph.Json.Basic

namespace ResourceGraph.Json

/-- Induction on values: what holds of every value in a list or mapping holds of it. -/
@[elab_as_elim]
theorem induct {motive : Json → Prop} (null : motive .null) (bool : ∀ value, motive (.bool value))
    (number : ∀ value, motive (.number value)) (string : ∀ text, motive (.string text))
    (array : ∀ items, (∀ item ∈ items, motive item) → motive (.array items))
    (object : ∀ fields : Fields, (∀ field ∈ fields, motive field.2) → motive (.object fields))
    (value : Json) : motive value := by
  refine @Json.rec motive (fun items => ∀ item ∈ items, motive item)
    (fun fields => ∀ field ∈ fields, motive field.2) (fun field => motive field.2)
    null bool number string array object ?_ ?_ ?_ ?_ (fun _ _ holds => holds) value
  · exact List.forall_mem_nil _
  · exact fun item rest head tail => List.forall_mem_cons.mpr ⟨head, tail⟩
  · exact List.forall_mem_nil _
  · exact fun field rest head tail => List.forall_mem_cons.mpr ⟨head, tail⟩

/-- Some string of the value, at any depth, is the text. -/
inductive Holds (text : String) : Json → Prop where
  | here : Holds text (.string text)
  | item {item : Json} {items : List Json} (member : item ∈ items) (inside : Holds text item) :
      Holds text (.array items)
  | field {field : String × Json} {fields : Fields} (member : field ∈ fields)
      (inside : Holds text field.2) : Holds text (.object fields)

theorem holds_string_iff {text other : String} : Holds text (.string other) ↔ other = text := by
  constructor
  · intro holds
    cases holds
    rfl
  · rintro rfl
    exact .here

theorem holds_array_iff {text : String} {items : List Json} :
    Holds text (.array items) ↔ ∃ item ∈ items, Holds text item := by
  constructor
  · intro holds
    cases holds with
    | item member inside => exact ⟨_, member, inside⟩
  · rintro ⟨item, member, inside⟩
    exact .item member inside

theorem holds_object_iff {text : String} {fields : Fields} :
    Holds text (.object fields) ↔ ∃ field ∈ fields, Holds text field.2 := by
  constructor
  · intro holds
    cases holds with
    | field member inside => exact ⟨_, member, inside⟩
  · rintro ⟨field, member, inside⟩
    exact .field member inside

end ResourceGraph.Json
