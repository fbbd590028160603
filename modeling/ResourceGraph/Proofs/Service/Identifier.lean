/-
**Identifiers are never empty.**

Every identifier that is read from a reply has at least one character, whichever way it is read:
from the entries of a query, from the list of what was created, under a key of its own, at the end
of an address, or from the report of a duplicate.

* `idUnder?_ne_empty`, `existingId?_ne_empty`: the two ways to read an identifier from a value;
* `createOutcome_isNamed`, `ofFailure_isNamed`: the identifiers in what a create call did.
-/

import ResourceGraph.Proofs.Json.Induction
import ResourceGraph.Service.Resource

namespace ResourceGraph

/-! ### Identifiers in entries -/

theorem Binary64.positional_ne_nil (digits : List Char) (exponent : Int) :
    Binary64.positional digits exponent ≠ [] := by
  cases exponent <;> simp [Binary64.positional]

theorem Binary64.scientific_ne_nil (digits : List Char) (exponent : Int) :
    Binary64.scientific digits exponent ≠ [] := by
  unfold Binary64.scientific
  split <;> simp

theorem Binary64.render_ne_empty (layout : Binary64.Layout) (x : Binary64) :
    x.render layout ≠ "" := by
  unfold Binary64.render
  simp only [ne_eq, String.ofList_eq_empty_iff, List.append_eq_nil_iff, not_and]
  intro _
  split
  · simp
  · split
    · exact Binary64.positional_ne_nil _ _
    · exact Binary64.scientific_ne_nil _ _

theorem Number.text_ne_empty (number : Number) : number.text ≠ "" := by
  cases number with
  | integer value =>
    cases value with
    | ofNat value => exact Nat.repr_ne_empty
    | negSucc value =>
      show "-" ++ _ ≠ ""
      simp
  | double value => exact Binary64.render_ne_empty _ _

/-- **An identifier under a key is not empty.** -/
theorem idUnder?_ne_empty {key : String} {value : Json} {id : String}
    (found : idUnder? key value = some id) : id ≠ "" := by
  unfold idUnder? at found
  split at found
  · split at found
    · cases found
    · rename_i filled
      cases found
      exact fun empty => filled (String.isEmpty_iff.mpr empty)
  · cases found
    exact Number.text_ne_empty _
  · cases found

theorem mem_filterMap_idOf?_ne_empty {entries : List Json} {id : String}
    (member : id ∈ entries.filterMap idOf?) : id ≠ "" := by
  obtain ⟨entry, _, found⟩ := List.mem_filterMap.mp member
  exact idUnder?_ne_empty found

/-! ### Identifiers in reports of a duplicate -/

theorem existingIdInItems?_eq_findSome? (items : List Json) :
    existingIdInItems? items = items.findSome? existingId? := by
  induction items with
  | nil => rfl
  | cons item rest ih =>
    rw [existingIdInItems?, ih, List.findSome?_cons]
    cases existingId? item <;> rfl

theorem existingIdInFields?_eq_findSome? (fields : Fields) :
    existingIdInFields? fields = fields.findSome? fun field => existingId? field.2 := by
  induction fields with
  | nil => rfl
  | cons field rest ih =>
    rw [existingIdInFields?, ih, List.findSome?_cons]
    cases existingId? field.2 <;> rfl

theorem existingIdHere?_ne_empty {fields : Fields} {id : String}
    (found : existingIdHere? fields = some id) : id ≠ "" := by
  intro empty
  obtain ⟨_, filled⟩ := Option.filter_eq_some_iff.mp found
  simp [empty] at filled

/-- **The identifier of an existing resource is not empty**, at whatever depth it is given. -/
theorem existingId?_ne_empty (value : Json) :
    ∀ id, existingId? value = some id → id ≠ "" := by
  induction value using Json.induct with
  | null => exact fun id found => by cases found
  | bool value => exact fun id found => by cases found
  | number value => exact fun id found => by cases found
  | string text => exact fun id found => by cases found
  | array items ih =>
    intro id found
    rw [existingId?, existingIdInItems?_eq_findSome?] at found
    obtain ⟨item, member, inside⟩ := List.exists_of_findSome?_eq_some found
    exact ih item member id inside
  | object fields ih =>
    intro id found
    rw [existingId?, existingIdInFields?_eq_findSome?] at found
    rcases Option.or_eq_some_iff.mp found with here | ⟨_, later⟩
    · exact existingIdHere?_ne_empty here
    · obtain ⟨field, member, inside⟩ := List.exists_of_findSome?_eq_some later
      exact ih field member id inside

/-! ### Identifiers in what a create call did -/

namespace CreateOutcome

/-- The identifier of the outcome, if it has one, is not empty. -/
def IsNamed : CreateOutcome → Prop
  | created id => id ≠ ""
  | duplicateFound id => id ≠ ""
  | duplicateUnresolved => True
  | failed _ => True

theorem duplicate_isNamed (body : Json) : (duplicate body).IsNamed := by
  unfold duplicate
  cases found : existingId? body with
  | none => exact trivial
  | some id => exact existingId?_ne_empty body id found

theorem ofBatch_isNamed (created failed : String) (reply : Json) :
    (ofBatch created failed reply).IsNamed := by
  unfold ofBatch
  split
  · rename_i id first
    exact mem_filterMap_idOf?_ne_empty (List.mem_of_head? first)
  · dsimp only
    split
    · exact duplicate_isNamed reply
    · split <;> exact trivial

theorem ofSingle_isNamed (key : String) (reply : Json) : (ofSingle key reply).IsNamed := by
  unfold ofSingle
  cases found : idUnder? key reply with
  | none => exact trivial
  | some id => exact idUnder?_ne_empty found

theorem ofUpload_isNamed (reply : Json) : (ofUpload reply).IsNamed := by
  unfold ofUpload
  split
  · rename_i id found
    intro empty
    obtain ⟨_, filled⟩ := Option.filter_eq_some_iff.mp found
    simp [empty] at filled
  · exact ofSingle_isNamed "id" reply

theorem ofFailure_isNamed {failure : Failure} {outcome : CreateOutcome}
    (handled : ofFailure failure = .ok outcome) : outcome.IsNamed := by
  unfold ofFailure at handled
  split at handled
  · rename_i failed
    split at handled
    · cases handled
      cases failed.body? with
      | none => exact trivial
      | some body => exact duplicate_isNamed body
    · cases handled
  · cases handled

end CreateOutcome

/-- **The outcome of a reply names no empty identifier**, for whatever kind of reply. -/
theorem Scope.createOutcome_isNamed (endpoint : Endpoint) (reply : Json) :
    (Scope.createOutcome endpoint reply).IsNamed := by
  unfold Scope.createOutcome
  split
  · exact CreateOutcome.ofSingle_isNamed _ reply
  · exact CreateOutcome.ofBatch_isNamed _ _ reply
  · exact CreateOutcome.ofUpload_isNamed reply

end ResourceGraph
