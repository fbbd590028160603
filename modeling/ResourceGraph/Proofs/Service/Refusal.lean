/-
**The message of a refusal.**

A body may carry its message at three places, of which the inner one is the most specific. The
message of the failure is the most specific one, unless something that is no message stands at a
place before it: a value of another kind, or an empty text, hides every place that comes after. The
message is then the text as a whole, as if the body carried none. It is never empty.

* `Json.messagePlaces`: where a body may carry its message;
* `Json.mostSpecific?`: the first message at these places; `Json.Hidden`: something hides it;
* `decisive?`: what the first value at some places tells, which is what counts
  (`messageIn?_eq_decisive?`);
* `decisive?_of_hidden`, `decisive?_of_not_hidden`: when that is the first message;
* `ofResponse_message`: the message of every refusal.
-/

import ResourceGraph.Failure
import ResourceGraph.Json.Printer
import ResourceGraph.Proofs.Text.Pieces

namespace ResourceGraph

namespace Json

/-- The places of a body where its message may stand, the most specific one first. -/
def messagePlaces (body : Json) : List (Option Json) :=
  [(body.field? "error").bind (·.field? "message"), body.field? "message", body.field? "error"]

/-- The message that stands at a place: a text that is not empty. -/
def messageAt? (place : Option Json) : Option String :=
  (place.bind (·.text?)).filter fun text => !text.isEmpty

/-- The most specific message of a body. -/
def mostSpecific? (body : Json) : Option String :=
  body.messagePlaces.findSome? messageAt?

/-- Before the first message something stands that is none. -/
def Hidden (places : List (Option Json)) : Prop :=
  ∃ before place after message, places = before ++ place :: after ∧
    messageAt? place = some message ∧
    (∀ earlier ∈ before, messageAt? earlier = none) ∧ ∃ value, some value ∈ before

theorem messageAt?_ne_empty {place : Option Json} {message : String}
    (stands : messageAt? place = some message) : message ≠ "" := by
  have filled := (Option.filter_eq_some_iff.mp stands).2
  intro empty
  rw [empty] at filled
  cases filled

/-! ### The place that decides -/

/-- The message at the first place where anything stands. -/
def decisive? (places : List (Option Json)) : Option String :=
  messageAt? (places.findSome? id)

section Places

variable {before rest places : List (Option Json)}

theorem decisive?_append_of_absent (absent : ∀ earlier ∈ before, earlier = none) :
    decisive? (before ++ rest) = decisive? rest := by
  induction before with
  | nil => rfl
  | cons first before ih =>
    obtain ⟨rfl, others⟩ := List.forall_mem_cons.mp absent
    exact ih others

theorem decisive?_append_of_present {value : Json} (present : some value ∈ before) :
    decisive? (before ++ rest) = decisive? before := by
  induction before with
  | nil => cases present
  | cons first before ih =>
    cases first with
    | some decides => rfl
    | none =>
      rcases List.mem_cons.mp present with same | later
      · cases same
      · exact ih later

theorem decisive?_eq_none (bare : ∀ place ∈ places, messageAt? place = none) :
    decisive? places = none := by
  unfold decisive?
  cases found : places.findSome? id with
  | none => rfl
  | some value =>
    obtain ⟨place, member, stands⟩ := List.exists_of_findSome?_eq_some found
    obtain rfl : place = some value := stands
    exact bare _ member

/-- **What is hidden does not count.** -/
theorem decisive?_of_hidden (hidden : Hidden places) : decisive? places = none := by
  obtain ⟨before, place, after, message, rfl, stands, bare, value, present⟩ := hidden
  rw [decisive?_append_of_present present]
  exact decisive?_eq_none bare

/-- **A message that is not hidden counts, the first one.** -/
theorem decisive?_of_not_hidden (seen : ¬ Hidden places) :
    decisive? places = places.findSome? messageAt? := by
  cases found : places.findSome? messageAt? with
  | none => exact decisive?_eq_none (List.findSome?_eq_none_iff.mp found)
  | some message =>
    -- nothing at all stands before the first message, so it is also the first value
    obtain ⟨before, place, after, rfl, stands, bare⟩ := List.findSome?_eq_some_iff.mp found
    have absent : ∀ earlier ∈ before, earlier = none := by
      intro earlier member
      by_contra present
      obtain ⟨value, rfl⟩ := Option.ne_none_iff_exists'.mp present
      exact seen ⟨before, place, after, message, rfl, stands, bare, value, member⟩
    obtain ⟨stood, rfl⟩ : ∃ value, place = some value := by
      cases place with
      | none => cases stands
      | some value => exact ⟨value, rfl⟩
    rw [decisive?_append_of_absent absent]
    exact stands

end Places

end Json

namespace ServiceFailure

open Json

/-- An error that is no text tells as little as none. -/
theorem messageAt?_or_or (inner outer error : Option Json) :
    messageAt? ((inner.or outer).or (error.filter (·.isString))) =
      decisive? [inner, outer, error] := by
  cases inner with
  | some value => rfl
  | none =>
    cases outer with
    | some value => rfl
    | none =>
      cases error with
      | none => rfl
      | some value => cases value <;> rfl

/-- The first value at the places of a body decides on its message. -/
theorem messageIn?_eq_decisive? (body : Json) : messageIn? body = decisive? body.messagePlaces := by
  rw [messagePlaces, ← messageAt?_or_or]
  unfold messageIn? messageAt?
  show Option.bind _ _ = _
  cases ((((body.field? "error").bind (·.field? "message")).or (body.field? "message")).or
    ((body.field? "error").filter (·.isString))) with
  | none => rfl
  | some value =>
    show (value.text?.bind fun text => if text.isEmpty then none else some text) =
      value.text?.filter fun text => !text.isEmpty
    cases value.text? with
    | none => rfl
    | some text =>
      show (if text.isEmpty then none else some text) = if !text.isEmpty then some text else none
      cases text.isEmpty <;> rfl

/-! ### Every refusal -/

/-- The message where the body carries none: the trimmed text, or the status if the text is
blank. -/
def bareMessage (status : Nat) (text : String) : String :=
  if Text.isBlankText text then "HTTP " ++ toString status else Text.trim text

theorem bareMessage_ne_empty (status : Nat) (text : String) : bareMessage status text ≠ "" := by
  unfold bareMessage
  by_cases blank : Text.isBlankText text = true
  · rw [if_pos blank]
    exact Text.append_ne_empty (by decide) _
  · rw [if_neg blank]
    intro empty
    rw [← Text.isEmpty_trim, empty] at blank
    exact blank rfl

/-- **The message of a refusal.** Whatever the status and the text are, the message is not empty,
and it is the most specific one that the body carries unless that one is hidden. Where it is hidden,
where the body carries no message and where the text is no value, the message is the trimmed text,
or the status if the text is blank. -/
theorem ofResponse_message (status : Nat) (text : String) :
    ∃ message, ofResponse status text = .refused status message (Json.ofText? text) ∧ message ≠ "" ∧
      (Json.ofText? text = none → message = bareMessage status text) ∧
      ∀ body, Json.ofText? text = some body →
        (¬ Hidden body.messagePlaces →
          message = body.mostSpecific?.getD (bareMessage status text)) ∧
        (Hidden body.messagePlaces → message = bareMessage status text) := by
  refine ⟨((Json.ofText? text).bind messageIn?).getD (bareMessage status text), rfl, ?_, ?_, ?_⟩
  · cases told : (Json.ofText? text).bind messageIn? with
    | none => exact bareMessage_ne_empty status text
    | some message =>
      obtain ⟨body, _, found⟩ := Option.bind_eq_some_iff.mp told
      rw [messageIn?_eq_decisive?] at found
      exact messageAt?_ne_empty found
  · intro unread
    rw [unread]
    rfl
  · intro body read
    rw [read, Option.bind_some, messageIn?_eq_decisive?]
    refine ⟨fun seen => ?_, fun hidden => ?_⟩
    · rw [decisive?_of_not_hidden seen]
      rfl
    · rw [decisive?_of_hidden hidden]
      rfl

/-- The body of a refusal whose error has an empty message. -/
def emptied : Json :=
  .object [("error", .object [("message", .string "")]), ("message", .string "name is required")]

/-- An empty message inside hides the one outside. -/
theorem ofResponse_message_emptied :
    emptied.mostSpecific? = some "name is required" ∧
      ofResponse 400 emptied.compact = .refused 400 emptied.compact (some emptied) := by
  have read : Json.ofText? emptied.compact = some emptied := by decide +kernel
  have hidden : Hidden emptied.messagePlaces :=
    ⟨[some (.string "")], _, _, "name is required", rfl, rfl, by decide +kernel, _,
      List.mem_singleton.mpr rfl⟩
  obtain ⟨message, refused, _, _, told⟩ := ofResponse_message 400 emptied.compact
  have bare : message = bareMessage 400 emptied.compact := (told emptied read).2 hidden
  have whole : bareMessage 400 emptied.compact = emptied.compact := by decide +kernel
  refine ⟨by decide +kernel, ?_⟩
  rw [refused, bare, whole, read]

end ServiceFailure

end ResourceGraph
