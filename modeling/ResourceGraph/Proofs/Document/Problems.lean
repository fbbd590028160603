/-
**Problems, their paths and their wording.**

Every check of the schema pass is about one value and is given the path of the value. It finds
nothing, or one problem at that path, and the path decides at most how the problem is worded.

* `eq_of_entryPath_append`: the paths of two entries have nothing in common;
* `Problem.concerns`: the problem is about an entry; `concerns_unique`: about one only;
* `Problem.moved`: the same problem at another index;
* `Told`: what a check finds at a path; `Told.exists_field_iff`, `Told.eq_map_moved`.
-/

import ResourceGraph.Document.Schema
import ResourceGraph.Proofs.Document.Placeholder

namespace ResourceGraph

namespace Schema

/-! ### Paths of entries -/

theorem toList_entryPath (index : Nat) :
    (entryPath index).toList = "resources[".toList ++ Nat.toDigits 10 index ++ [']'] := by
  rw [entryPath, String.toList_append, String.toList_append, Nat.toString_eq_repr, Nat.toList_repr]
  rfl

theorem bracket_not_mem_toDigits (index : Nat) : ']' ∉ Nat.toDigits 10 index := by
  intro member
  exact absurd (Nat.isDigit_of_mem_toDigits (by decide) (by decide) member) (by decide)

/-- **The path of an entry is no beginning of anything at another entry.** -/
theorem eq_of_entryPath_append {first second : Nat} {rest more : List Char}
    (same : (entryPath first).toList ++ rest = (entryPath second).toList ++ more) :
    first = second := by
  simp only [toList_entryPath, List.append_assoc, List.append_cancel_left_eq,
    List.singleton_append] at same
  -- the digits are what stands before the bracket
  have digits := congrArg (List.takeWhile (· != ']')) same
  have before (index : Nat) (tail : List Char) :
      (Nat.toDigits 10 index ++ ']' :: tail).takeWhile (· != ']') = Nat.toDigits 10 index := by
    rw [List.takeWhile_append_of_pos fun c member => ?_]
    · simp
    · exact bne_iff_ne.mpr fun bracket => bracket_not_mem_toDigits index (bracket ▸ member)
  rw [before, before] at digits
  rw [← Nat.ofDigitChars_ten_toDigits (n := first), digits, Nat.ofDigitChars_ten_toDigits]

end Schema

namespace Problem

open Schema

/-- What follows the path of an entry in a text that starts with it. -/
def below? (index : Nat) (text : String) : Option (List Char) :=
  Text.afterPrefix? (entryPath index).toList text.toList

/-- Whether the problem is about an entry: its field is the entry or below it. -/
def concerns (index : Nat) (problem : Problem) : Bool :=
  (below? index problem.field).any fun below => below.isEmpty || below.head? == some '.'

/-- Whether the problem is about the document and not about an entry of its list. -/
def isOverall (problem : Problem) : Bool :=
  !"resources[".toList.isPrefixOf problem.field.toList

/-- A text about one entry as a text about another one. -/
def retold (source target : Nat) (text : String) : String :=
  (below? source text).elim text fun below => entryPath target ++ String.ofList below

/-- A problem of one entry as a problem of another one: the paths in it are those of the other. -/
def moved (source target : Nat) (problem : Problem) : Problem :=
  ⟨retold source target problem.field, retold source target problem.message⟩

theorem below?_eq_some_iff {index : Nat} {text : String} {below : List Char} :
    below? index text = some below ↔ text = entryPath index ++ String.ofList below := by
  rw [below?, Text.afterPrefix?_eq_some_iff, ← String.toList_inj, String.toList_append,
    String.toList_ofList]

theorem retold_entryPath (source target : Nat) (below : String) :
    retold source target (entryPath source ++ below) = entryPath target ++ below := by
  have found : below? source (entryPath source ++ below) = some below.toList := by
    rw [below?_eq_some_iff, String.ofList_toList]
  rw [retold, found, Option.elim_some, String.ofList_toList]

/-- A text that starts with another letter is not about an entry. -/
theorem retold_of_head {text : String} (head : text.toList.head? ≠ some 'r') (source target : Nat) :
    retold source target text = text := by
  have none : below? source text = none := by
    rw [Option.eq_none_iff_forall_ne_some]
    rintro below found
    rw [below?_eq_some_iff] at found
    refine head ?_
    rw [found, String.toList_append, toList_entryPath]
    rfl
  rw [retold, none, Option.elim_none]

/-- A problem with a wording of its own keeps it. -/
theorem moved_of_head (words : String) (head : words.toList.head? ≠ some 'r') (source target : Nat)
    (below : String) :
    moved source target ⟨entryPath source ++ below, words⟩ =
      ⟨entryPath target ++ below, words⟩ := by
  rw [moved, retold_entryPath, retold_of_head head]

theorem concerns_iff {index : Nat} {problem : Problem} :
    problem.concerns index = true ↔
      problem.field = entryPath index ∨
        ∃ below, problem.field = entryPath index ++ "." ++ below := by
  simp only [concerns, Option.any_eq_true, below?_eq_some_iff, Bool.or_eq_true, List.isEmpty_iff,
    beq_iff_eq]
  constructor
  · rintro ⟨below, here, rfl | dot⟩
    · exact Or.inl (here.trans String.append_empty)
    · obtain ⟨rest, rfl⟩ := List.head?_eq_some_iff.mp dot
      refine Or.inr ⟨String.ofList rest, here.trans ?_⟩
      rw [← String.toList_inj]
      simp
  · rintro (here | ⟨below, here⟩)
    · exact ⟨[], here.trans String.append_empty.symm, Or.inl rfl⟩
    · refine ⟨'.' :: below.toList, here.trans ?_, Or.inr rfl⟩
      rw [← String.toList_inj]
      simp

theorem concerns_of_field {index : Nat} {problem : Problem} {below : String}
    (dot : below.toList.head? = some '.') (here : problem.field = entryPath index ++ below) :
    problem.concerns index = true := by
  have found : below? index problem.field = some below.toList := by
    rw [below?_eq_some_iff, String.ofList_toList, here]
  rw [concerns, found, Option.any_some, dot, beq_self_eq_true, Bool.or_true]

/-- **A problem is about one entry only.** -/
theorem concerns_unique {first second : Nat} {problem : Problem}
    (one : problem.concerns first = true) (other : problem.concerns second = true) :
    first = second := by
  obtain ⟨below, here, _⟩ := (Option.any_eq_true _ _).mp one
  obtain ⟨more, there, _⟩ := (Option.any_eq_true _ _).mp other
  rw [below?, Text.afterPrefix?_eq_some_iff] at here there
  exact eq_of_entryPath_append (here.symm.trans there)

theorem isOverall_of_concerns {index : Nat} {problem : Problem}
    (about : problem.concerns index = true) : problem.isOverall = false := by
  obtain ⟨below, here, _⟩ := (Option.any_eq_true _ _).mp about
  rw [below?, Text.afterPrefix?_eq_some_iff, toList_entryPath, List.append_assoc,
    List.append_assoc] at here
  rw [isOverall, here, Bool.not_eq_false', List.isPrefixOf_iff_prefix]
  exact List.prefix_append _ _

end Problem

namespace Schema

/-! ### Checks of one value -/

/-- **A check finds nothing, or one problem at the path it is given**, whose wording is always the
same or starts with the path. -/
inductive Told (check : String → List Problem) : Prop where
  | nothing (clean : ∀ path, check path = [])
  | worded (words : String) (head : words.toList.head? ≠ some 'r')
      (one : ∀ path, check path = [⟨path, words⟩])
  | named (words : String) (one : ∀ path, check path = [⟨path, path ++ words⟩])

namespace Told

variable {check : String → List Problem}

theorem exists_field_iff (told : Told check) {path other : String} :
    (∃ problem ∈ check path, problem.field = other) ↔ check path ≠ [] ∧ path = other := by
  cases told with
  | nothing clean => simp only [clean, List.not_mem_nil, false_and, exists_false, ne_eq,
      not_true_eq_false]
  | worded words head one => simp only [one, List.mem_singleton, exists_eq_left, ne_eq,
      List.cons_ne_nil, not_false_eq_true, true_and]
  | named words one => simp only [one, List.mem_singleton, exists_eq_left, ne_eq,
      List.cons_ne_nil, not_false_eq_true, true_and]

theorem field_eq (told : Told check) {path : String} {problem : Problem}
    (found : problem ∈ check path) : problem.field = path :=
  (told.exists_field_iff.mp ⟨problem, found, rfl⟩).2.symm

theorem eq_map_moved (told : Told check) (source target : Nat) (place : String) :
    check (entryPath target ++ place) =
      (check (entryPath source ++ place)).map (Problem.moved source target) := by
  cases told with
  | nothing clean => rw [clean, clean, List.map_nil]
  | worded words head one => rw [one, one, List.map_singleton, Problem.moved_of_head words head]
  | named words one =>
    rw [one, one, List.map_singleton, Problem.moved, Problem.retold_entryPath, String.append_assoc,
      String.append_assoc, Problem.retold_entryPath]

end Told

theorem told_kindProblems (value : Json) : Told fun path => kindProblems path value := by
  cases value with
  | string name =>
    cases known : (Kind.ofName? name).isSome with
    | true => exact .nothing fun path => by rw [kindProblems, known, if_pos rfl]
    | false =>
      refine .worded (Kind.unsupportedMessage name) ?_ fun path => by
        rw [kindProblems, known, if_neg Bool.false_ne_true]
      unfold Kind.unsupportedMessage
      generalize Text.join ", " (Kind.all.map Kind.name) = names
      simp
  | _ => exact .worded _ (by decide) fun path => rfl

theorem told_textProblems (value : Json) : Told fun path => textProblems path value := by
  cases value with
  | string text =>
    cases blank : Text.isBlankText text with
    | true => exact .named " cannot be empty" fun path => by rw [textProblems, blank, if_pos rfl]
    | false => exact .nothing fun path => by rw [textProblems, blank, if_neg Bool.false_ne_true]
  | _ => exact .named " must be a string" fun path => rfl

theorem told_optionalTextProblems (value : Json) :
    Told fun path => optionalTextProblems path value := by
  cases fits : value.isString || value.isNull with
  | true => exact .nothing fun path => by rw [optionalTextProblems, fits, if_pos rfl]
  | false =>
    exact .named " must be a string" fun path => by
      rw [optionalTextProblems, fits, if_neg Bool.false_ne_true]

theorem told_propertiesProblems (value : Json) :
    Told fun path => propertiesProblems path value := by
  cases value with
  | object fields => exact .nothing fun path => rfl
  | _ => exact .worded _ (by decide) fun path => rfl

theorem told_tagsProblems (value : Json) : Told fun path => tagsProblems path value := by
  cases value with
  | null => exact .nothing fun path => rfl
  | array items =>
    cases texts : items.all Json.isString with
    | true => exact .nothing fun path => by rw [tagsProblems, texts, if_pos rfl]
    | false =>
      refine .worded "tags must be a list of strings" (by decide) fun path => by
        rw [tagsProblems, texts, if_neg Bool.false_ne_true]
  | _ => exact .worded _ (by decide) fun path => rfl

theorem told_referenceProblems (declared : List String) (value : Json) :
    Told fun path => referenceProblems path declared value := by
  cases value with
  | string reference =>
    cases identifier : isIdentifier reference with
    | false =>
      refine .worded ("id_reference '" ++ reference ++
        "' is invalid. Must start with a letter or " ++
        "underscore and contain only letters, digits and underscores.") ?_ fun path => by
          rw [referenceProblems, identifier, Bool.not_false, if_pos rfl]
      simp
    | true =>
      cases taken : declared.contains reference with
      | true =>
        refine .worded ("Duplicate id_reference: " ++ reference) ?_ fun path => by
          rw [referenceProblems, identifier, taken, Bool.not_true, if_neg Bool.false_ne_true,
            if_pos rfl]
        simp
      | false =>
        exact .nothing fun path => by
          rw [referenceProblems, identifier, taken, Bool.not_true, if_neg Bool.false_ne_true,
            if_neg Bool.false_ne_true]
  | _ => exact .worded _ (by decide) fun path => rfl

/-- What checks a value checks a field that has such a value. -/
theorem told_fieldProblems (key : String) {check : String → Json → List Problem}
    (told : ∀ value, Told fun path => check path value) (fields : Fields) :
    Told fun path => fieldProblems key (check path) fields := by
  unfold fieldProblems
  cases fields.get? key with
  | none => exact .nothing fun path => rfl
  | some value => exact told value

end Schema

end ResourceGraph
