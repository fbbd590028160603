/-
**Texts cut into pieces, and trimmed.**

A text is cut at every separator, and a list of texts is joined with one; texts are looked for in
one another, and trimmed at both ends.

* `not_mem_of_mem_splitOn`, `mem_splitOn_intercalate`: cutting what was joined gives back a part
  exactly if the separator does not occur in it; `join_eq_empty_iff`: when nothing comes of joining;
* `occursIn_iff`: searching finds the texts inside a text; `contains_join`: the joined parts are
  such texts;
* `Unpadded`, `trim_eq_self_iff`: the texts that trimming leaves as they are; `unpadded_trim`: what
  it leaves is one; `isEmpty_trim`: of a blank text it leaves nothing;
* `lastPiece?`: the last piece that is not empty; `lastPiece?_eq`: how it is found from the end.
-/

import Mathlib.Data.List.DropRight
import ResourceGraph.Text.Blank
import ResourceGraph.Text.Search

namespace ResourceGraph.Text

/-! ### Cutting and joining -/

section Cut

variable {α : Type} [BEq α] [LawfulBEq α] {separator : α}

/-- No piece contains the separator. -/
theorem not_mem_of_mem_splitOn {items piece : List α} (member : piece ∈ items.splitOn separator) :
    separator ∉ piece := by
  induction items generalizing piece with
  | nil =>
    obtain rfl := List.mem_singleton.mp member
    exact List.not_mem_nil
  | cons item rest ih =>
    rw [List.splitOn_cons_eq_if_modifyHead] at member
    by_cases cut : item = separator
    · rw [if_pos (beq_iff_eq.mpr cut)] at member
      rcases List.mem_cons.mp member with rfl | later
      · exact List.not_mem_nil
      · exact ih later
    · rw [if_neg fun same => cut (beq_iff_eq.mp same)] at member
      obtain ⟨first, others, pieces⟩ :=
        List.exists_cons_of_ne_nil (List.splitOn_ne_nil separator rest)
      rw [pieces, List.modifyHead_cons] at member
      rcases List.mem_cons.mp member with rfl | later
      · have inFirst : first ∈ rest.splitOn separator := pieces ▸ List.mem_cons_self
        exact List.not_mem_cons_of_ne_of_not_mem (Ne.symm cut) (ih inFirst)
      · exact ih (pieces ▸ List.mem_cons_of_mem first later)

/-- A part without the separator is a piece of the joined parts, whatever the other parts are. -/
theorem mem_splitOn_intercalate {part : List α} {parts : List (List α)} (member : part ∈ parts)
    (whole : separator ∉ part) : part ∈ ([separator].intercalate parts).splitOn separator := by
  induction parts with
  | nil => cases member
  | cons first rest ih =>
    cases rest with
    | nil =>
      obtain rfl := List.mem_singleton.mp member
      rw [List.intercalate_singleton, List.splitOn_eq_singleton whole]
      exact List.mem_singleton.mpr rfl
    | cons second rest =>
      rw [List.intercalate_cons_cons, List.append_assoc, List.singleton_append,
        List.splitOn_append_cons_self, List.mem_append]
      rcases List.mem_cons.mp member with rfl | later
      · left
        rw [List.splitOn_eq_singleton whole]
        exact List.mem_singleton.mpr rfl
      · exact Or.inr (ih later)

end Cut

/-- Joined texts come to nothing only if there is none, or one that is empty. -/
theorem join_eq_empty_iff {separator : String} (apart : separator ≠ "") {parts : List String} :
    join separator parts = "" ↔ parts = [] ∨ parts = [""] := by
  unfold join
  match parts with
  | [] => simp
  | [part] => simp
  | first :: second :: rest => simp [String.append_eq_empty_iff, apart]

theorem append_ne_empty {first : String} (filled : first ≠ "") (second : String) :
    first ++ second ≠ "" :=
  fun empty => filled (String.append_eq_empty_iff.mp empty).1

/-! ### Texts inside texts -/

theorem occursIn_iff {needle chars : List Char} :
    occursIn needle chars = true ↔ needle <:+: chars := by
  induction chars with
  | nil => rw [occursIn, List.isEmpty_iff, List.infix_nil]
  | cons c rest ih =>
    rw [occursIn, Bool.or_eq_true, List.isPrefixOf_iff_prefix, ih, List.infix_cons_iff]

theorem infix_intercalate {α : Type} {separator part : List α} {parts : List (List α)}
    (member : part ∈ parts) : part <:+: separator.intercalate parts := by
  induction parts with
  | nil => cases member
  | cons first rest ih =>
    cases rest with
    | nil =>
      obtain rfl := List.mem_singleton.mp member
      refine ⟨[], [], ?_⟩
      rw [List.intercalate_singleton, List.nil_append, List.append_nil]
    | cons second rest =>
      rw [List.intercalate_cons_cons, List.append_assoc]
      rcases List.mem_cons.mp member with rfl | later
      · exact (List.prefix_append _ _).isInfix
      · exact (ih later).trans ((List.suffix_append _ _).trans (List.suffix_append _ _)).isInfix

theorem contains_join {separator part : String} {parts : List String} (member : part ∈ parts) :
    contains (join separator parts) part = true := by
  rw [contains, occursIn_iff, join, String.toList_intercalate]
  exact infix_intercalate (List.mem_map_of_mem member)

/-! ### Trimming -/

/-- Neither end is a blank character. -/
def Unpadded (chars : List Char) : Prop :=
  (∀ c ∈ chars.head?, isBlank c = false) ∧ ∀ c ∈ chars.getLast?, isBlank c = false

theorem trimRight_eq_rdropWhile (chars : List Char) : trimRight chars = chars.rdropWhile isBlank :=
  rfl

theorem trimLeft_eq_self_iff {chars : List Char} :
    trimLeft chars = chars ↔ ∀ c ∈ chars.head?, isBlank c = false := by
  cases chars with
  | nil => simp [trimLeft]
  | cons c rest =>
    rw [trimLeft, List.dropWhile_eq_self_iff]
    simp

theorem trimRight_eq_self_iff {chars : List Char} :
    trimRight chars = chars ↔ ∀ c ∈ chars.getLast?, isBlank c = false := by
  rw [← List.head?_reverse, ← trimLeft_eq_self_iff, trimRight, List.reverse_eq_iff]
  rfl

/-- **What trimming leaves has no blank character at either end.** -/
theorem unpadded_trim (chars : List Char) : Unpadded (trimRight (trimLeft chars)) := by
  refine ⟨?_, trimRight_eq_self_iff.mp (List.rdropWhile_idempotent _ _)⟩
  intro c first
  have left : ∀ c ∈ (trimLeft chars).head?, isBlank c = false :=
    trimLeft_eq_self_iff.mp (List.dropWhile_idempotent _ _)
  obtain ⟨dropped, whole⟩ := List.rdropWhile_prefix isBlank (trimLeft chars)
  refine left c ?_
  rw [← whole, List.head?_append, ← trimRight_eq_rdropWhile, Option.mem_def.mp first]
  rfl

theorem trim_eq_self_iff {text : String} : trim text = text ↔ Unpadded text.toList := by
  have chars : trim text = text ↔ trimRight (trimLeft text.toList) = text.toList := by
    rw [trim, ← String.toList_inj, String.toList_ofList]
  rw [chars]
  constructor
  · intro same
    rw [← same]
    exact unpadded_trim _
  · rintro ⟨left, right⟩
    rw [trimLeft_eq_self_iff.mpr left, trimRight_eq_self_iff.mpr right]

theorem isEmpty_trim {text : String} : (trim text).isEmpty = isBlankText text := by
  rw [Bool.eq_iff_iff, String.isEmpty_iff, trim, ← String.ofList_nil, String.ofList_inj,
    trimRight, List.reverse_eq_nil_iff, List.dropWhile_eq_nil_iff, isBlankText,
    List.all_eq_true, trimLeft]
  constructor
  · intro rest c member
    rw [← List.takeWhile_append_dropWhile (p := isBlank) (l := text.toList)] at member
    rcases List.mem_append.mp member with front | back
    · exact List.mem_takeWhile_imp front
    · exact rest c (List.mem_reverse.mpr back)
  · intro blank c member
    exact blank c ((List.dropWhile_suffix _).subset (List.mem_reverse.mp member))

/-! ### The last piece -/

/-- The last piece of the text between the separators that is not empty. -/
def lastPiece? (separator : Char) (text : String) : Option String :=
  ((pieces separator text).filter fun piece => !piece.isEmpty).getLast?

theorem lastPiece?_ne_empty {separator : Char} {text piece : String}
    (found : lastPiece? separator text = some piece) : piece ≠ "" := by
  have filled := (List.mem_filter.mp (List.mem_of_getLast? found)).2
  intro empty
  simp [empty] at filled

/-- What stands after the last separator once the separators at the end are left aside. -/
def lastPart (separator : Char) (chars : List Char) : List Char :=
  (chars.rdropWhile (· == separator)).rtakeWhile (· != separator)

/-- The last part stands before empty pieces, and where it is empty itself all pieces are. -/
theorem splitOn_last (separator : Char) (chars : List Char) :
    ∃ before after, chars.splitOn separator = before ++ lastPart separator chars :: after ∧
      (∀ later ∈ after, later = []) ∧
      (lastPart separator chars = [] → ∀ earlier ∈ before, earlier = []) := by
  induction chars using List.reverseRecOn with
  | nil => exact ⟨[], [], rfl, List.forall_mem_nil _, fun _ => List.forall_mem_nil _⟩
  | append_singleton chars c ih =>
    by_cases cut : c = separator
    · -- one more separator at the end is one more empty piece
      obtain ⟨before, after, pieces, trailing, blank⟩ := ih
      have same : lastPart separator (chars ++ [c]) = lastPart separator chars := by
        simp [lastPart, cut]
      refine ⟨before, after ++ [[]], ?_, ?_, same ▸ blank⟩
      · rw [same, cut, List.splitOn_append_cons_self, pieces, List.splitOn_nil, List.append_assoc,
          List.cons_append]
      · intro later member
        rcases List.mem_append.mp member with among | last
        · exact trailing later among
        · exact List.mem_singleton.mp last
    · -- otherwise the characters divide at the separator before the last part, if there is one
      have part : lastPart separator (chars ++ [c]) = chars.rtakeWhile (· != separator) ++ [c] := by
        simp [lastPart, cut]
      have filled : lastPart separator (chars ++ [c]) ≠ [] := by simp [part]
      have whole : separator ∉ lastPart separator (chars ++ [c]) := fun inside => by
        simpa using List.mem_rtakeWhile_imp inside
      have divided : chars.rdropWhile (· != separator) ++ lastPart separator (chars ++ [c]) =
          chars ++ [c] := by
        rw [part, ← List.append_assoc, List.rdropWhile_append_rtakeWhile]
      rcases List.eq_nil_or_concat' (chars.rdropWhile (· != separator)) with
        none | ⟨first, last, some⟩
      · rw [none, List.nil_append] at divided
        refine ⟨[], [], ?_, List.forall_mem_nil _, fun empty => absurd empty filled⟩
        rw [divided] at whole ⊢
        rw [List.splitOn_eq_singleton whole, List.nil_append]
      · have stop : last = separator := by
          have stopped := List.rdropWhile_last_not (· != separator) chars (by simp [some])
          simpa [some] using stopped
        rw [some, stop, List.append_assoc, List.singleton_append] at divided
        refine ⟨first.splitOn separator, [], ?_, List.forall_mem_nil _,
          fun empty => absurd empty filled⟩
        rw [← divided, List.splitOn_append_cons_self, divided, List.splitOn_eq_singleton whole]

/-- **The last part, unless it is empty, is the last piece that is not.** -/
theorem lastPiece?_eq (separator : Char) (text : String) :
    lastPiece? separator text =
      (some (String.ofList (lastPart separator text.toList))).filter fun piece =>
        !piece.isEmpty := by
  obtain ⟨before, after, cut, trailing, blank⟩ := splitOn_last separator text.toList
  have cleared {parts : List (List Char)} (empty : ∀ part ∈ parts, part = []) :
      (parts.map String.ofList).filter (fun piece => !piece.isEmpty) = [] := by
    refine List.filter_eq_nil_iff.mpr fun piece member => ?_
    obtain ⟨part, among, rfl⟩ := List.mem_map.mp member
    simp [empty part among]
  rw [lastPiece?, pieces, cut, List.map_append, List.map_cons, List.filter_append, List.filter_cons,
    cleared trailing]
  by_cases empty : lastPart separator text.toList = []
  · simp [empty, cleared (blank empty), Option.filter]
  · simp [empty, Option.filter]

example : lastPiece? '/' "https://host/files/f-1//" = some "f-1" := by decide +kernel

end ResourceGraph.Text
