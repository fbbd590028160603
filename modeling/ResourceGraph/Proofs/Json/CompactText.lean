/-
**The text of a value determines it.**

A text without blanks is told apart from the left: the first character tells the shape of the value,
the reader finds the end of a string and of a number, and a list or a mapping ends at the first
closing character after one of its parts.

* `quoted_append_inj`: a string literal determines its text, and what follows it;
* `Told`: what is written of a thing determines it, and what follows it;
* `told_separated`: things that are told one by one are told as a list with commas between them;
* `told_compactChars`: values are told;
* `compact_injective`: so values of one text are equal;
* `printable_compactChars`: no control character stands in a text.
-/

import ResourceGraph.Json.Source
import ResourceGraph.Proofs.Json.Induction
import ResourceGraph.Proofs.Json.NumberText
import ResourceGraph.Proofs.Text.Bytes

namespace ResourceGraph.Json

/-! ### Strings -/

namespace Source

/-- How a character is written inside a string: by a letter, by its code, or as it is. -/
inductive Escapes (c : Char) : List Char → Prop where
  | letter {letter : Char} (decoded : shortEscape? letter = some c) (plain : letter ≠ 'u')
      (visible : 32 ≤ letter.toNat) : Escapes c ['\\', letter]
  | code (control : c.toNat < 32) :
      Escapes c ('\\' :: 'u' :: '0' :: '0' :: Text.hexByte (UInt8.ofNat c.toNat))
  | plain (quote : c ≠ '"') (backslash : c ≠ '\\') (control : ¬ c.toNat < 32) : Escapes c [c]

theorem escapes_escaped (c : Char) : Escapes c (escaped c) := by
  unfold escaped
  split
  · subst c
    exact .letter rfl (by decide) (by decide)
  rename_i quote
  split
  · subst c
    exact .letter rfl (by decide) (by decide)
  rename_i backslash
  split
  · subst c
    exact .letter rfl (by decide) (by decide)
  split
  · subst c
    exact .letter rfl (by decide) (by decide)
  split
  · subst c
    exact .letter rfl (by decide) (by decide)
  split
  · subst c
    exact .letter rfl (by decide) (by decide)
  split
  · subst c
    exact .letter rfl (by decide) (by decide)
  split
  case isTrue control => exact .code control
  case isFalse control => exact .plain quote backslash control

theorem hexNumber?_hexByte : ∀ code < 32,
    Text.hexNumber? ('0' :: '0' :: Text.hexByte (UInt8.ofNat code)) = some code := by
  decide +kernel

theorem takeString?_shortEscape {letter decoded : Char} (short : shortEscape? letter = some decoded)
    (plain : letter ≠ 'u') (fuel : Nat) (read : List (Option Char)) (rest : List Char) :
    takeString? (fuel + 1) read ('\\' :: letter :: rest) =
      takeString? fuel (some decoded :: read) rest := by
  have escape : takeEscape? (letter :: rest) = some (some decoded, rest) := by
    unfold takeEscape?
    split
    case h_1 same =>
      cases same
      exact absurd rfl plain
    case h_2 same =>
      cases same
      rw [short]
      rfl
    case h_3 same => cases same
  rw [takeString?, if_neg (by decide), if_pos rfl, escape]
  rfl

theorem takeString?_unitEscape {c : Char} (control : c.toNat < 32) (fuel : Nat)
    (read : List (Option Char)) (rest : List Char) :
    takeString? (fuel + 1) read
        ('\\' :: 'u' :: '0' :: '0' :: (Text.hexByte (UInt8.ofNat c.toNat) ++ rest)) =
      takeString? fuel (some c :: read) rest := by
  have unit : takeUnit? ('0' :: '0' :: (Text.hexByte (UInt8.ofNat c.toNat) ++ rest)) =
      some (c.toNat, rest) := by
    show (Text.hexNumber? ('0' :: '0' :: Text.hexByte (UInt8.ofNat c.toNat))).map (·, rest) = _
    rw [hexNumber?_hexByte c.toNat control]
    rfl
  have escape : takeEscape? ('u' :: '0' :: '0' :: (Text.hexByte (UInt8.ofNat c.toNat) ++ rest)) =
      some (some c, rest) := by
    rw [takeEscape?, unit]
    simp only [Option.bind_eq_bind, Option.bind_some]
    rw [if_neg (by omega), if_neg (by omega), Char.ofNat_toNat]
    rfl
  rw [takeString?, if_neg (by decide), if_pos rfl, escape]
  rfl

/-- **A written character is read back.** -/
theorem takeString?_escaped (fuel : Nat) (read : List (Option Char)) (c : Char) (rest : List Char) :
    takeString? (fuel + 1) read (escaped c ++ rest) = takeString? fuel (some c :: read) rest := by
  have escapes := escapes_escaped c
  generalize escaped c = chars at escapes
  cases escapes with
  | letter decoded plain _ => exact takeString?_shortEscape decoded plain fuel read rest
  | code control => exact takeString?_unitEscape control fuel read rest
  | plain quote backslash control =>
    rw [List.singleton_append, takeString?, if_neg quote, if_neg backslash, if_neg control]

theorem mapM_id_map_some {α : Type} (items : List α) : (items.map some).mapM id = some items := by
  induction items with
  | nil => rfl
  | cons item rest ih =>
    rw [List.map_cons, List.mapM_cons, ih]
    rfl

theorem takeString?_flatMap_escaped {fuel : Nat} {text : List Char} (enough : text.length < fuel)
    (read rest : List Char) :
    takeString? fuel (read.map some) (text.flatMap escaped ++ '"' :: rest) =
      some (some (String.ofList (read.reverse ++ text)), rest) := by
  induction text generalizing fuel read with
  | nil =>
    obtain ⟨fuel, rfl⟩ := Nat.exists_eq_add_of_lt enough
    show takeString? (0 + fuel + 1) (read.map some) ('"' :: rest) = _
    rw [takeString?, if_pos rfl, ← List.map_reverse, mapM_id_map_some, List.append_nil]
    rfl
  | cons c text ih =>
    obtain ⟨fuel, rfl⟩ : ∃ less, fuel = less + 1 := ⟨fuel - 1, by omega⟩
    rw [List.flatMap_cons, List.append_assoc, takeString?_escaped]
    have tail := ih (Nat.lt_of_succ_lt_succ enough) (c :: read)
    rw [List.map_cons, List.reverse_cons, List.append_assoc] at tail
    exact tail

end Source

/-- **A string literal determines its text**, and what follows it. -/
theorem quoted_append_inj {first second : String} {rest rest' : List Char}
    (same : quoted first ++ rest = quoted second ++ rest') : first = second ∧ rest = rest' := by
  simp only [quoted, List.cons_append, List.append_assoc, List.nil_append, List.cons.injEq,
    true_and] at same
  have enough (text : List Char) (within : text = first.toList ∨ text = second.toList) :
      text.length < first.toList.length + second.toList.length + 1 := by
    rcases within with rfl | rfl <;> omega
  have read := Source.takeString?_flatMap_escaped (enough _ (Or.inl rfl)) [] rest
  rw [same, Source.takeString?_flatMap_escaped (enough _ (Or.inr rfl)) [] rest'] at read
  simp only [List.reverse_nil, List.nil_append, String.ofList_toList, Option.some.injEq,
    Prod.mk.injEq] at read
  exact ⟨read.1.symm, read.2.symm⟩

/-! ### First characters -/

/-- The first characters of the numbers made one, all others kept. -/
def markOf (c : Char) : Char :=
  if c.isDigit ∨ c = '-' then '0' else c

/-- The shape of a value, by its first character. -/
def mark : Json → Char
  | .null => 'n'
  | .bool true => 't'
  | .bool false => 'f'
  | .number _ => '0'
  | .string _ => '"'
  | .array _ => '['
  | .object _ => '\x7b'

theorem exists_first (value : Json) :
    ∃ c rest, value.compactChars = c :: rest ∧ markOf c = value.mark := by
  cases value with
  | null => exact ⟨'n', _, rfl, by decide⟩
  | bool value => cases value <;> exact ⟨_, _, rfl, by decide⟩
  | number value =>
    obtain ⟨literal, formed, written, -⟩ := value.exists_literal
    obtain ⟨first, rest, whole⟩ := List.exists_cons_of_ne_nil formed.some_whole
    show ∃ c rest, value.text.toList = c :: rest ∧ markOf c = '0'
    rw [written, Literal.chars]
    cases literal.negative with
    | true => exact ⟨'-', _, rfl, by decide⟩
    | false =>
      have digit : first.isDigit = true := formed.whole first (whole ▸ List.mem_cons_self)
      rw [whole]
      exact ⟨first, _, rfl, if_pos (Or.inl digit)⟩
  | string text => exact ⟨'"', _, rfl, (by decide : markOf '"' = '"')⟩
  | array items => exact ⟨'[', _, by rw [compactChars], (by decide : markOf '[' = '[')⟩
  | object fields =>
    exact ⟨'\x7b', _, by rw [compactChars], (by decide : markOf '\x7b' = '\x7b')⟩

/-- Two values have one shape. -/
inductive SameShape : Json → Json → Prop where
  | null : SameShape .null .null
  | bool (value : Bool) : SameShape (.bool value) (.bool value)
  | number (first second : Number) : SameShape (.number first) (.number second)
  | string (first second : String) : SameShape (.string first) (.string second)
  | array (first second : List Json) : SameShape (.array first) (.array second)
  | object (first second : Fields) : SameShape (.object first) (.object second)

/-- **The first character tells the shape.** -/
theorem sameShape_of_append_eq {first second : Json} {rest rest' : List Char}
    (same : first.compactChars ++ rest = second.compactChars ++ rest') :
    SameShape first second := by
  obtain ⟨c, tail, written, mark⟩ := first.exists_first
  obtain ⟨c', tail', written', mark'⟩ := second.exists_first
  rw [written, written', List.cons_append, List.cons_append, List.cons.injEq] at same
  have marks : first.mark = second.mark := by rw [← mark, ← mark', same.1]
  clear written written' mark mark' same
  rcases first with _ | ⟨_ | _⟩ | _ | _ | _ | _ <;> rcases second with _ | ⟨_ | _⟩ | _ | _ | _ | _
  all_goals first
    | constructor
    | simp [Json.mark] at marks

/-- No value begins as a list ends. -/
theorem exists_first_ne (value : Json) : ∃ c rest, value.compactChars = c :: rest ∧ c ≠ ']' := by
  obtain ⟨c, rest, written, shape⟩ := value.exists_first
  refine ⟨c, rest, written, ?_⟩
  rintro rfl
  rw [(by decide : markOf ']' = ']')] at shape
  cases value
  case bool value => cases value <;> simp [mark] at shape
  all_goals simp [mark] at shape

/-! ### What is told -/

/-- The characters end, or go on after a part of a list or mapping. -/
def Ended (rest : List Char) : Prop :=
  ∀ c ∈ rest.head?, c = ',' ∨ c = ']' ∨ c = '\x7d'

theorem ended_nil : Ended [] := fun _ none => nomatch none

theorem ended_cons {c : Char} (closes : c = ',' ∨ c = ']' ∨ c = '\x7d') (rest : List Char) :
    Ended (c :: rest) := by
  rintro _ ⟨⟩
  exact closes

theorem Ended.ends {rest : List Char} (ended : Ended rest) : Literal.Ends rest := by
  intro c first
  rcases ended c first with rfl | rfl | rfl <;> decide

variable {α : Type} {text : α → List Char}

/-- What is written of a thing determines it, and what follows it. -/
def Told (text : α → List Char) (thing : α) : Prop :=
  ∀ other rest rest', Ended rest → Ended rest' → text thing ++ rest = text other ++ rest' →
    thing = other ∧ rest = rest'

/-- What is written of things with commas between them. -/
def separated (text : α → List Char) : List α → List Char
  | [] => []
  | first :: rest => text first ++ rest.flatMap fun thing => ',' :: text thing

/-- What follows a thing of a list up to the closing character. -/
theorem ended_tail {close : Char} (closes : close = ']' ∨ close = '\x7d') (things : List α)
    (rest : List Char) :
    Ended (things.flatMap (fun thing => ',' :: text thing) ++ close :: rest) := by
  cases things with
  | nil => exact ended_cons (Or.inr closes) rest
  | cons thing things => exact ended_cons (Or.inl rfl) _

theorem told_tail {close : Char} (closes : close = ']' ∨ close = '\x7d') {things : List α}
    (told : ∀ thing ∈ things, Told text thing) {others : List α} {rest rest' : List Char}
    (same : things.flatMap (fun thing => ',' :: text thing) ++ close :: rest =
      others.flatMap (fun thing => ',' :: text thing) ++ close :: rest') :
    things = others ∧ rest = rest' := by
  have comma : close ≠ ',' := by rcases closes with rfl | rfl <;> decide
  induction things generalizing others with
  | nil =>
    cases others with
    | nil => exact ⟨rfl, List.tail_eq_of_cons_eq same⟩
    | cons other others => exact absurd (List.head_eq_of_cons_eq same) comma
  | cons thing things ih =>
    cases others with
    | nil => exact absurd (List.head_eq_of_cons_eq same).symm comma
    | cons other others =>
      obtain ⟨here, later⟩ := List.forall_mem_cons.mp told
      simp only [List.flatMap_cons, List.cons_append, List.append_assoc, List.cons.injEq,
        true_and] at same
      obtain ⟨rfl, tails⟩ := here _ _ _ (ended_tail closes _ _) (ended_tail closes _ _) same
      obtain ⟨rfl, rests⟩ := ih later tails
      exact ⟨rfl, rests⟩

/-- **Things that are told one by one are told as a list**, if none begins as the list ends. -/
theorem told_separated {close : Char} (closes : close = ']' ∨ close = '\x7d')
    (begins : ∀ thing, ∃ c rest, text thing = c :: rest ∧ c ≠ close) {things : List α}
    (told : ∀ thing ∈ things, Told text thing) {others : List α} {rest rest' : List Char}
    (same : separated text things ++ close :: rest = separated text others ++ close :: rest') :
    things = others ∧ rest = rest' := by
  cases things with
  | nil =>
    cases others with
    | nil => exact ⟨rfl, List.tail_eq_of_cons_eq same⟩
    | cons other others =>
      obtain ⟨c, tail, written, apart⟩ := begins other
      rw [separated, separated, written] at same
      exact absurd (List.head_eq_of_cons_eq same).symm apart
  | cons thing things =>
    cases others with
    | nil =>
      obtain ⟨c, tail, written, apart⟩ := begins thing
      rw [separated, separated, written] at same
      exact absurd (List.head_eq_of_cons_eq same) apart
    | cons other others =>
      obtain ⟨here, later⟩ := List.forall_mem_cons.mp told
      rw [separated, separated, List.append_assoc, List.append_assoc] at same
      obtain ⟨rfl, tails⟩ := here _ _ _ (ended_tail closes _ _) (ended_tail closes _ _) same
      obtain ⟨rfl, rests⟩ := told_tail closes later tails
      exact ⟨rfl, rests⟩

/-! ### Values -/

/-- The characters of a field. -/
def fieldChars (field : String × Json) : List Char :=
  quoted field.1 ++ ':' :: compactChars field.2

theorem compactItems_eq (items : List Json) :
    compactItems items = separated compactChars items := by
  induction items with
  | nil => rfl
  | cons item rest ih =>
    cases rest with
    | nil => simp [compactItems, separated]
    | cons next rest =>
      rw [compactItems, ih]
      · simp [separated]
      · exact List.cons_ne_nil _ _

theorem compactFields_eq (fields : Fields) :
    compactFields fields = separated fieldChars fields := by
  induction fields with
  | nil => rfl
  | cons field rest ih =>
    obtain ⟨key, value⟩ := field
    cases rest with
    | nil => simp [compactFields, separated, fieldChars]
    | cons next rest =>
      rw [compactFields, ih]
      · simp [separated, fieldChars]
      · exact List.cons_ne_nil _ _

theorem told_fieldChars {field : String × Json} (told : Told compactChars field.2) :
    Told fieldChars field := by
  intro other rest rest' ended ended' same
  unfold fieldChars at same
  rw [List.append_assoc, List.append_assoc] at same
  obtain ⟨keys, values⟩ := quoted_append_inj same
  obtain ⟨values, rests⟩ := told _ _ _ ended ended' (List.tail_eq_of_cons_eq values)
  exact ⟨Prod.ext keys values, rests⟩

/-- **Values are told.** -/
theorem told_compactChars (value : Json) : Told compactChars value := by
  induction value using induct with
  | null =>
    intro other rest rest' _ _ same
    cases sameShape_of_append_eq same with
    | null => exact ⟨rfl, List.append_cancel_left same⟩
  | bool value =>
    intro other rest rest' _ _ same
    cases sameShape_of_append_eq same with
    | bool => exact ⟨rfl, List.append_cancel_left same⟩
  | number value =>
    intro other rest rest' ended ended' same
    cases sameShape_of_append_eq same with
    | number _ other =>
      obtain ⟨rfl, rests⟩ := Number.text_append_inj ended.ends ended'.ends same
      exact ⟨rfl, rests⟩
  | string text =>
    intro other rest rest' _ _ same
    cases sameShape_of_append_eq same with
    | string _ other =>
      obtain ⟨rfl, rests⟩ := quoted_append_inj same
      exact ⟨rfl, rests⟩
  | array items ih =>
    intro other rest rest' _ _ same
    cases sameShape_of_append_eq same with
    | array _ others =>
      simp only [compactChars, compactItems_eq, List.cons_append, List.append_assoc,
        List.nil_append, List.cons.injEq, true_and] at same
      obtain ⟨rfl, rests⟩ := told_separated (Or.inl rfl) exists_first_ne ih same
      exact ⟨rfl, rests⟩
  | object fields ih =>
    intro other rest rest' _ _ same
    cases sameShape_of_append_eq same with
    | object _ others =>
      simp only [compactChars, compactFields_eq, List.cons_append, List.append_assoc,
        List.nil_append, List.cons.injEq, true_and] at same
      have told : ∀ field ∈ fields, Told fieldChars field :=
        fun field member => told_fieldChars (ih field member)
      obtain ⟨rfl, rests⟩ :=
        told_separated (Or.inr rfl) (fun field => ⟨'"', _, rfl, by decide⟩) told same
      exact ⟨rfl, rests⟩

/-- **Values of one text are equal.** -/
theorem compact_injective : Function.Injective compact := by
  intro first second same
  have chars : first.compactChars ++ [] = second.compactChars ++ [] := by
    rw [List.append_nil, List.append_nil]
    exact String.ofList_injective same
  exact (told_compactChars first second [] [] ended_nil ended_nil chars).1

/-! ### Control characters -/

open Text

theorem printable_literal {literal : Literal} (formed : literal.WellFormed) :
    Printable literal.chars := by
  have sign : Printable (if literal.negative then ['-'] else []) := by
    cases literal.negative <;> decide
  have fraction : Printable (Literal.fractionChars literal.fraction) := by
    have digits := printable_of_isDigit formed.fraction
    cases written : literal.fraction with
    | nil => exact List.forall_mem_nil _
    | cons digit rest =>
      rw [written] at digits
      exact printable_cons.mpr ⟨by decide, digits⟩
  have exponent : Printable (Literal.exponentChars literal.exponent) := by
    cases written : literal.exponent with
    | none => exact List.forall_mem_nil _
    | some part =>
      obtain ⟨downwards, digits⟩ := part
      have run := printable_of_isDigit (formed.exponent _ written).2
      refine printable_cons.mpr ⟨by decide, printable_cons.mpr ⟨?_, run⟩⟩
      cases downwards <;> decide
  exact printable_append.mpr ⟨sign, printable_append.mpr
    ⟨printable_of_isDigit formed.whole, printable_append.mpr ⟨fraction, exponent⟩⟩⟩

theorem printable_escaped (c : Char) : Printable (escaped c) := by
  have escapes := Source.escapes_escaped c
  generalize escaped c = chars at escapes
  cases escapes with
  | letter decoded plain visible =>
    exact printable_cons.mpr ⟨by decide, List.forall_mem_singleton.mpr visible⟩
  | code control =>
    exact printable_cons.mpr ⟨by decide, printable_cons.mpr ⟨by decide, printable_cons.mpr
      ⟨by decide, printable_cons.mpr ⟨by decide, printable_hexByte _⟩⟩⟩⟩
  | plain quote backslash control => exact List.forall_mem_singleton.mpr (not_lt.mp control)

theorem printable_quoted (text : String) : Printable (quoted text) := by
  refine printable_cons.mpr ⟨by decide, printable_append.mpr ⟨?_, by decide⟩⟩
  intro c member
  obtain ⟨written, -, inside⟩ := List.mem_flatMap.mp member
  exact printable_escaped written c inside

theorem printable_separated {things : List α} (each : ∀ thing ∈ things, Printable (text thing)) :
    Printable (separated text things) := by
  cases things with
  | nil => exact List.forall_mem_nil _
  | cons thing things =>
    obtain ⟨here, later⟩ := List.forall_mem_cons.mp each
    refine printable_append.mpr ⟨here, ?_⟩
    intro c member
    obtain ⟨next, listed, inside⟩ := List.mem_flatMap.mp member
    exact printable_cons.mpr ⟨by decide, later next listed⟩ c inside

/-- **No control character stands in the text of a value**: they are all escaped. -/
theorem printable_compactChars (value : Json) : Printable value.compactChars := by
  induction value using induct with
  | null => exact (by decide : Printable "null".toList)
  | bool value =>
    cases value with
    | false => exact (by decide : Printable "false".toList)
    | true => exact (by decide : Printable "true".toList)
  | number value =>
    obtain ⟨literal, formed, written, -⟩ := value.exists_literal
    show Printable value.text.toList
    rw [written]
    exact printable_literal formed
  | string text => exact printable_quoted text
  | array items ih =>
    rw [compactChars, compactItems_eq]
    exact printable_cons.mpr ⟨by decide, printable_append.mpr
      ⟨printable_separated ih, by decide⟩⟩
  | object fields ih =>
    rw [compactChars, compactFields_eq]
    refine printable_cons.mpr ⟨by decide, printable_append.mpr
      ⟨printable_separated fun field member => ?_, by decide⟩⟩
    exact printable_append.mpr ⟨printable_quoted field.1,
      printable_cons.mpr ⟨by decide, ih field member⟩⟩

end ResourceGraph.Json
