/-
**The text of a number.**

A number is written as one literal, which the reader takes back whatever follows that cannot
continue a number. The literal tells the number: an integer has neither a fraction nor an exponent
and is its digits; a double has one of the two, and the value of the literal is that of its shortest
decimal.

* `Literal.chars`, `Literal.take?_chars`: a literal as characters, and back;
* `positional_literal`, `scientific_literal`: both layouts of a decimal are literals of its value;
* `Number.exists_literal`: the text of a number is a literal that stands for it;
* `Number.text_append_inj`: so the text determines the number and what follows.
-/

import Mathlib.Data.List.TakeWhile
import ResourceGraph.Json.Literal
import ResourceGraph.Json.Printer
import ResourceGraph.Proofs.Binary64.Shortest

namespace ResourceGraph

/-! ### Digits -/

namespace Text

theorem digitsValue_eq (digits : List Char) :
    digitsValue digits = Nat.ofDigitChars 10 digits 0 := by
  rw [Nat.ofDigitChars_eq_foldl, digitsValue, digitsFrom]
  simp only [Nat.mul_comm _ 10]
  rfl

theorem digitsValue_decimalDigits (value : Nat) : digitsValue (decimalDigits value) = value := by
  rw [digitsValue_eq, decimalDigits, Nat.ofDigitChars_ten_toDigits]

theorem digitsValue_append_zeros (digits : List Char) (count : Nat) :
    digitsValue (digits ++ List.replicate count '0') = digitsValue digits * 10 ^ count := by
  rw [digitsValue_eq, digitsValue_eq, Nat.ofDigitChars_append, Nat.ofDigitChars_replicate_zero,
    Nat.mul_comm]

theorem digitsValue_zeros_append (digits : List Char) (count : Nat) :
    digitsValue (List.replicate count '0' ++ digits) = digitsValue digits := by
  rw [digitsValue_eq, digitsValue_eq, Nat.ofDigitChars_append, Nat.ofDigitChars_replicate_zero,
    Nat.mul_zero]

theorem isDigit_of_mem_decimalDigits {value : Nat} {c : Char} (member : c ∈ decimalDigits value) :
    c.isDigit = true :=
  Nat.isDigit_of_mem_toDigits (by decide) (by decide) member

theorem decimalDigits_ne_nil (value : Nat) : decimalDigits value ≠ [] :=
  Nat.toDigits_ne_nil

/-- Only zero is written with a zero in front. -/
theorem head?_decimalDigits_ne {value : Nat} (positive : 0 < value) :
    (decimalDigits value).head? ≠ some '0' := by
  induction value using Nat.strong_induction_on with
  | _ value ih =>
    unfold decimalDigits
    by_cases small : value < 10
    · rw [Nat.toDigits_of_lt_base small, List.head?_cons, Ne, Option.some.injEq,
        Nat.digitChar_eq_zero]
      exact positive.ne'
    · rw [Nat.toDigits_of_base_le (by decide) (by omega),
        List.head?_append_of_ne_nil _ Nat.toDigits_ne_nil]
      exact ih (value / 10) (by omega) (by omega)

theorem takeDigits_append {run rest : List Char} (digits : ∀ c ∈ run, c.isDigit = true)
    (ends : ∀ c ∈ rest.head?, c.isDigit = false) : takeDigits (run ++ rest) = (run, rest) := by
  have none : rest.takeWhile Char.isDigit = [] ∧ rest.dropWhile Char.isDigit = rest := by
    cases rest with
    | nil => exact ⟨rfl, rfl⟩
    | cons c rest =>
      have other : c.isDigit = false := ends c rfl
      exact ⟨List.takeWhile_cons_of_neg (by simp [other]),
        List.dropWhile_cons_of_neg (by simp [other])⟩
  rw [takeDigits, List.takeWhile_append_of_pos digits, List.dropWhile_append_of_pos digits, none.1,
    none.2, List.append_nil]

end Text

/-! ### Literals -/

namespace Json.Literal

open Text

/-- The characters of a fraction. -/
def fractionChars : List Char → List Char
  | [] => []
  | digit :: rest => '.' :: digit :: rest

/-- The characters of an exponent. -/
def exponentChars : Option (Bool × List Char) → List Char
  | none => []
  | some (downwards, digits) => 'e' :: (if downwards then '-' else '+') :: digits

/-- The characters of a literal. -/
def chars (literal : Literal) : List Char :=
  (if literal.negative then ['-'] else []) ++
    (literal.whole ++ (fractionChars literal.fraction ++ exponentChars literal.exponent))

/-- The parts of a literal are runs of digits, and no zero stands in front of other digits. -/
structure WellFormed (literal : Literal) : Prop where
  whole : ∀ c ∈ literal.whole, c.isDigit = true
  some_whole : literal.whole ≠ []
  leading : literal.whole.head? = some '0' → literal.whole.length = 1
  fraction : ∀ c ∈ literal.fraction, c.isDigit = true
  exponent : ∀ part ∈ literal.exponent, part.2 ≠ [] ∧ ∀ c ∈ part.2, c.isDigit = true

/-- The characters go on with nothing that continues a number. -/
def Ends (rest : List Char) : Prop :=
  ∀ c ∈ rest.head?, c.isDigit = false ∧ c ≠ '.' ∧ c ≠ 'e' ∧ c ≠ 'E'

theorem takeExponent?_exponentChars {exponent : Option (Bool × List Char)} {rest : List Char}
    (formed : ∀ part ∈ exponent, part.2 ≠ [] ∧ ∀ c ∈ part.2, c.isDigit = true) (ends : Ends rest) :
    takeExponent? (exponentChars exponent ++ rest) = some (exponent, rest) := by
  cases exponent with
  | none =>
    cases rest with
    | nil => rfl
    | cons c rest =>
      obtain ⟨-, -, lower, upper⟩ := ends c rfl
      simp only [exponentChars, List.nil_append, takeExponent?]
      rw [if_pos ⟨lower, upper⟩]
  | some part =>
    obtain ⟨downwards, digits⟩ := part
    obtain ⟨nonempty, run⟩ := formed _ rfl
    have taken : takeDigits (digits ++ rest) = (digits, rest) :=
      takeDigits_append run fun c first => (ends c first).1
    have isEmpty : digits.isEmpty = false := List.isEmpty_eq_false_iff.mpr nonempty
    cases downwards with
    | false => simp [exponentChars, takeExponent?, taken, nonempty]
    | true => simp [exponentChars, takeExponent?, taken, nonempty]

theorem takeFraction?_fractionChars {fraction rest : List Char}
    (run : ∀ c ∈ fraction, c.isDigit = true)
    (ends : ∀ c ∈ rest.head?, c.isDigit = false ∧ c ≠ '.') :
    takeFraction? (fractionChars fraction ++ rest) = some (fraction, rest) := by
  cases fraction with
  | nil =>
    show takeFraction? rest = _
    unfold takeFraction?
    split
    · exact absurd rfl (ends '.' rfl).2
    · rfl
  | cons digit digits =>
    have taken := takeDigits_append run fun c first => (ends c first).1
    rw [List.cons_append] at taken
    show takeFraction? ('.' :: digit :: (digits ++ rest)) = _
    simp [takeFraction?, taken]

/-- What follows the whole digits of a literal does not continue them. -/
theorem head?_exponentChars_append {exponent : Option (Bool × List Char)} {rest : List Char}
    (ends : Ends rest) :
    ∀ c ∈ (exponentChars exponent ++ rest).head?, c.isDigit = false ∧ c ≠ '.' := by
  intro c first
  cases exponent with
  | none => exact ⟨(ends c first).1, (ends c first).2.1⟩
  | some part =>
    obtain rfl : 'e' = c := Option.some.inj first
    decide

theorem head?_fractionChars_append {fraction rest : List Char}
    (ends : ∀ c ∈ rest.head?, c.isDigit = false ∧ c ≠ '.') :
    ∀ c ∈ (fractionChars fraction ++ rest).head?, c.isDigit = false := by
  intro c first
  cases fraction with
  | nil => exact (ends c first).1
  | cons digit digits =>
    obtain rfl : '.' = c := Option.some.inj first
    decide

/-- **A literal is taken back** from its characters. -/
theorem take?_chars {literal : Literal} {rest : List Char} (formed : literal.WellFormed)
    (ends : Ends rest) : take? (literal.chars ++ rest) = some (literal, rest) := by
  obtain ⟨negative, whole, fraction, exponent⟩ := literal
  obtain ⟨wholeRun, someWhole, leading, fractionRun, exponentRun⟩ := formed
  have afterFraction : ∀ c ∈ (exponentChars exponent ++ rest).head?, c.isDigit = false ∧ c ≠ '.' :=
    head?_exponentChars_append ends
  have unsigned : takeDigits (whole ++
      (fractionChars fraction ++ (exponentChars exponent ++ rest))) =
      (whole, fractionChars fraction ++ (exponentChars exponent ++ rest)) :=
    takeDigits_append wholeRun (head?_fractionChars_append afterFraction)
  have refused : (whole.isEmpty || (whole.head? == some '0' && whole.length ≠ 1)) = false := by
    rw [Bool.or_eq_false_iff, List.isEmpty_eq_false_iff, Bool.and_eq_false_iff, beq_eq_false_iff_ne,
      decide_eq_false_iff_not, not_not]
    exact ⟨someWhole, (em _).symm.imp_right leading⟩
  have parts : ((takeFraction? (fractionChars fraction ++ (exponentChars exponent ++ rest))).bind
      fun first => (takeExponent? first.2).bind fun second =>
        some ((⟨negative, whole, first.1, second.1⟩ : Literal), second.2)) =
      some (⟨negative, whole, fraction, exponent⟩, rest) := by
    rw [takeFraction?_fractionChars fractionRun afterFraction, Option.bind_some,
      takeExponent?_exponentChars exponentRun ends, Option.bind_some]
  unfold take? chars
  cases negative with
  | true =>
    simp only [if_true, List.cons_append, List.nil_append, List.append_assoc, unsigned]
    rw [if_neg (by rw [refused]; decide)]
    exact parts
  | false =>
    obtain ⟨first, digits, rfl⟩ := List.exists_cons_of_ne_nil someWhole
    have digit : first.isDigit = true := wholeRun first List.mem_cons_self
    have minus : first ≠ '-' := by
      rintro rfl
      cases digit
    simp only [Bool.false_eq_true, if_false, List.nil_append, List.append_assoc]
    split
    case h_1 same =>
      cases same
      exact absurd rfl minus
    case h_2 =>
      simp only [unsigned]
      rw [if_neg (by rw [refused]; decide)]
      exact parts

/-! ### Both layouts of a decimal -/

/-- The power of ten that an exponent writes. -/
def power : Option (Bool × List Char) → Int
  | none => 0
  | some (downwards, digits) =>
    if downwards then -(digitsValue digits : Int) else digitsValue digits

/-- The value of a literal, without its sign. -/
def value (literal : Literal) : ℚ :=
  digitsValue (literal.whole ++ literal.fraction) *
    10 ^ (power literal.exponent - literal.fraction.length)

/-- A literal is written as the characters after its sign, has the value of a real, and does not
look like an integer. -/
structure Writes (literal : Literal) (body : List Char) (real : ℚ) : Prop where
  formed : literal.WellFormed
  body : literal.whole ++ (fractionChars literal.fraction ++ exponentChars literal.exponent) = body
  value : literal.value = real
  broken : literal.fraction ≠ [] ∨ literal.exponent ≠ none

theorem isDigit_of_mem_replicate {n : Nat} : ∀ c ∈ List.replicate n '0', c.isDigit = true := by
  intro c member
  rw [List.eq_of_mem_replicate member]
  decide

/-- The significant digits of a decimal: there is one, and the first is no zero. -/
structure Significant (digits : List Char) : Prop where
  run : ∀ c ∈ digits, c.isDigit = true
  nonempty : digits ≠ []
  leading : digits.head? ≠ some '0'

/-- **Positional notation** is a literal of the value. -/
theorem positional_literal {digits : List Char} (significant : Significant digits) (negative : Bool)
    (exponent : Int) :
    ∃ literal : Literal, literal.negative = negative ∧
      literal.Writes (Binary64.positional digits exponent)
        (digitsValue digits * 10 ^ (exponent + 1 - digits.length)) := by
  obtain ⟨run, nonempty, leading⟩ := significant
  have absent : ∀ part ∈ (none : Option (Bool × List Char)),
      part.2 ≠ [] ∧ ∀ c ∈ part.2, c.isDigit = true := fun _ given => nomatch given
  cases exponent with
  | ofNat up =>
    by_cases past : up + 1 < digits.length
    · -- the point stands inside the digits
      have fraction : digits.drop (up + 1) ≠ [] := by
        rw [Ne, List.drop_eq_nil_iff]
        omega
      refine ⟨⟨negative, digits.take (up + 1), digits.drop (up + 1), none⟩, rfl, ⟨?_, ?_, ?_, ?_,
        absent⟩, ?_, ?_, Or.inl fraction⟩
      · exact fun c member => run c (List.mem_of_mem_take member)
      · simp [List.take_eq_nil_iff, nonempty]
      · intro zero
        rw [List.head?_take, if_neg (Nat.succ_ne_zero up)] at zero
        exact absurd zero leading
      · exact fun c member => run c (List.mem_of_mem_drop member)
      · obtain ⟨first, rest, split⟩ := List.exists_cons_of_ne_nil fraction
        simp [Binary64.positional, split, fractionChars, exponentChars,
          Nat.sub_eq_zero_of_le past.le]
      · simp only [value, power, List.take_append_drop, List.length_drop]
        congr 2
        rw [Int.ofNat_eq_natCast]
        omega
    · -- the digits end before the point
      refine ⟨⟨negative, digits ++ List.replicate (up + 1 - digits.length) '0', ['0'], none⟩, rfl,
        ⟨?_, ?_, ?_, ?_, absent⟩, ?_, ?_, Or.inl (List.cons_ne_nil _ _)⟩
      · exact fun c member =>
          (List.mem_append.mp member).elim (run c) (isDigit_of_mem_replicate c)
      · exact List.append_ne_nil_of_left_ne_nil nonempty _
      · intro zero
        rw [List.head?_append_of_ne_nil _ nonempty] at zero
        exact absurd zero leading
      · exact isDigit_of_mem_replicate (n := 1)
      · have short : digits.length ≤ up + 1 := not_lt.mp past
        simp [Binary64.positional, fractionChars, exponentChars, List.take_of_length_le short,
          List.drop_eq_nil_of_le short]
      · have zeros : List.replicate (up + 1 - digits.length) '0' ++ ['0'] =
            List.replicate (up + 1 - digits.length + 1) '0' := List.replicate_succ'.symm
        have short : digits.length ≤ up + 1 := not_lt.mp past
        simp only [value, power, List.append_assoc, zeros, digitsValue_append_zeros]
        rw [Nat.cast_mul, Nat.cast_pow, Nat.cast_ofNat, mul_assoc, ← zpow_natCast,
          ← zpow_add₀ (by decide)]
        congr 2
        rw [Int.ofNat_eq_natCast, List.length_singleton]
        omega
  | negSucc down =>
    refine ⟨⟨negative, ['0'], List.replicate down '0' ++ digits, none⟩, rfl, ⟨?_, ?_, ?_, ?_,
      absent⟩, ?_, ?_, Or.inl (List.append_ne_nil_of_right_ne_nil _ nonempty)⟩
    · exact isDigit_of_mem_replicate (n := 1)
    · exact List.cons_ne_nil _ _
    · exact fun _ => rfl
    · exact fun c member => (List.mem_append.mp member).elim (isDigit_of_mem_replicate c) (run c)
    · obtain ⟨first, rest, split⟩ := List.exists_cons_of_ne_nil
        (List.append_ne_nil_of_right_ne_nil (List.replicate down '0') nonempty)
      simp [Binary64.positional, fractionChars, exponentChars, split]
    · have zeros : ['0'] ++ (List.replicate down '0' ++ digits) =
          List.replicate (down + 1) '0' ++ digits := rfl
      simp only [value, power, zeros, digitsValue_zeros_append]
      congr 2
      rw [List.length_append, List.length_replicate]
      omega

/-- **Notation with an exponent** is a literal of the value. -/
theorem scientific_literal {digits : List Char} (significant : Significant digits) (negative : Bool)
    (exponent : Int) :
    ∃ literal : Literal, literal.negative = negative ∧
      literal.Writes (Binary64.scientific digits exponent)
        (digitsValue digits * 10 ^ (exponent + 1 - digits.length)) := by
  obtain ⟨run, nonempty, leading⟩ := significant
  obtain ⟨first, rest, rfl⟩ := List.exists_cons_of_ne_nil nonempty
  obtain ⟨digit, others⟩ := List.forall_mem_cons.mp run
  let part := (decide (exponent < 0), decimalDigits exponent.natAbs)
  have written : power (some part) = exponent := by
    show (if decide (exponent < 0) = true then -(digitsValue (decimalDigits exponent.natAbs) : Int)
      else digitsValue (decimalDigits exponent.natAbs)) = exponent
    rw [digitsValue_decimalDigits]
    by_cases below : exponent < 0
    · rw [if_pos (decide_eq_true below)]
      omega
    · rw [if_neg (by simpa using below)]
      omega
  refine ⟨⟨negative, [first], rest, some part⟩, rfl, ⟨?_, List.cons_ne_nil _ _, fun _ => rfl,
    others, ?_⟩, ?_, ?_, Or.inr (Option.some_ne_none _)⟩
  · exact List.forall_mem_singleton.mpr digit
  · rintro _ ⟨⟩
    exact ⟨decimalDigits_ne_nil _, fun c => isDigit_of_mem_decimalDigits⟩
  · cases rest <;>
      simp [Binary64.scientific, Binary64.exponentText, fractionChars, exponentChars, part]
  · simp only [value, written, List.singleton_append, List.length_cons]
    congr 2
    push_cast
    ring

end Json.Literal

/-! ### Doubles -/

namespace Binary64

open Text Json.Literal

/-- The value that the text of a double shows, without its sign. -/
def shownValue (x : Binary64) : ℚ :=
  if x.significand = 0 then 0 else (shortest x).value

/-- **A double is told by what its text shows.** -/
theorem eq_of_shownValue {x y : Binary64} (signs : x.negative = y.negative)
    (same : x.shownValue = y.shownValue) : x = y := by
  have least {z : Binary64} (zero : z.significand = 0) : z.scale = -1074 := by
    have bound : -1074 ≤ z.scale := by
      rw [scale_eq]
      omega
    by_contra above
    have hidden := le_significand (x := z) (by omega)
    omega
  have fields : x.exponent = y.exponent ∧ x.fraction = y.fraction := by
    have positive {z : Binary64} (nonzero : z.significand ≠ 0) : 0 < (shortest z).value := by
      have digits : (0 : ℚ) < (shortest z).digits := by exact_mod_cast (shortest_within nonzero).2
      exact mul_pos digits (by positivity)
    unfold shownValue at same
    by_cases zeroX : x.significand = 0 <;> by_cases zeroY : y.significand = 0
    · exact fields_eq (zeroX.trans zeroY.symm) ((least zeroX).trans (least zeroY).symm)
    · rw [if_pos zeroX, if_neg zeroY] at same
      exact absurd same (positive zeroY).ne
    · rw [if_neg zeroX, if_pos zeroY] at same
      exact absurd same (positive zeroX).ne'
    · rw [if_neg zeroX, if_neg zeroY] at same
      exact fields_eq_of_shortest zeroX zeroY same
  obtain ⟨negativeX, exponentX, fractionX⟩ := x
  obtain ⟨negativeY, exponentY, fractionY⟩ := y
  obtain rfl : negativeX = negativeY := signs
  obtain ⟨rfl, rfl⟩ : exponentX = exponentY ∧ fractionX = fractionY := fields
  rfl

/-- The digits of a decimal are the significant ones and zeros. -/
theorem exists_zeros (decimal : Decimal) :
    ∃ count, decimalDigits decimal.digits =
      significantDigits decimal ++ List.replicate count '0' := by
  have split := List.takeWhile_append_dropWhile (p := (· == '0'))
    (l := (decimalDigits decimal.digits).reverse)
  have zeros : (decimalDigits decimal.digits).reverse.takeWhile (· == '0') =
      List.replicate ((decimalDigits decimal.digits).reverse.takeWhile (· == '0')).length '0' :=
    List.eq_replicate_of_mem fun c member => by simpa using List.mem_takeWhile_imp member
  refine ⟨((decimalDigits decimal.digits).reverse.takeWhile (· == '0')).length, ?_⟩
  rw [← List.reverse_inj, List.reverse_append, List.reverse_replicate, significantDigits,
    List.reverse_reverse, ← zeros]
  exact split.symm

theorem significant_digits {decimal : Decimal} (positive : 0 < decimal.digits) :
    Significant (significantDigits decimal) := by
  obtain ⟨count, split⟩ := exists_zeros decimal
  have leading := head?_decimalDigits_ne positive
  have run : ∀ c ∈ decimalDigits decimal.digits, c.isDigit = true :=
    fun c => isDigit_of_mem_decimalDigits
  have someDigit := decimalDigits_ne_nil decimal.digits
  rw [split] at leading run someDigit
  have nonempty : significantDigits decimal ≠ [] := by
    intro none
    rw [none, List.nil_append] at leading someDigit
    cases count with
    | zero => exact someDigit rfl
    | succ count => exact leading rfl
  rw [List.head?_append_of_ne_nil _ nonempty] at leading
  exact ⟨fun c member => run c (List.mem_append_left _ member), nonempty, leading⟩

/-- The place of the first digit of a decimal. -/
def Decimal.firstPlace (decimal : Decimal) : Int :=
  decimal.exponent + (decimalDigits decimal.digits).length - 1

/-- The value of a decimal from its significant digits and the place of the first one. -/
theorem value_significantDigits (decimal : Decimal) :
    (digitsValue (significantDigits decimal) : ℚ) *
      10 ^ (decimal.firstPlace + 1 - (significantDigits decimal).length) = decimal.value := by
  obtain ⟨count, split⟩ := exists_zeros decimal
  have digits := digitsValue_decimalDigits decimal.digits
  rw [split, digitsValue_append_zeros] at digits
  have place : decimal.firstPlace + 1 - (significantDigits decimal).length =
      count + decimal.exponent := by
    rw [Decimal.firstPlace, split, List.length_append, List.length_replicate]
    omega
  rw [place, zpow_add₀ (by decide), zpow_natCast, ← mul_assoc, Decimal.value, ← digits]
  push_cast
  rfl

theorem toList_render {layout : Layout} {x : Binary64} (nonzero : x.significand ≠ 0) :
    (x.render layout).toList = (if x.negative then ['-'] else []) ++
      if layout.lowest ≤ (shortest x).firstPlace ∧ (shortest x).firstPlace ≤ layout.highest then
        positional (significantDigits (shortest x)) (shortest x).firstPlace
      else scientific (significantDigits (shortest x)) (shortest x).firstPlace := by
  have zero : x.isZero = false := beq_eq_false_iff_ne.mpr nonzero
  simp only [render, zero, Bool.false_eq_true, if_false, String.toList_ofList]
  rfl

/-- **The text of a double** is its sign and a literal of the value that it shows. -/
theorem exists_literal (layout : Layout) (x : Binary64) :
    ∃ literal : Json.Literal, literal.negative = x.negative ∧ ∃ body,
      literal.Writes body x.shownValue ∧
        (x.render layout).toList = (if x.negative then ['-'] else []) ++ body := by
  by_cases zero : x.significand = 0
  · have isZero : x.isZero = true := beq_iff_eq.mpr zero
    refine ⟨⟨x.negative, ['0'], ['0'], none⟩, rfl, ['0', '.', '0'], ⟨⟨?_, List.cons_ne_nil _ _,
      fun _ => rfl, ?_, fun _ given => nomatch given⟩, rfl, ?_, Or.inl (List.cons_ne_nil _ _)⟩, ?_⟩
    · exact isDigit_of_mem_replicate (n := 1)
    · exact isDigit_of_mem_replicate (n := 1)
    · rw [shownValue, if_pos zero]
      exact zero_mul _
    · simp only [render, isZero, if_true, String.toList_ofList]
  · have significant := significant_digits (shortest_within zero).2
    rw [toList_render zero, shownValue, if_neg zero, ← value_significantDigits]
    by_cases fits : layout.lowest ≤ (shortest x).firstPlace ∧
        (shortest x).firstPlace ≤ layout.highest
    · rw [if_pos fits]
      obtain ⟨literal, sign, writes⟩ :=
        positional_literal significant x.negative (shortest x).firstPlace
      exact ⟨literal, sign, _, writes, rfl⟩
    · rw [if_neg fits]
      obtain ⟨literal, sign, writes⟩ :=
        scientific_literal significant x.negative (shortest x).firstPlace
      exact ⟨literal, sign, _, writes, rfl⟩

end Binary64

/-! ### Numbers -/

namespace Number

open Text Json

/-- A literal stands for a number: it is the digits of an integer, or shows the value of a
double. -/
inductive StandsFor (literal : Literal) : Number → Prop where
  | integer {value : Int} (fraction : literal.fraction = []) (exponent : literal.exponent = none)
      (sign : literal.negative = decide (value < 0))
      (digits : digitsValue literal.whole = value.natAbs) : StandsFor literal (.integer value)
  | double {x : Binary64} (broken : literal.fraction ≠ [] ∨ literal.exponent ≠ none)
      (sign : literal.negative = x.negative) (value : literal.value = x.shownValue) :
      StandsFor literal (.double x)

/-- **A literal stands for one number.** -/
theorem StandsFor.unique {literal : Literal} {first second : Number}
    (one : StandsFor literal first) (other : StandsFor literal second) : first = second := by
  cases one with
  | @integer value fraction exponent sign digits =>
    cases other with
    | @integer value' _ _ sign' digits' =>
      have below : (value < 0) ↔ (value' < 0) := decide_eq_decide.mp (sign.symm.trans sign')
      have magnitude : value.natAbs = value'.natAbs := digits.symm.trans digits'
      congr 1
      omega
    | double broken => exact absurd broken (by simp [fraction, exponent])
  | double broken sign value =>
    cases other with
    | integer fraction exponent => exact absurd broken (by simp [fraction, exponent])
    | double _ sign' value' =>
      rw [Binary64.eq_of_shownValue (sign.symm.trans sign') (value.symm.trans value')]

/-- **The text of a number is a literal** that stands for it. -/
theorem exists_literal (number : Number) :
    ∃ literal : Literal, literal.WellFormed ∧ number.text.toList = literal.chars ∧
      StandsFor literal number := by
  cases number with
  | integer value =>
    refine ⟨⟨value < 0, decimalDigits value.natAbs, [], none⟩, ⟨?_, decimalDigits_ne_nil _, ?_, ?_,
      ?_⟩, ?_, .integer rfl rfl rfl (digitsValue_decimalDigits _)⟩
    · exact fun c => isDigit_of_mem_decimalDigits
    · intro zero
      rcases Nat.eq_zero_or_pos value.natAbs with none | positive
      · simp only [none]
        rfl
      · exact absurd zero (head?_decimalDigits_ne positive)
    · exact fun c member => nomatch member
    · exact fun _ given => nomatch given
    · rw [text, Int.toString_eq_repr, Int.repr_eq_if]
      simp only [Literal.chars, Literal.fractionChars, Literal.exponentChars, List.append_nil,
        decimalDigits]
      by_cases below : value < 0
      · have magnitude : (-value).toNat = value.natAbs := by omega
        rw [if_neg (by omega), if_pos (decide_eq_true below), String.toList_append, Nat.toList_repr,
          magnitude]
        rfl
      · have magnitude : value.toNat = value.natAbs := by omega
        rw [if_pos (by omega), if_neg (by simpa using below), Nat.toList_repr, magnitude]
        rfl
  | double x =>
    obtain ⟨literal, sign, body, writes, shown⟩ := x.exists_literal Number.layout
    refine ⟨literal, writes.formed, ?_, .double writes.broken sign writes.value⟩
    show (x.render Number.layout).toList = _
    rw [shown, Literal.chars, writes.body, sign]

/-- **The text of a number determines it**, and what follows it, unless that goes on with a
number. -/
theorem text_append_inj {first second : Number} {rest rest' : List Char}
    (ends : Literal.Ends rest) (ends' : Literal.Ends rest')
    (same : first.text.toList ++ rest = second.text.toList ++ rest') :
    first = second ∧ rest = rest' := by
  obtain ⟨literal, formed, written, stands⟩ := first.exists_literal
  obtain ⟨literal', formed', written', stands'⟩ := second.exists_literal
  have taken := Literal.take?_chars formed ends
  rw [← written, same, written', Literal.take?_chars formed' ends'] at taken
  cases taken
  exact ⟨stands.unique stands', rfl⟩

end Number

end ResourceGraph
