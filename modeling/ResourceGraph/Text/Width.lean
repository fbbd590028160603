/-
**Width of text.**

The columns that a line takes on a terminal. Most characters take one; wide ones take two, marks and
ignorable characters none. An emoji sequence, whatever it is made of, takes two, and some scripts
join neighbours into one shape.

* `Text.charWidth`: the columns of one character by itself;
* `Text.width`: the columns of a line.
-/

import ResourceGraph.Text.Ranges
import ResourceGraph.Text.WidthRanges

namespace ResourceGraph.Text

/-- The columns of one character by itself. -/
def charWidth (c : Char) : Nat :=
  if inRanges zeroRanges c.toNat then 0
  else if c.toNat == 0x17D8 then 3
  else if inRanges wideRanges c.toNat then 2
  else 1

/-! ### Emoji sequences -/

/-- Asks for the form of an emoji. -/
def emojiSelector : Char := '\uFE0F'

/-- Asks for the form of text. -/
def textSelector : Char := '\uFE0E'

/-- Joins the emoji around it. -/
def joiner : Char := '\u200D'

/-- The skin tones. -/
def isSkinTone (c : Char) : Bool :=
  0x1F3FB ≤ c.toNat && c.toNat ≤ 0x1F3FF

/-- What follows an emoji at the start of the characters: one with a skin tone, one that a selector
makes an emoji, or one that is an emoji by itself. -/
def afterEmoji? : List Char → Option (List Char)
  | [] => none
  | c :: rest =>
    match rest with
    | [] => if inRanges emojiRanges c.toNat then some [] else none
    | next :: later =>
      if isSkinTone next && inRanges emojiModifierBases c.toNat then some later
      else if next == emojiSelector && inRanges emojiVariationRanges c.toNat then some later
      else if next == textSelector && inRanges emojiVariationRanges c.toNat then none
      else if inRanges emojiRanges c.toNat then some rest
      else none

/-- How many characters the emoji that are joined to an earlier one take. The fuel bounds their
number. -/
def joinedLength : Nat → List Char → Nat
  | 0, _ => 0
  | fuel + 1, chars =>
    match chars with
    | [] => 0
    | c :: rest =>
      if c == joiner then
        match afterEmoji? rest with
        | some later => chars.length - later.length + joinedLength fuel later
        | none => 0
      else 0

/-- How many characters the emoji sequence at the start takes; zero if there is none. -/
def emojiLength (chars : List Char) : Nat :=
  match afterEmoji? chars with
  | some later => chars.length - later.length + joinedLength later.length later
  | none => 0

/-! ### Joined shapes -/

/-- A pair of characters that are written as one shape, also with marks between them. -/
structure Ligature where
  first : List (Nat × Nat)
  second : List (Nat × Nat)

/-- Lam with alef, stacked consonants, and pairs of tone letters. -/
def ligatures : List Ligature :=
  [⟨[(0x644, 0x644), (0x6B5, 0x6B8), (0x76A, 0x76A), (0x8A6, 0x8A6), (0x8C7, 0x8C7)],
      [(0x622, 0x623), (0x625, 0x625), (0x627, 0x627), (0x671, 0x673), (0x675, 0x675),
        (0x773, 0x774), (0x870, 0x882)]⟩,
    ⟨[(0x17D2, 0x17D2)],
      [(0x1780, 0x1782), (0x1784, 0x1787), (0x1789, 0x178C), (0x178E, 0x1793), (0x1795, 0x1798),
        (0x179B, 0x179D), (0x17A0, 0x17A0), (0x17A2, 0x17A2), (0x17A7, 0x17A7), (0x17AB, 0x17AC),
        (0x17AF, 0x17AF)]⟩,
    ⟨[(0xA4F8, 0xA4FB)], [(0xA4FC, 0xA4FD)]⟩]

/-- Whether a character joins the shape of an earlier one. -/
def joins (earlier : Option Char) (c : Char) : Bool :=
  match earlier with
  | none => false
  | some before => ligatures.any fun ligature =>
      inRanges ligature.first before.toNat && inRanges ligature.second c.toNat

/-- Whether a character starts a shape that others can join. -/
def startsShape (c : Char) : Bool :=
  ligatures.any fun ligature => inRanges ligature.first c.toNat

/-! ### Lines -/

/-- The columns that a character adds after an earlier one. -/
def stepWidth (earlier : Option Char) (c : Char) (later : List Char) : Nat :=
  if joins earlier c then 0
  else if later.head? == some textSelector && inRanges emojiVariationRanges c.toNat &&
      inRanges emojiRanges c.toNat then 1
  else charWidth c

/-- The columns of some characters. The count says how many of them belong to an emoji sequence that
is already counted; the earlier character is the last that takes a column or starts a shape. -/
def widthFrom (counted : Nat) (earlier : Option Char) : List Char → Nat
  | [] => 0
  | c :: rest =>
    match counted with
    | counted + 1 => widthFrom counted none rest
    | 0 =>
      match emojiLength (c :: rest) with
      | length + 1 => 2 + widthFrom length none rest
      | 0 =>
        let next := if charWidth c = 0 && !startsShape c then earlier else some c
        stepWidth earlier c rest + widthFrom 0 next rest

/-- The columns of a line. -/
def width (line : String) : Nat :=
  widthFrom 0 none line.toList

end ResourceGraph.Text
