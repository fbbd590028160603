/-
**Identifiers of runs.**

A run is identified by 128 bits, written as hexadecimal digits in groups of eight, four, four, four
and twelve. Reading also takes the digits without hyphens, the grouped form in braces, and the
grouped form as a resource name.
-/

import ResourceGraph.Text.Hex
import ResourceGraph.Text.Search

namespace ResourceGraph

/-- The identifier of a run. -/
structure RunId where
  value : Fin (Nat.pow 2 128)
deriving DecidableEq, Repr

namespace RunId

/-- The lowest hexadecimal digits of a number. -/
def hexDigits (value : Nat) : Nat → List Char
  | 0 => []
  | count + 1 => hexDigits (value / 16) count ++ [Text.hexDigit (value % 16)]

/-- The identifier in groups of digits. -/
def text (id : RunId) : String :=
  let digits := hexDigits id.value.val 32
  let group (start length : Nat) := String.ofList ((digits.drop start).take length)
  Text.join "-" [group 0 8, group 8 4, group 12 4, group 16 4, group 20 12]

/-- The identifier of thirty-two digits. -/
def ofDigits? (digits : List Char) : Option RunId := do
  let value ← Text.hexNumber? digits
  if fits : value < Nat.pow 2 128 then some ⟨⟨value, fits⟩⟩ else none

/-- The digits of the grouped form. -/
def ofGroups? (chars : List Char) : Option RunId :=
  let groups := chars.splitOn '-'
  if groups.map List.length = [8, 4, 4, 4, 12] then ofDigits? groups.flatten else none

/-- What a resource name starts with. -/
def namePrefix : List Char := "urn:uuid:".toList

/-- Reads an identifier. -/
def ofText? (text : String) : Option RunId :=
  let chars := text.toList
  if chars.length = 32 then ofDigits? chars
  else if chars.length = 36 then ofGroups? chars
  else if chars.length = 38 then do
    ofGroups? (← Text.beforeSuffix? ['\x7d'] (← Text.afterPrefix? ['\x7b'] chars))
  else (Text.afterPrefix? namePrefix chars).bind ofGroups?

end RunId

end ResourceGraph
