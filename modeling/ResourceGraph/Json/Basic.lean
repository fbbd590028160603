/-
**Values of the data format.**

`Json` is a tree of scalars, lists and mappings. A mapping is a list of fields: `Fields.insert`
keeps the keys in increasing order and replaces the value of a key that is there already, so a
mapping built by `insert` alone is a finite map in canonical form, whatever the order of the
insertions.

Numbers are integers or finite doubles; the readers admit integers of 64 bits and nothing wider.
-/

import ResourceGraph.Binary64.Basic

namespace ResourceGraph

/-- A number: an integer, or a finite double. -/
inductive Number where
  | integer (value : Int)
  | double (value : Binary64)
deriving DecidableEq, Repr

/-- A value of the data format. -/
inductive Json where
  | null
  | bool (value : Bool)
  | number (value : Number)
  | string (text : String)
  | array (items : List Json)
  | object (fields : List (String × Json))
deriving Repr, Inhabited

/-- The fields of a mapping. -/
abbrev Fields := List (String × Json)

namespace Fields

/-- The value of a key. -/
def get? (key : String) : Fields → Option Json
  | [] => none
  | (k, value) :: rest => if k = key then some value else get? key rest

/-- Whether a key is there. -/
def hasKey (fields : Fields) (key : String) : Bool :=
  (fields.get? key).isSome

/-- Sets a key, in order among the others. -/
def insert (key : String) (value : Json) : Fields → Fields
  | [] => [(key, value)]
  | (k, old) :: rest =>
    if key = k then (key, value) :: rest
    else if key < k then (key, value) :: (k, old) :: rest
    else (k, old) :: insert key value rest

/-- Sets a key unless it is there. -/
def insertIfNew (fields : Fields) (key : String) (value : Json) : Fields :=
  if fields.hasKey key then fields else fields.insert key value

/-- The mapping of a sequence of fields; the last value of a repeated key counts. -/
def ofList (pairs : List (String × Json)) : Fields :=
  pairs.foldl (fun fields pair => fields.insert pair.1 pair.2) []

end Fields

namespace Json

/-- A natural number as a value. -/
def ofNat (value : Nat) : Json :=
  .number (.integer value)

/-- A list of texts as a value. -/
def ofTexts (texts : List String) : Json :=
  .array (texts.map .string)

/-- A text or nothing as a value. -/
def ofOptionalText : Option String → Json
  | none => .null
  | some text => .string text

/-- The value of a key, for a mapping that has it. -/
def field? (key : String) : Json → Option Json
  | .object fields => Fields.get? key fields
  | _ => none

/-- The text of a string. -/
def text? : Json → Option String
  | .string text => some text
  | _ => none

/-- The items of a list. -/
def items? : Json → Option (List Json)
  | .array items => some items
  | _ => none

/-- The fields of a mapping. -/
def fields? : Json → Option Fields
  | .object fields => some fields
  | _ => none

/-- The value of a Boolean. -/
def bool? : Json → Option Bool
  | .bool value => some value
  | _ => none

/-- The value of a non-negative integer. -/
def natural? : Json → Option Nat
  | .number (.integer (.ofNat value)) => some value
  | _ => none

/-- Whether the value is a string. -/
def isString : Json → Bool
  | .string _ => true
  | _ => false

/-- Whether the value is null. -/
def isNull : Json → Bool
  | .null => true
  | _ => false

mutual

/-- Equality of values is decidable. -/
def decEq : (x y : Json) → Decidable (x = y)
  | .null, .null => isTrue rfl
  | .bool a, .bool b => decidable_of_iff (a = b) (by simp)
  | .number a, .number b => decidable_of_iff (a = b) (by simp)
  | .string a, .string b => decidable_of_iff (a = b) (by simp)
  | .array a, .array b => @decidable_of_iff _ (a = b) (by simp) (decEqItems a b)
  | .object a, .object b => @decidable_of_iff _ (a = b) (by simp) (decEqFields a b)
  | .null, .bool _ | .null, .number _ | .null, .string _ | .null, .array _ | .null, .object _
  | .bool _, .null | .bool _, .number _ | .bool _, .string _ | .bool _, .array _
  | .bool _, .object _ | .number _, .null | .number _, .bool _ | .number _, .string _
  | .number _, .array _ | .number _, .object _ | .string _, .null | .string _, .bool _
  | .string _, .number _ | .string _, .array _ | .string _, .object _ | .array _, .null
  | .array _, .bool _ | .array _, .number _ | .array _, .string _ | .array _, .object _
  | .object _, .null | .object _, .bool _ | .object _, .number _ | .object _, .string _
  | .object _, .array _ => isFalse (by simp)

/-- Equality of lists of values is decidable. -/
def decEqItems : (xs ys : List Json) → Decidable (xs = ys)
  | [], [] => isTrue rfl
  | [], _ :: _ => isFalse (by simp)
  | _ :: _, [] => isFalse (by simp)
  | x :: xs, y :: ys =>
    match decEq x y, decEqItems xs ys with
    | isTrue head, isTrue tail => isTrue (by rw [head, tail])
    | isFalse head, _ => isFalse (by simp [head])
    | _, isFalse tail => isFalse (by simp [tail])

/-- Equality of lists of fields is decidable. -/
def decEqFields : (xs ys : List (String × Json)) → Decidable (xs = ys)
  | [], [] => isTrue rfl
  | [], _ :: _ => isFalse (by simp)
  | _ :: _, [] => isFalse (by simp)
  | (k, x) :: xs, (l, y) :: ys =>
    match decEq x y, decEqFields xs ys with
    | isTrue head, isTrue tail =>
      if key : k = l then isTrue (by rw [key, head, tail]) else isFalse (by simp [key])
    | isFalse head, _ => isFalse (by simp [head])
    | _, isFalse tail => isFalse (by simp [tail])

end

instance : DecidableEq Json := decEq

end Json

end ResourceGraph
