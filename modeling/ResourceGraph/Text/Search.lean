/-
**Looking for one text inside another.**

Searching and cutting are defined on lists of characters, by recursion on the text searched.
`String` versions stand beside them under the name the rest of the library uses.
-/

namespace ResourceGraph.Text

/-- Whether `needle` occurs in the characters. -/
def occursIn (needle : List Char) : List Char → Bool
  | [] => needle.isEmpty
  | c :: rest => needle.isPrefixOf (c :: rest) || occursIn needle rest

/-- Whether `needle` occurs in `text`. -/
def contains (text needle : String) : Bool :=
  occursIn needle.toList text.toList

/-- What follows `head` at the start of the characters. -/
def afterPrefix? : List Char → List Char → Option (List Char)
  | [], rest => some rest
  | _ :: _, [] => none
  | h :: head, c :: rest => if h = c then afterPrefix? head rest else none

/-- What precedes `tail` at the end of the characters. -/
def beforeSuffix? (tail chars : List Char) : Option (List Char) :=
  (afterPrefix? tail.reverse chars.reverse).map List.reverse

/-- The pieces of the text between the separators, empty pieces included. -/
def pieces (separator : Char) (text : String) : List String :=
  (text.toList.splitOn separator).map String.ofList

/-- The pieces, joined with a separator between neighbours. -/
def join (separator : String) (parts : List String) : String :=
  separator.intercalate parts

/-- The text without the separators at its end. -/
def dropTrailing (separator : Char) (text : String) : String :=
  String.ofList (text.toList.reverse.dropWhile (· == separator)).reverse

end ResourceGraph.Text
