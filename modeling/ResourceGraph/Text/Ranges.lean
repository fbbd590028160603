/-
**Ranges of code points.**

A class of characters is given by ranges, each with its first and its last member.
-/

namespace ResourceGraph.Text

/-- Whether a code point lies in one of some ranges. -/
def inRanges (ranges : List (Nat × Nat)) (code : Nat) : Bool :=
  ranges.any fun range => range.1 ≤ code && code ≤ range.2

end ResourceGraph.Text
