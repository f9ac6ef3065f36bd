/-
Sets of characters given by a table of code point ranges.

A property of characters is a list of closed ranges in increasing order.  Membership is
a plain search through the list: whether a character has a property then follows from
one decidable statement about each range.
-/

namespace Adventure.Text

/-- Whether a character lies in one of the ranges, ends included. -/
def inRanges (ranges : List (Nat × Nat)) (c : Char) : Bool :=
  ranges.any fun range => range.1 ≤ c.toNat && c.toNat ≤ range.2

end Adventure.Text
