/-!
# Range tables

A set of characters, given by ranges of code points in increasing order.

## Main definitions

* `RangeTable`: ranges of code points, the smallest first
* `RangeTable.contains`: membership; it stops at the first range beyond the character
-/

namespace ParserKit.Text

/-- Ranges of code points, both ends included, in increasing order and apart from each other. -/
structure RangeTable where
  /-- The ranges. -/
  ranges : List (Nat × Nat)
deriving DecidableEq, Repr

namespace RangeTable

/-- The table of the ranges `pairs`. -/
def ofPairs (pairs : List (Nat × Nat)) : RangeTable := ⟨pairs⟩

/-- Whether a code point lies in one of the ranges. -/
def containsPoint : List (Nat × Nat) → Nat → Bool
  | [], _ => false
  | (lo, hi) :: rest, n => !decide (n < lo) && (decide (n ≤ hi) || containsPoint rest n)

/-- Whether a character lies in the table. -/
def contains (t : RangeTable) (c : Char) : Bool := containsPoint t.ranges c.toNat

end RangeTable

end ParserKit.Text
