import ParserKit.Text.RangeTable
import ParserKit.Text.CaseFold

/-!
# Sets of characters

The sets that regular expressions are made of, as ranges of code points in increasing order.
They are closed under union, complement and all that follows from these, and under case folding.

## Main definitions

* `CharSet`: a set of characters
* `CharSet.union`, `CharSet.complement`, `CharSet.inter`, `CharSet.diff`, `CharSet.symmDiff`
* `CharSet.foldCase`, `CharSet.foldAscii`: closure under change of case
-/

namespace ParserKit.Regex

open Text

/-- A set of characters: ranges of code points in increasing order, apart from each other. -/
structure CharSet where
  /-- The ranges, both ends included. -/
  ranges : List (Nat × Nat)
deriving DecidableEq, Repr

namespace CharSet

/-- The greatest code point. -/
def maxPoint : Nat := 0x10ffff

/-- Join ranges in increasing order that overlap or touch. -/
def join : List (Nat × Nat) → List (Nat × Nat)
  | [] => []
  | r :: rest => go r rest
where
  /-- Join the ranges behind the one that is being built. -/
  go (r : Nat × Nat) : List (Nat × Nat) → List (Nat × Nat)
    | [] => [r]
    | s :: rest =>
      if s.1 ≤ r.2 + 1 then go (r.1, max r.2 s.2) rest else r :: go s rest

/-- The set of the code points in any of the ranges. -/
def ofRanges (ranges : List (Nat × Nat)) : CharSet :=
  ⟨join ((ranges.filter fun r => r.1 ≤ r.2).mergeSort fun r s => decide (r.1 ≤ s.1))⟩

/-- The set of the characters of a table. -/
def ofTable (t : RangeTable) : CharSet := ⟨t.ranges⟩

/-- The set without characters. -/
def none : CharSet := ⟨[]⟩

/-- The set of all characters. -/
def all : CharSet := ⟨[(0, maxPoint)]⟩

/-- The set of one character. -/
def single (c : Char) : CharSet := ⟨[(c.toNat, c.toNat)]⟩

/-- The characters from `a` to `b`. -/
def range (a b : Char) : CharSet := ofRanges [(a.toNat, b.toNat)]

/-- Whether a character is in the set. -/
def contains (s : CharSet) (c : Char) : Bool := RangeTable.containsPoint s.ranges c.toNat

/-- The characters of either set. -/
def union (s t : CharSet) : CharSet := ofRanges (s.ranges ++ t.ranges)

/-- The gaps between ranges, from `start` on. -/
def gaps (start : Nat) : List (Nat × Nat) → List (Nat × Nat)
  | [] => if start ≤ maxPoint then [(start, maxPoint)] else []
  | (lo, hi) :: rest =>
    if start < lo then (start, lo - 1) :: gaps (hi + 1) rest else gaps (hi + 1) rest

/-- The characters that are not in the set. -/
def complement (s : CharSet) : CharSet := ⟨gaps 0 s.ranges⟩

/-- The characters in both sets. -/
def inter (s t : CharSet) : CharSet := (s.complement.union t.complement).complement

/-- The characters in the first set only. -/
def diff (s t : CharSet) : CharSet := s.inter t.complement

/-- The characters in exactly one of the sets. -/
def symmDiff (s t : CharSet) : CharSet := (s.union t).diff (s.inter t)

/-- Whether the set holds a code point. -/
def hasPoint (s : CharSet) (n : Nat) : Bool := RangeTable.containsPoint s.ranges n

/-- The set and all characters that differ from one of it in case only, as far as `orbits` tell. -/
def foldWith (orbits : List (List Nat)) (s : CharSet) : CharSet :=
  let added := orbits.flatMap fun orbit =>
    if orbit.any s.hasPoint then orbit.map fun n => (n, n) else []
  ofRanges (s.ranges ++ added)

/-- The closure under change of case. -/
def foldCase (s : CharSet) : CharSet := s.foldWith caseOrbits

/-- The pairs of letters of the ASCII range. -/
def asciiPairs : List (List Nat) := (CaseRow.mk 0x41 0x61 1 26).pairs

/-- The closure under change of case within the ASCII range. -/
def foldAscii (s : CharSet) : CharSet := s.foldWith asciiPairs

/-- Whether all characters of the set are in the ASCII range. -/
def isAscii (s : CharSet) : Bool := s.ranges.all fun r => decide (r.2 < 0x80)

end CharSet

end ParserKit.Regex
