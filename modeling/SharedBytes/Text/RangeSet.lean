/-!
# Sets of code points

A property of characters is given by the code points at which it starts and stops to hold, in
increasing order. A character has the property when an odd number of them lie at or below it. The
sets of this library are those of Unicode 17.0.
-/

namespace SharedBytes.Text

def isIncreasing : List Nat → Bool
  | a :: b :: rest => a < b && isIncreasing (b :: rest)
  | _ => true

/-- A set of code points, as the increasing list of the points at which membership changes. -/
structure RangeSet where
  changes : List Nat
  isIncreasing_changes : isIncreasing changes = true := by decide +kernel

namespace RangeSet

def contains (set : RangeSet) (c : Char) : Bool :=
  (set.changes.takeWhile (· ≤ c.toNat)).length % 2 == 1

end RangeSet

end SharedBytes.Text
