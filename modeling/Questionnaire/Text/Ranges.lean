/-!
# Sorted ranges of code points

The properties of characters that this library needs are tables of ranges in ascending order.
`inRanges` looks a code point up in such a table and stops at the first range beyond it.
-/

namespace Questionnaire.Text

/-- Whether a number lies in one of the ranges (both ends included), which come in ascending
order. -/
def inRanges : List (Nat × Nat) → Nat → Bool
  | [], _ => false
  | (first, last) :: rest, n => if n < first then false else n ≤ last || inRanges rest n

/-- The range that holds a number. -/
def findRange? : List (Nat × Nat) → Nat → Option (Nat × Nat)
  | [], _ => none
  | (first, last) :: rest, n =>
    if n < first then none else if n ≤ last then some (first, last) else findRange? rest n

end Questionnaire.Text
