/-!
# Character ranges

Sets of characters given as sorted, disjoint ranges of codes. Membership is a
binary search that keeps the half of the table where the code can still lie.
-/

namespace DeltaLint
namespace Text

/-- Sorted, disjoint ranges of character codes, both ends included. -/
structure RangeTable where
  ranges : Array (Nat × Nat)

namespace RangeTable

/-- Looks for the code among the ranges from `lo` up to but not including `hi`. -/
def search (t : RangeTable) (code : Nat) : Nat → Nat → Nat → Bool
  | 0, _, _ => false
  | fuel + 1, lo, hi =>
    if lo < hi then
      let mid := (lo + hi) / 2
      match t.ranges[mid]? with
      | none => false
      | some (first, last) =>
        if code < first then search t code fuel lo mid
        else if last < code then search t code fuel (mid + 1) hi
        else true
    else false

/-- Whether a code lies in one of the ranges. -/
def contains (t : RangeTable) (code : Nat) : Bool :=
  t.search code (t.ranges.size.log2 + 2) 0 t.ranges.size

end RangeTable

end Text
end DeltaLint
