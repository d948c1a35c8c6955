/-! Sets of code points written as sorted, disjoint ranges. -/
namespace Stowage.Text

/-- Whether a range of the array from `low` up to `high` holds the code point, by halving. -/
def inRangesBetween (ranges : Array (Nat × Nat)) (n low high : Nat) : Bool :=
  if _h : low < high then
    let middle := (low + high) / 2
    match ranges[middle]? with
    | none => false
    | some (first, last) =>
      if n < first then inRangesBetween ranges n low middle
      else if last < n then inRangesBetween ranges n (middle + 1) high
      else true
  else false
termination_by high - low

def inRanges (ranges : Array (Nat × Nat)) (n : Nat) : Bool :=
  inRangesBetween ranges n 0 ranges.size

end Stowage.Text
