set_option autoImplicit false

/-!
# Ranges of code points

Character classes of Unicode are given as tables of ranges in ascending order.

## Main definitions

* `UnitForge.Text.inRanges`: membership in a table of closed ranges.
* `UnitForge.Text.inStrides`: membership in a table of ranges that may skip every other point.
-/

namespace UnitForge.Text

/-- Whether `n` lies in one of the closed ranges `(lo, hi)`. -/
def inRanges (table : List (Nat × Nat)) (n : Nat) : Bool :=
  table.any fun (lo, hi) => lo ≤ n && n ≤ hi

/-- Whether `n` is one of the points `lo, lo + step, …, hi` of a row `(lo, hi, step)`. -/
def inStrides (table : List (Nat × Nat × Nat)) (n : Nat) : Bool :=
  table.any fun (lo, hi, step) => lo ≤ n && n ≤ hi && (n - lo) % step == 0

end UnitForge.Text
