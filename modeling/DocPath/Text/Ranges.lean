/-! Sets of code points, given as ranges.

A set is a list of closed ranges in ascending order. The search stops at the first range that
starts beyond the point, so the early ranges of a table are cheap to decide. -/
namespace DocPath.Text

/-- Whether a point lies in one of the ascending ranges. -/
def covers : List (Nat × Nat) → Nat → Bool
  | [], _ => false
  | (lo, hi) :: rest, n => if n < lo then false else n ≤ hi || covers rest n

end DocPath.Text
