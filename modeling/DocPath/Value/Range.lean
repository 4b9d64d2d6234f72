/-! Ranges of integers. -/
namespace DocPath

/-- The integers from `start` towards `stop`, which is not among them, in steps. -/
structure Range where
  start : Int
  stop : Int
  step : Int
  deriving DecidableEq

namespace Range

def length (r : Range) : Nat :=
  if 0 < r.step then ((r.stop - r.start + r.step - 1) / r.step).toNat
  else if r.step < 0 then ((r.start - r.stop - r.step - 1) / -r.step).toNat
  else 0

def get (r : Range) (n : Nat) : Int := r.start + n * r.step

def toList (r : Range) : List Int := (List.range r.length).map r.get

/-- Ranges are the same if they have the same integers in the same order. -/
def same (r s : Range) : Bool :=
  r.length == s.length &&
    (r.length == 0 || r.start == s.start && (r.length == 1 || r.step == s.step))

end Range

end DocPath
