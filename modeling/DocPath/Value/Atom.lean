import DocPath.Value.Binary64

/-! Leaves of a document.

Numbers are compared by value: a truth value counts as zero or one, and a number is the same as
any other of the same value, whatever its type. -/
namespace DocPath

/-- A leaf. Floating-point numbers are kept as their shortest decimal text. -/
inductive Atom where
  | null
  | bool (b : Bool)
  | int (n : Int)
  | float (text : String)
  | complex (re im : String)
  | text (s : String)
  | bytes (octets : List UInt8)
  deriving DecidableEq

namespace Atom

/-- The real and the imaginary part of a number. -/
def number? : Atom → Option (Binary64 × Binary64)
  | .bool b => some (.ofInt b.toInt, .zero)
  | .int n => some (.ofInt n, .zero)
  | .float t => some (.ofText t, .zero)
  | .complex re im => some (.ofText re, .ofText im)
  | .null | .text _ | .bytes _ => none

def same (a b : Atom) : Bool :=
  match a.number?, b.number? with
  | some (re, im), some (re', im') => re.same re' && im.same im'
  | none, none => a == b
  | _, _ => false

end Atom

end DocPath
