import DocPath.Value.Binary64

/-! Floating-point numbers with a chosen number of digits.

A magnitude is a whole number of units, so that its decimal digits are exact before they are
rounded, and rounded once. Halfway between two the last digit is even. -/
namespace DocPath.Binary64

/-- The units of the least power of two that is too large for 64 bits. -/
def ceiling : Nat := Nat.pow 2 1024 * one

/-- The power of ten at the first digit that is not zero. -/
def magnitude (m : Nat) : Int :=
  if m = 0 then 0
  else if one ≤ m then Text.digitCount (m / one) - 1
  else -Text.digitCount ((one - 1) / m)

/-- The units divided by a power of ten, rounded. -/
def scaled (m : Nat) (power : Int) : Nat :=
  if 0 ≤ power then roundDiv m (one * Nat.pow 10 power.toNat)
  else roundDiv (m * Nat.pow 10 (-power).toNat) one

/-- That many digits from the first one on, and the power of ten at the first. -/
def significant (count m : Nat) : Nat × Int :=
  let power := magnitude m
  let n := scaled m (power - (count - 1))
  if n = Nat.pow 10 count then (n / 10, power + 1) else (n, power)

/-! ### Texts -/

inductive Style where
  /-- A chosen number of places. -/
  | fixed
  /-- One digit, a chosen number of places, and a power of ten. -/
  | scientific
  /-- A chosen number of digits, with a power of ten where they do not reach the point. -/
  | general
  deriving DecidableEq

/-- A whole part and places behind it. The point stands alone only where it is kept. -/
def pointed (keep : Bool) (whole : Nat) (places : List Char) : List Char :=
  Nat.toDigits 10 whole ++ if places.isEmpty && !keep then [] else '.' :: places

/-- A power of ten with its sign and two digits at least. -/
def exponentText (power : Int) : List Char :=
  let digits := Nat.toDigits 10 power.natAbs
  ['e', if power < 0 then '-' else '+'] ++ List.replicate (2 - digits.length) '0' ++ digits

/-- Zeros at the end of the places are left out unless they are kept. -/
def trimmed (keep : Bool) (places : List Char) : List Char :=
  if keep then places else (places.reverse.dropWhile (· == '0')).reverse

/-- No number has more digits behind its first one; what is asked for beyond is zeros. -/
def placesLimit : Nat := 1382

/-- Places that go on with zeros, as many as are missing. -/
def extended (places : List Char) (asked exact : Nat) : List Char :=
  places ++ List.replicate (asked - exact) '0'

/-- A magnitude with as many digits or places as its style says. -/
def Style.text (style : Style) (keep : Bool) (precision m : Nat) : List Char :=
  match style with
  | .fixed =>
    let exact := min precision placesLimit
    let n := scaled m (-exact)
    pointed keep (n / Nat.pow 10 exact) (extended (Text.lastDigits exact n) precision exact)
  | .scientific =>
    let exact := min precision placesLimit
    let (n, power) := significant (exact + 1) m
    pointed keep (n / Nat.pow 10 exact) (extended (Text.lastDigits exact n) precision exact) ++
      exponentText power
  | .general =>
    let asked := precision - 1
    let exact := min asked placesLimit
    let (n, power) := significant (exact + 1) m
    let exponential := power < -4 || asked < power
    let count := if exponential then exact else (exact - power).toNat
    let places := extended (Text.lastDigits count n) asked exact
    pointed keep (n / Nat.pow 10 count) (trimmed keep places) ++
      if exponential then exponentText power else []

end DocPath.Binary64
