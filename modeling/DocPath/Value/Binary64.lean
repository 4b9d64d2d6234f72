import DocPath.Text.Decimal

/-! Exact values of floating-point numbers.

A floating-point number is given by its shortest decimal text. Its value is that of the 64 bits
closest to the text, counted in units of 2^-1074: every finite one is a whole number of those, so
comparing it with an integer of any size is exact. -/
namespace DocPath

inductive Binary64 where
  /-- A whole number of units. -/
  | finite (units : Int)
  | infinite (negative : Bool)
  /-- Not a number. -/
  | undefined
  deriving DecidableEq

namespace Binary64

/-- Numbers are the same by value; an undefined one is not even the same as itself. -/
def same : Binary64 → Binary64 → Bool
  | .finite m, .finite n => m == n
  | .infinite a, .infinite b => a == b
  | _, _ => false

/-- The units in one. -/
def one : Nat := Nat.pow 2 1074

def zero : Binary64 := .finite 0

/-- The value of an integer, which need not fit into 64 bits. -/
def ofInt (n : Int) : Binary64 := .finite (n * one)

/-! ### Rounding -/

/-- The integer closest to a quotient; halfway between two, the even one. -/
def roundDiv (num den : Nat) : Nat :=
  let q := num / den
  let r := num % den
  if 2 * r < den then q
  else if den < 2 * r then q + 1
  else if q % 2 = 0 then q else q + 1

/-- The units of the quotient, rounded to 53 significant bits. A value too small for so many
bits keeps those that are left. -/
def round (num den : Nat) : Nat :=
  let surplus := Nat.pow 2 ((num * one / den).log2 - 52)
  roundDiv (num * one) (den * surplus) * surplus

/-! ### Reading a decimal text -/

/-- An exponent with its sign, which may be left out. -/
def readExponent : List Char → Int
  | '-' :: cs => -Text.digitsValue cs
  | '+' :: cs => Text.digitsValue cs
  | cs => Text.digitsValue cs

/-- The units of digits, a fraction and an exponent, the latter two optional. -/
def readUnsigned (cs : List Char) : Nat :=
  let whole := cs.takeWhile Char.isDigit
  let rest := cs.dropWhile Char.isDigit
  let pointed := rest.head? = some '.'
  let fraction := if pointed then rest.tail.takeWhile Char.isDigit else []
  let mark := if pointed then rest.tail.dropWhile Char.isDigit else rest
  let exponent := readExponent mark.tail - fraction.length
  let digits := Text.digitsValue (whole ++ fraction)
  if 0 ≤ exponent then round (digits * Nat.pow 10 exponent.toNat) 1
  else round digits (Nat.pow 10 (-exponent).toNat)

def ofText (text : String) : Binary64 :=
  if text = "nan" then .undefined
  else if text = "inf" then .infinite false
  else if text = "-inf" then .infinite true
  else match text.toList with
    | '-' :: cs => .finite (-readUnsigned cs)
    | cs => .finite (readUnsigned cs)

end Binary64

end DocPath
