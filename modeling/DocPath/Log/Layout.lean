/-! How a text or a number is set into a place.

A place may be wider than what it holds; blanks fill it up, or zeros between the sign of a number
and its digits. -/
namespace DocPath.Log

structure Layout where
  /-- What is set stands on the left. -/
  left : Bool
  /-- A number that is not negative has a plus sign. -/
  signed : Bool
  /-- A number that is not negative has a blank for a sign. -/
  spaced : Bool
  /-- The base of an integer is marked, and a point is kept. -/
  alternate : Bool
  /-- A number is filled up with zeros. -/
  zeros : Bool
  width : Nat
  precision : Option Nat
  deriving DecidableEq

/-- A number in parts: whether it is negative, the mark of its base, and its digits. -/
structure Numeral where
  negative : Bool
  mark : List Char
  digits : List Char
  deriving DecidableEq

/-- What a place is to hold. -/
inductive Content where
  | text (cs : List Char)
  | number (n : Numeral)
  deriving DecidableEq

namespace Layout

/-- Cuts a text off where the precision says so. -/
def cut (l : Layout) (cs : List Char) : List Char :=
  match l.precision with
  | some n => cs.take n
  | none => cs

/-- Fills a text up with blanks. -/
def fill (l : Layout) (cs : List Char) : List Char :=
  let blanks := List.replicate (l.width - cs.length) ' '
  if l.left then cs ++ blanks else blanks ++ cs

def sign (l : Layout) (negative : Bool) : List Char :=
  if negative then ['-'] else if l.signed then ['+'] else if l.spaced then [' '] else []

/-- The content in its place. -/
def set (l : Layout) : Content → List Char
  | .text cs => l.fill cs
  | .number n =>
    let front := l.sign n.negative ++ n.mark
    let room := l.width - (front.length + n.digits.length)
    if l.zeros && !l.left then front ++ List.replicate room '0' ++ n.digits
    else l.fill (front ++ n.digits)

end Layout

end DocPath.Log
