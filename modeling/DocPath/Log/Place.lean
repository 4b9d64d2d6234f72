import DocPath.Text.Decimal

/-! Places of a template.

A place opens with a percent sign. After it come, each of them optional, the name of an argument
in parentheses, flags, a width, a precision behind a point, and a letter for the size of the
argument that means nothing; last the letter of the conversion. -/
namespace DocPath.Log

/-- The name of an argument. Parentheses within it have to match. -/
inductive ArgumentName where
  | closed (name : String)
  | unclosed
  deriving DecidableEq

/-- A width or a precision. -/
inductive Amount where
  | given (n : Nat)
  /-- The next argument gives it. -/
  | argument
  deriving DecidableEq

structure Place where
  name : Option ArgumentName
  flags : List Char
  width : Option Amount
  precision : Option Amount
  /-- The letter of the conversion, unless the template ends before it. -/
  kind : Option Char
  /-- The number of characters after the percent sign. -/
  length : Nat
  deriving DecidableEq

namespace Place

def isFlag (c : Char) : Bool := ['-', '+', ' ', '#', '0'].contains c

def isSize (c : Char) : Bool := ['h', 'l', 'L'].contains c

/-- What stands before the parenthesis that closes the others, and what comes after it. -/
def splitName (opened : Nat) : List Char → Option (List Char × List Char)
  | [] => none
  | c :: rest =>
    if c = ')' then match opened with
      | 0 => some ([], rest)
      | n + 1 => (splitName n rest).map fun r => (c :: r.1, r.2)
    else if c = '(' then (splitName (opened + 1) rest).map fun r => (c :: r.1, r.2)
    else (splitName opened rest).map fun r => (c :: r.1, r.2)

def readName : List Char → Option ArgumentName × List Char
  | '(' :: rest => match splitName 0 rest with
    | some (name, rest) => (some (.closed (String.ofList name)), rest)
    | none => (some .unclosed, [])
  | cs => (none, cs)

def readAmount : List Char → Option Amount × List Char
  | '*' :: rest => (some .argument, rest)
  | cs => match cs.takeWhile Char.isDigit with
    | [] => (none, cs)
    | digits => (some (.given (Text.digitsValue digits)), cs.dropWhile Char.isDigit)

/-- A point without an amount stands for zero. -/
def readPrecision : List Char → Option Amount × List Char
  | '.' :: rest => match readAmount rest with
    | (amount, rest) => (some (amount.getD (.given 0)), rest)
  | cs => (none, cs)

def skipSize : List Char → List Char
  | [] => []
  | c :: rest => if isSize c then rest else c :: rest

/-- Reads a place from what follows its percent sign. -/
def read (cs : List Char) : Place :=
  let (name, rest) := readName cs
  let flags := rest.takeWhile isFlag
  let (width, rest) := readAmount (rest.dropWhile isFlag)
  let (precision, rest) := readPrecision rest
  let rest := skipSize rest
  ⟨name, flags, width, precision, rest.head?, cs.length - rest.tail.length⟩

end Place

end DocPath.Log
