import DocPath.Path.Alphabet

/-! Path expressions, as what a path spells out.

A path is a head followed by accesses: a name after a dot, a number in brackets, or a quoted key
in brackets. `render` writes an expression down and `keys` lists what it reaches for; nothing
here reads a path. -/
namespace DocPath.Path

/-- One access of a path. -/
inductive Access where
  | name (cs : List Char)
  | index (digits : List Char)
  /-- A key in quotes; either quote may open it, and either close it. -/
  | quoted (opening closing : Char) (key : List Char)
  deriving DecidableEq

def Access.key : Access → List Char
  | .name cs => cs
  | .index digits => digits
  | .quoted _ _ key => key

def Access.render : Access → List Char
  | .name cs => '.' :: cs
  | .index digits => '[' :: digits ++ [']']
  | .quoted opening closing key => '[' :: opening :: key ++ [closing, ']']

/-- A key that quotes can hold: it starts like a name and has no separator and no quote. -/
def isQuotable : List Char → Bool
  | [] => false
  | c :: rest => isNameStart c && rest.all fun d => !isSeparator d && !isQuote d

def Access.WellFormed : Access → Prop
  | .name cs => isName cs = true
  | .index digits => isNumeral digits = true
  | .quoted opening closing key =>
    isQuote opening = true ∧ isQuote closing = true ∧ isQuotable key = true

def Access.isNamed : Access → Bool
  | .name _ => true
  | _ => false

structure Expression where
  head : List Char
  accesses : List Access
  deriving DecidableEq

namespace Expression

def render (e : Expression) : List Char := e.head ++ e.accesses.flatMap Access.render

def keys (e : Expression) : List (List Char) := e.head :: e.accesses.map Access.key

/-- The head is made of name characters, and a name after a dot does not open the path. -/
structure WellFormed (e : Expression) : Prop where
  head : e.head.all isNameChar = true
  accesses : ∀ a ∈ e.accesses, a.WellFormed
  first : e.head = [] → ∀ a ∈ e.accesses.head?, a.isNamed = false

end Expression

end DocPath.Path
