/-! The characters of a path.

A path is written in ASCII outside of quotes: names, digits, a dot and brackets. Either quote may
open or close a quoted key; the double one is the canonical spelling. -/
namespace DocPath.Path

def isDigit (c : Char) : Bool := c.isDigit

def isLetter (c : Char) : Bool := c.isAlpha

def isNameStart (c : Char) : Bool := isLetter c || c == '_'

def isNameChar (c : Char) : Bool := isNameStart c || isDigit c

def isQuote (c : Char) : Bool := c == '"' || c == '\x27'

/-- A dot or a bracket: what divides a path into its keys. -/
def isSeparator (c : Char) : Bool := c == '.' || c == '[' || c == ']'

/-- What may stand outside of quotes, and the quotes themselves. -/
def isPathChar (c : Char) : Bool := isNameChar c || isSeparator c || isQuote c

/-- The canonical spelling of a character: a single quote becomes a double one. -/
def canonical (c : Char) : Char := if c = '\x27' then '"' else c

def canonicalChars (cs : List Char) : List Char := cs.map canonical

/-- A path with every single quote replaced by a double one. -/
def normalizeQuotes (path : String) : String := String.ofList (canonicalChars path.toList)

/-- A non-empty name: a letter or underscore, then letters, digits and underscores. -/
def isName : List Char → Bool
  | [] => false
  | c :: rest => isNameStart c && rest.all isNameChar

/-- A non-empty run of digits. -/
def isNumeral (cs : List Char) : Bool := !cs.isEmpty && cs.all isDigit

/-- The ASCII characters of a class, in ascending order. -/
def members (p : Char → Bool) : String :=
  String.ofList (((List.range 128).map Char.ofNat).filter p)

end DocPath.Path
