import DocPath.Path.Scan
import DocPath.Text.Pieces
import DocPath.Trace

/-! The keys of a path.

An accepted path is cut at its dots and opening brackets, and each piece loses its closing
bracket and its quotes. What the scanner refuses inside of brackets makes this right: no piece of
an accepted path holds a separator of its own. -/
namespace DocPath.Path

/-- Removes the last character, if it is the given one. -/
def dropLastIf (c : Char) (cs : List Char) : List Char :=
  if cs.getLast? = some c then cs.dropLast else cs

/-- Removes a pair of double quotes around a text. -/
def unquote (cs : List Char) : List Char :=
  if 2 ≤ cs.length ∧ cs.head? = some '"' ∧ cs.getLast? = some '"' then cs.tail.dropLast else cs

def keyOfPiece (piece : List Char) : List Char := unquote (dropLastIf ']' piece)

/-- The keys of a path in canonical spelling, taken to be accepted. -/
def keysOf (cs : List Char) : List (List Char) :=
  ((Text.pieces '.' cs).flatMap (Text.pieces '[')).map keyOfPiece

/-- Accepts a path; a refusal is reported. -/
def validate (path : String) : Trace Rejection Unit :=
  match scan path with
  | .ok () => .pure ()
  | .error r => ⟨[.rejected path r.index], .error r⟩

/-- The keys of a path in order. The empty path has one key, which is empty: it leads from a
document to itself. -/
def parse (path : String) : Trace Rejection (List String) := do
  validate path
  let canonicalPath := normalizeQuotes path
  let keys := (keysOf canonicalPath.toList).map String.ofList
  Trace.report (.parsed canonicalPath keys)
  return keys

end DocPath.Path
