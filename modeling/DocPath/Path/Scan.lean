import DocPath.Path.Alphabet
import DocPath.Path.Rejection

/-! The scanner of paths.

A path such as `a.b[0]["c-d"]` is read one character at a time. The state says what may come
next; the first character it does not allow ends the scan, and so does an end that comes too
early. -/
namespace DocPath.Path

namespace Scan

/-- Where the scanner stands between two characters. -/
inductive State where
  | start
  /-- In a name, or in the head of the path. -/
  | name
  /-- A dot was read: a name is due. -/
  | dot
  /-- A bracket was opened: a digit or a quote is due. -/
  | bracket
  /-- A quote was opened: the first character of its key is due. -/
  | quote
  /-- Inside a quoted key. -/
  | quoted
  /-- The quote was closed: its bracket has to follow. -/
  | unquoted
  /-- Inside a numeral. -/
  | numeral
  /-- A bracket was closed: a dot, a bracket or the end may follow. -/
  | closed
  deriving DecidableEq

/-- Reads a character outside of brackets; `dot` is what a dot leads to. -/
def bare (dot : Except Expectation State) (c : Char) : Except Expectation State :=
  if isNameChar c then .ok .name
  else if c = '.' then dot
  else if c = '[' then .ok .bracket
  else if c = ']' then .error .opening
  else if isQuote c then .error .quoteInBrackets
  else .error (.pathChar c)

def step : State → Char → Except Expectation State
  | .start, c => bare (.error .noLeadingDot) c
  | .name, c => bare (.ok .dot) c
  | .dot, c => if isNameStart c then .ok .name else .error .nameAfterDot
  | .bracket, c =>
    if isDigit c then .ok .numeral
    else if isQuote c then .ok .quote
    else .error .keyAfterBracket
  | .quote, c => if isNameStart c then .ok .quoted else .error .nameAfterQuote
  | .quoted, c =>
    if isQuote c then .ok .unquoted
    else if isSeparator c then .error .quotedText
    else .ok .quoted
  | .unquoted, c => if c = ']' then .ok .closed else .error .bracketAfterQuote
  | .numeral, c =>
    if isDigit c then .ok .numeral
    else if c = ']' then .ok .closed
    else if isPathChar c then .error .number
    else .error (.pathChar c)
  | .closed, c =>
    if c = '.' then .ok .dot
    else if c = '[' then .ok .bracket
    else .error .separatorAfterBracket

/-- What is still due if the path ends here; nothing, if it may end. -/
def due : State → Option Expectation
  | .start | .name | .closed => none
  | .dot => some .nameAfterDot
  | .bracket => some .keyAfterBracket
  | .quote => some .nameAfterQuote
  | .unquoted => some .bracketAfterQuote
  | .quoted | .numeral => some .closing

/-- Where and why a scan stopped. -/
structure Stop where
  index : Nat
  found : Option Char
  expected : Expectation
  deriving DecidableEq

/-- Scans the rest of a path, of which `index` characters are read. -/
def run (s : State) (index : Nat) : List Char → Except Stop Unit
  | [] => match due s with
    | none => .ok ()
    | some e => .error ⟨index, none, e⟩
  | c :: rest => match step s c with
    | .ok s' => run s' (index + 1) rest
    | .error e => .error ⟨index, some c, e⟩

end Scan

/-- Accepts a path, or says what is wrong with it. -/
def scan (path : String) : Except Rejection Unit :=
  match Scan.run .start 0 path.toList with
  | .ok () => .ok ()
  | .error stop => .error ⟨path, stop.index, stop.found, stop.expected⟩

def Accepted (path : String) : Prop := scan path = .ok ()

end DocPath.Path
