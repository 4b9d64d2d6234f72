/-! Why a path is refused.

A refusal names the first character that no accepted path could have there, or the end of the
path where more was due, together with what was expected instead. -/
namespace DocPath.Path

/-- What the scanner wanted where it stopped. -/
inductive Expectation where
  /-- The character belongs to no path outside of quotes. -/
  | pathChar (c : Char)
  /-- A dot opened the path. -/
  | noLeadingDot
  /-- A bracket closed that none opened. -/
  | opening
  /-- A quote stood outside of brackets. -/
  | quoteInBrackets
  | nameAfterDot
  | keyAfterBracket
  | nameAfterQuote
  | quotedText
  | bracketAfterQuote
  | number
  | separatorAfterBracket
  | closing
  deriving DecidableEq

def Expectation.message : Expectation → String
  | .pathChar c => "character " ++ c.toString ++ " is not a valid character"
  | .noLeadingDot => "path may not start with a dot"
  | .opening => "expected [ to precede"
  | .quoteInBrackets => "\" is only allowed inside of brackets"
  | .nameAfterDot => "expected a letter or underscore to follow a dot"
  | .keyAfterBracket => "expected number or \" to follow a ["
  | .nameAfterQuote => "expected a letter or underscore to follow a \""
  | .quotedText => "expected letter, number or underscore inside of string"
  | .bracketAfterQuote => "expected ] to follow \""
  | .number => "number expected inside of brackets"
  | .separatorAfterBracket => "expected . or [ to follow ]"
  | .closing => "unterminated bracket"

/-- A refused path: where, at which character (none at the end), and what was expected. -/
structure Rejection where
  path : String
  index : Nat
  found : Option Char
  expected : Expectation
  deriving DecidableEq

/-! ### The report of a refusal -/

/-- A report of a refusal by its bare fields. Nothing ties them together, so that a report may
also be put together by hand. -/
structure Report where
  path : String
  index : Int
  char : Option String
  expected : String
  deriving DecidableEq

/-- The kind of failure that a report is. -/
def Report.kind : String := "GrammarError"

def Report.message (r : Report) : String :=
  let found := match r.char with
    | none => "Unexpected end of path"
    | some c => "Invalid character \"" ++ c ++ "\""
  found ++ " at position " ++ toString r.index ++ " in \"" ++ r.path ++ "\", " ++ r.expected

/-- The fields a stored report consists of. -/
abbrev Report.Fields := String × Int × Option String × String

def Report.toFields (r : Report) : Report.Fields := (r.path, r.index, r.char, r.expected)

def Report.ofFields : Report.Fields → Report
  | (path, index, char, expected) => ⟨path, index, char, expected⟩

@[simp] theorem Report.ofFields_toFields (r : Report) : ofFields r.toFields = r := rfl

def Rejection.report (r : Rejection) : Report :=
  ⟨r.path, r.index, r.found.map Char.toString, r.expected.message⟩

end DocPath.Path
