import DocPath.Path.Expression
import DocPath.Text.Quoted

/-! Paths from keys.

The first key is written bare. Each later one is written as a name after a dot if it is one, in
brackets if it is a number, and quoted in brackets if quotes can hold it; any other key has no
path. -/
namespace DocPath.Path

/-- Why a list of keys has no path. -/
inductive FormatError where
  /-- A text was given in place of a list of keys. -/
  | text
  /-- What was given has no length; its type is named. -/
  | noLength (typeName : String)
  /-- A range was given that is too long to be measured. -/
  | tooLong
  /-- A key is no text; its type is named. -/
  | notText (typeName : String)
  /-- The first key cannot stand bare. -/
  | head (key : String)
  | inexpressible (key : String)
  deriving DecidableEq

def FormatError.kind : FormatError → String
  | .text | .noLength _ | .notText _ => "TypeError"
  | .tooLong => "OverflowError"
  | .head _ | .inexpressible _ => "ValueError"

def FormatError.message : FormatError → String
  | .text => "format_path expects a sequence of keys, not a string"
  | .noLength typeName => "object of type '" ++ typeName ++ "' has no len()"
  | .tooLong => "Python int too large to convert to C ssize_t"
  | .notText typeName => "path keys must be strings; got " ++ typeName
  | .head key => "first key " ++ Text.quoted key ++ " must be made of identifier characters"
  | .inexpressible key => "key " ++ Text.quoted key ++ " can not be expressed as a path"

/-- The first key of a path. A bracket there would be read as a key of its own before it. -/
def renderHead (key : List Char) : Except FormatError (List Char) :=
  if !key.isEmpty && key.all isNameChar then .ok key else .error (.head (String.ofList key))

/-- How a key that is not the first is accessed, if it can be. -/
def access? (key : List Char) : Option Access :=
  if isName key then some (.name key)
  else if isNumeral key then some (.index key)
  else if isQuotable key then some (.quoted '"' '"' key)
  else none

def renderAccess (key : List Char) : Except FormatError (List Char) :=
  match access? key with
  | some a => .ok a.render
  | none => .error (.inexpressible (String.ofList key))

def renderAccesses : List (List Char) → Except FormatError (List Char)
  | [] => .ok []
  | key :: rest => do return (← renderAccess key) ++ (← renderAccesses rest)

/-- The path of keys of which the first is not empty. -/
def renderKeys : List (List Char) → Except FormatError (List Char)
  | [] => .ok []
  | key :: rest => do return (← renderHead key) ++ (← renderAccesses rest)

/-- The path of a list of keys. No key at all, and the empty key alone, have the empty path. -/
def format (keys : List String) : Except FormatError String :=
  if keys = [] ∨ keys = [""] then .ok ""
  else (renderKeys (keys.map String.toList)).map String.ofList

end DocPath.Path
