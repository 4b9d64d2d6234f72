import DocPath.Log.Level
import DocPath.Log.Template
import DocPath.Text.Columns
import DocPath.Text.Pieces

/-! Records of the log, and their lines on a console.

A line gives the name of the level, padded to a column, the message, and where it was written. A
console drops the characters that would move it, and fills tabs up to the next stop; it never
breaks a line on its own. -/
namespace DocPath.Log

structure Record where
  level : Int
  pathname : String
  line : Int
  template : String
  args : List Value

/-! ### Text on a console -/

/-- Bell, backspace, vertical tab, form feed and return. -/
def isDropped (c : Char) : Bool := [0x07, 0x08, 0x0B, 0x0C, 0x0D].contains c.toNat

def printed (s : String) : String := String.ofList (s.toList.filter (!isDropped ·))

/-- The columns that the name of a level takes at least. -/
def headingWidth : Nat := 8

/-- The name of a level with the blanks that fill its columns. -/
def heading (level : Int) : String :=
  let name := levelName level
  name ++ String.ofList (List.replicate (headingWidth - name.length) ' ')

/-- The level and the message, before tabs are filled. -/
def plainLine (level : Int) (message : String) : String :=
  heading level ++ " " ++ printed message

def tabStop : Nat := 8

/-- A line as a console writes it. -/
def consoleLine (text : String) : String :=
  String.ofList (Text.expandTabs tabStop (.fresh 0) text.toList) ++ "\n"

/-- The line of a message without its place. -/
def messageLine (level : Int) (message : String) : String := consoleLine (plainLine level message)

/-! ### Whole records -/

/-- The last component of a path of files. Empty ones and single dots are none. -/
def fileName (pathname : String) : String :=
  let components := (Text.pieces '/' pathname.toList).filter fun c => c ≠ [] && c ≠ ['.']
  String.ofList (components.getLastD [])

structure Span where
  start : Nat
  stop : Nat
  style : String
  deriving DecidableEq

namespace Record

def message (r : Record) : Except TemplateError String := fillTemplate r.template r.args

def location (r : Record) : String := "[" ++ fileName r.pathname ++ ":" ++ toString r.line ++ "]"

/-- The name of a level is set off if it has a style. -/
def spans (r : Record) : List Span :=
  match levelStyle? (levelName r.level) with
  | some style => [⟨0, (heading r.level).length, style⟩]
  | none => []

/-- What becomes of a record on a console: its text, what of it is set off, and the line. -/
structure Rendered where
  plain : String
  spans : List Span
  output : String

def render (r : Record) : Except TemplateError Rendered := do
  let plain := plainLine r.level (← r.message)
  return ⟨plain, r.spans, consoleLine (plain ++ " " ++ printed r.location)⟩

end Record

end DocPath.Log
