import DocPath.Log.Record
import DocPath.Settings
import DocPath.Trace

/-! The logger, and what it writes.

A logger without a level of its own, which is level zero, lets warnings through. It writes to the
consoles installed on it; configuring it sets the level and installs a console unless there is
one. -/
namespace DocPath.Log

structure Logger where
  level : Int
  consoles : Nat
  deriving DecidableEq

/-- Why a level cannot be set. -/
inductive LevelError where
  | unknown (name : String)
  /-- Neither an integer nor a text; its text in messages. -/
  | unusable (text : String)
  deriving DecidableEq

def LevelError.kind : LevelError → String
  | .unknown _ => "ValueError"
  | .unusable _ => "TypeError"

def LevelError.message : LevelError → String
  | .unknown name => "Unknown level: " ++ Text.quoted name
  | .unusable text => "Level not an integer or a valid string: " ++ text

/-- The level that a value gives: an integer, or the name of a level in any case. -/
def levelOf : Value → Except LevelError Int
  | .atom (.text s) => match levelNumber? (Text.upper s) with
    | some n => .ok n
    | none => .error (.unknown (Text.upper s))
  | .atom (.int n) => .ok n
  | .atom (.bool b) => .ok b.toInt
  | v => .error (.unusable v.display)

namespace Logger

def name : String := "pathwalk"

def initial : Logger := ⟨0, 0⟩

/-- Sets the level, by default that of the settings, and sees to a console. A level that cannot
be set changes nothing. -/
def configure (l : Logger) (settings : Settings) (level : Option Value) :
    Except LevelError Logger := do
  let n ← levelOf (level.getD (.text settings.logLevel))
  return ⟨n, if l.consoles = 0 then 1 else l.consoles⟩

def effectiveLevel (l : Logger) : Int := if l.level = 0 then warning else l.level

/-- Whether a record of a level is written. One without a positive level never is. -/
def isEnabled (l : Logger) (level : Int) : Bool := 0 < level && l.effectiveLevel ≤ level

/-- What the consoles receive for a message. -/
def write (l : Logger) (level : Int) (message : String) : String :=
  if l.isEnabled level then String.join (List.replicate l.consoles (messageLine level message))
  else ""

def writeEvents (l : Logger) (events : List Event) : String :=
  String.join (events.map fun e => l.write debug e.message)

/-- What the consoles receive for a template; nothing, if its arguments do not fit. -/
def log (l : Logger) (level : Int) (template : String) (args : List Value) : String :=
  match fillTemplate template args with
  | .ok message => l.write level message
  | .error _ => ""

end Logger

end DocPath.Log
