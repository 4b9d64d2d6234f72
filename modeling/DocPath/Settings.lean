import DocPath.Log.Level
import DocPath.Text.Blank
import DocPath.Text.Quoted
import DocPath.Text.Upper

/-! Settings, and how the environment chooses them.

Both variables may be unset or surrounded by blanks. The level is read first, so where both are
wrong it is the level that is complained about. -/
namespace DocPath

structure Settings where
  logLevel : String
  attributeAccess : Bool
  deriving DecidableEq

/-- Warnings and worse, and attributes are followed. -/
def Settings.initial : Settings := ⟨"WARNING", true⟩

inductive SettingsError where
  | level (got : String)
  | flag (got : String)
  deriving DecidableEq

def SettingsError.kind : SettingsError → String
  | .level _ | .flag _ => "ValueError"

def SettingsError.message : SettingsError → String
  | .level got => "PATHWALK_LOG_LEVEL must be a logging level name; got " ++ Text.quoted got
  | .flag got =>
    "PATHWALK_ATTRIBUTE_ACCESS must be a boolean (1/0/true/false/yes/no/on/off); got " ++
      Text.quoted got

namespace Settings

/-- The level of an environment: in upper case, and a known name. An empty variable counts as
unset; one of blanks alone does not. -/
def readLevel (given : Option String) : Except SettingsError String :=
  let raw := match given with
    | none => initial.logLevel
    | some s => if s = "" then initial.logLevel else s
  let level := Text.upper (Text.trim raw)
  if (Log.levelNumber? level).isSome then .ok level else .error (.level level)

def trueWords : List String := ["1", "true", "yes", "on"]

def falseWords : List String := ["0", "false", "no", "off"]

/-- The flag of an environment; blanks alone count as unset. -/
def readFlag (given : Option String) : Except SettingsError Bool :=
  match given with
  | none => .ok initial.attributeAccess
  | some raw =>
    let word := Text.lowerAscii (Text.trim raw)
    if word = "" then .ok initial.attributeAccess
    else if trueWords.contains word then .ok true
    else if falseWords.contains word then .ok false
    else .error (.flag raw)

def ofEnvironment (level flag : Option String) : Except SettingsError Settings := do
  let level ← readLevel level
  let flag ← readFlag flag
  return ⟨level, flag⟩

def display (s : Settings) : String :=
  "PathwalkConfig(log_level=" ++ Text.quoted s.logLevel ++ ", attribute_access=" ++
    (if s.attributeAccess then "True" else "False") ++ ")"

/-- The settings with some of them replaced. -/
def override (s : Settings) (logLevel : Option String) (attributeAccess : Option Bool) : Settings :=
  ⟨logLevel.getD s.logLevel, attributeAccess.getD s.attributeAccess⟩

end Settings

end DocPath
