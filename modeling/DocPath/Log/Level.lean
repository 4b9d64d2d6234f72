/-! Levels of the log. Some have names, two of them two; any integer is a level. -/
namespace DocPath.Log

def levels : List (String × Int) :=
  [("NOTSET", 0), ("DEBUG", 10), ("INFO", 20), ("WARN", 30), ("WARNING", 30), ("ERROR", 40),
    ("FATAL", 50), ("CRITICAL", 50)]

def levelNumber? (name : String) : Option Int := levels.lookup name

/-- The level of the events of this library. -/
def debug : Int := 10

/-- The level below which a logger without one stays silent. -/
def warning : Int := 30

def levelName (n : Int) : String :=
  if n = 0 then "NOTSET"
  else if n = 10 then "DEBUG"
  else if n = 20 then "INFO"
  else if n = 30 then "WARNING"
  else if n = 40 then "ERROR"
  else if n = 50 then "CRITICAL"
  else "Level " ++ toString n

/-- How the name of a level is set off on a terminal. -/
def styles : List (String × String) :=
  [("DEBUG", "dim"), ("INFO", "green"), ("WARNING", "yellow"), ("ERROR", "red"),
    ("CRITICAL", "bold red")]

def levelStyle? (name : String) : Option String := styles.lookup name

end DocPath.Log
