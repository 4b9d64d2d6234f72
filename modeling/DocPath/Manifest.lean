import DocPath.Log.Logger
import DocPath.Path.Alphabet

/-! What the library tells about itself. -/
namespace DocPath

structure Manifest where
  letters : String
  digits : String
  nameStarts : String
  pathChars : String
  quote : String
  version : String
  logger : String
  exports : List String

/-- The sets of characters are in canonical spelling: a single quote is none of them. -/
def Manifest.current : Manifest where
  letters := Path.members Path.isLetter
  digits := Path.members Path.isDigit
  nameStarts := Path.members Path.isNameStart
  pathChars := Path.members fun c => Path.isPathChar c && Path.canonical c == c
  quote := "\""
  version := "0.1.0"
  logger := Log.Logger.name
  exports := [
    "AttributeAdapter", "GrammarError", "KeyAdapter", "KeyValuePair", "MappingAdapter",
    "PATHWALK_CONFIG", "PATH_MISSING", "ParentTraversal", "PathwalkConfig", "PathwalkError",
    "SequenceAdapter", "TraversalError", "__version__", "configure_logging", "default_adapters",
    "format_path", "get_logger", "lookup_key", "normalize_quotes", "parse", "traverse",
    "traverse_by_keys", "traverse_to_parent", "validate_path"]

end DocPath
