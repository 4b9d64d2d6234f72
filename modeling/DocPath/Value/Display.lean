import DocPath.Value.Basic

/-! Values as messages show them: their text and the name of their type. -/
namespace DocPath

open Text (quoted bracketed)

def SequenceKind.typeName : SequenceKind → String
  | .list => "list"
  | .tuple => "tuple"
  | .queue _ => "deque"
  | .custom => "Sequence"

def MappingKind.typeName : MappingKind → String
  | .plain => "dict"
  | .ordered => "OrderedDict"
  | .defaulting => "defaultdict"
  | .proxy => "mappingproxy"
  | .extended | .custom | .broken => "Mapping"

def Atom.typeName : Atom → String
  | .null => "NoneType"
  | .bool _ => "bool"
  | .int _ => "int"
  | .float _ => "float"
  | .complex _ _ => "complex"
  | .text _ => "str"
  | .bytes _ => "bytes"

def Value.typeName : Value → String
  | .missing => "_PathMissing"
  | .atom a => a.typeName
  | .buffer _ => "bytearray"
  | .sequence kind _ => kind.typeName
  | .record className _ => className
  | .range _ => "range"
  | .set frozen _ => if frozen then "frozenset" else "set"
  | .mapping kind _ _ => kind.typeName
  | .object className _ _ _ _ => className

/-- The name of a type with that of the collection it belongs to. -/
def Value.qualifiedTypeName : Value → String
  | .sequence (.queue limit) _ => "collections." ++ (SequenceKind.queue limit).typeName
  | .mapping .ordered _ _ => "collections." ++ MappingKind.ordered.typeName
  | .mapping .defaulting _ _ => "collections." ++ MappingKind.defaulting.typeName
  | v => v.typeName

/-! ### Leaves -/

/-- The text of the marker for what was not found. -/
def Value.missingText : String := "PATH_MISSING"

/-- A part of a complex number: a whole number has no fraction. -/
def complexPart (text : String) : String :=
  let cs := text.toList
  if cs.drop (cs.length - 2) = ['.', '0'] then String.ofList (cs.take (cs.length - 2)) else text

def complexText (re im : String) : String :=
  let im := complexPart im ++ "j"
  if re = "0.0" then im
  else "(" ++ complexPart re ++ (if im.toList.head? = some '-' then "" else "+") ++ im ++ ")"

/-- An octet between quotes; only ASCII stands for itself. -/
def octetText (quote : Char) (octet : UInt8) : List Char :=
  if octet.toNat < 0x80 then Text.escape quote (Char.ofNat octet.toNat)
  else '\\' :: 'x' :: Text.hexDigits 2 octet.toNat

def octetsText (octets : List UInt8) : String :=
  let quote := Text.quoteFor (octets.map fun o => Char.ofNat o.toNat)
  "b" ++ String.ofList (quote :: octets.flatMap (octetText quote) ++ [quote])

def Atom.display : Atom → String
  | .null => "None"
  | .bool b => if b then "True" else "False"
  | .int n => toString n
  | .float t => t
  | .complex re im => complexText re im
  | .text s => quoted s
  | .bytes octets => octetsText octets

/-! ### Containers -/

/-- Items between parentheses; a single one keeps its comma. -/
def tupleText : List String → String
  | [item] => "(" ++ item ++ ",)"
  | items => bracketed "(" items ")"

def setText (frozen : Bool) (members : List String) : String :=
  match frozen, members with
  | false, [] => "set()"
  | true, [] => "frozenset()"
  | false, _ => bracketed "\x7b" members "\x7d"
  | true, _ => bracketed "frozenset(\x7b" members "\x7d)"

def rangeText (r : Range) : String :=
  let bounds := [r.start, r.stop] ++ if r.step = 1 then [] else [r.step]
  bracketed "range(" (bounds.map toString) ")"

def SequenceKind.display (kind : SequenceKind) (items : List String) : String :=
  match kind with
  | .list => bracketed "[" items "]"
  | .tuple => tupleText items
  | .queue none => bracketed "deque([" items "])"
  | .queue (some limit) => bracketed "deque([" items ("], maxlen=" ++ toString limit ++ ")")
  | .custom => bracketed "Sequence([" items "])"

/-- Entries as a dictionary shows them, or as a list of pairs. -/
def MappingKind.display (kind : MappingKind) (entries : List (String × String)) : String :=
  let plain := bracketed "\x7b" (entries.map fun e => e.1 ++ ": " ++ e.2) "\x7d"
  match kind with
  | .plain | .extended => plain
  | .ordered =>
    if entries.isEmpty then kind.typeName ++ "()"
    else bracketed (kind.typeName ++ "([") (entries.map fun e => tupleText [e.1, e.2]) "])"
  | .defaulting => kind.typeName ++ "(<class 'list'>, " ++ plain ++ ")"
  | .proxy | .custom | .broken => kind.typeName ++ "(" ++ plain ++ ")"

namespace Value

mutual

def display : Value → String
  | .missing => missingText
  | .atom a => a.display
  | .buffer octets => "bytearray(" ++ octetsText octets ++ ")"
  | .sequence kind items => kind.display (displayAll items)
  | .record className fields => bracketed (className ++ "(") (displayFields fields) ")"
  | .range r => rangeText r
  | .set frozen members => setText frozen (displayAll members)
  | .mapping kind entries _ => kind.display (displayEntries entries)
  | .object className _ _ _ _ => "<" ++ className ++ " object>"

def displayAll : List Value → List String
  | [] => []
  | v :: rest => display v :: displayAll rest

def displayFields : List (String × Value) → List String
  | [] => []
  | (name, v) :: rest => (name ++ "=" ++ display v) :: displayFields rest

def displayEntries : List (Value × Value) → List (String × String)
  | [] => []
  | (k, v) :: rest => (display k, display v) :: displayEntries rest

end

end Value

end DocPath
