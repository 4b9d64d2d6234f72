import DocPath.KeyList
import DocPath.Manifest
import DocPath.Pair
import DocPath.Walk.Assign

/-! The operations of the library, as requests and their answers. -/
namespace DocPath

/-- What an operation runs under: the settings, and the document it is about unless it names
another. -/
structure Context where
  settings : Settings
  document : Value

/-- A document to walk, and the adapters to walk it with; each has a default. -/
structure Subject where
  target : Option Value
  adapters : Option (List Adapter)

def Subject.document (s : Subject) (c : Context) : Value := s.target.getD c.document

def Subject.adaptersIn (s : Subject) (c : Context) : List Adapter :=
  s.adapters.getD (Adapter.defaults c.settings.attributeAccess)

inductive Operation where
  | validate (path : String)
  | normalize (path : String)
  | parse (path : String)
  | format (keys : Value)
  /-- Formats keys and parses the path. -/
  | roundtrip (keys : Value)
  /-- Parses a path and formats its keys. -/
  | reformat (path : String)
  | traverse (path : String) (subject : Subject)
  | walk (keys : List String) (subject : Subject)
  | parent (path : String) (subject : Subject)
  | lookup (key : String) (subject : Subject)
  /-- Asks a single adapter. -/
  | consult (adapter : Adapter) (key : String) (target : Option Value)
  /-- Stores a report of a refusal and takes it out again. -/
  | restore (report : Path.Report)
  | settings (level flag : Option String)
  /-- Makes a pair, and may try to change it. -/
  | pair (keyType valueType : FieldType) (fields : List (String × Value)) (change : Option String)
  | marker
  | manifest
  | record (r : Log.Record)

inductive Failure where
  | fault (f : Fault)
  | format (e : Path.FormatError)
  | settings (e : SettingsError)
  | level (e : Log.LevelError)
  | flawed (flaws : List Pair.Flaw)
  /-- No scope is open that could be left. -/
  | noScope
  /-- No scope is open at the place given. -/
  | scopeOutOfRange

/-- The kind of a failure. Flaws have one each besides. -/
def Failure.kind : Failure → String
  | .fault f => f.kind
  | .format e => e.kind
  | .settings e => e.kind
  | .level e => e.kind
  | .flawed _ => "ValidationError"
  | .noScope | .scopeOutOfRange => "IndexError"

/-- The text of a failure; flaws have one each instead. -/
def Failure.message : Failure → String
  | .fault f => f.message
  | .format e => e.message
  | .settings e => e.message
  | .level e => e.message
  | .flawed flaws => "\n".intercalate (flaws.map (·.problem.message))
  | .noScope => "pop from empty list"
  | .scopeOutOfRange => "pop index out of range"

inductive Answer where
  | done
  | accepted
  | path (p : String)
  | keys (ks : List String)
  | formatted (keys : List String) (path : Except Path.FormatError String)
  | value (v : Value)
  | parent (p : Parent)
  /-- What an adapter found, if it supports the container. -/
  | consulted (found : Option Value)
  | restored (report : Path.Report) (same : Bool)
  | settings (s : Settings)
  | pair (p : Pair) (change : Option (List Pair.Flaw))
  /-- The marker's text and truth, whether its copies are itself, and whether it equals null. -/
  | marker (text : String) (truth : Bool) (same : List Bool) (equalsNull : Bool)
  | manifest (m : Manifest)
  | record (location : String) (rendered : Except Log.TemplateError Log.Record.Rendered)
  | logger (name : String)
  /-- An environment was left; an error on the way out goes on. -/
  | left (swallowed : Bool)
  | finished
  | adapters (as : List Adapter)
  | assigned (a : Option Assigned)

namespace Operation

/-- The outcome of changing a field of a pair. -/
def changed (p : Pair) (name : String) : List Pair.Flaw :=
  match p.assign name with
  | .ok _ => []
  | .error flaw => [flaw]

/-- A copy of the marker, a deep one, one stored and restored, and one made anew. -/
def markerCopies : List Value := [.missing, .missing, .missing, .missing]

/-- The marker counts as false where a truth value is wanted. -/
def markerTruth : Bool := false

def run (c : Context) : Operation → Trace Failure Answer
  | .validate path => do
    (Path.validate path).mapError fun r => .fault (.malformed r)
    return .accepted
  | .normalize path => return .path (Path.normalizeQuotes path)
  | .parse path => do return .keys (← (keysFor path).mapError .fault)
  | .format keys => do return .path (← (Trace.lift (KeyList.format keys)).mapError .format)
  | .roundtrip keys => do
    let path ← (Trace.lift (KeyList.format keys)).mapError .format
    let keys ← (keysFor path).mapError .fault
    return .formatted keys (.ok path)
  | .reformat path => do
    let keys ← (keysFor path).mapError .fault
    return .formatted keys (Path.format keys)
  | .traverse path s => do
    return .value (← (DocPath.traverse (s.adaptersIn c) path (s.document c)).mapError .fault)
  | .walk keys s => do
    return .value (← (DocPath.walk (s.adaptersIn c) keys (s.document c)).mapError .fault)
  | .parent path s => do
    return .parent (← (Parent.find (s.adaptersIn c) path (s.document c)).mapError .fault)
  | .lookup key s => do
    return .value (← (DocPath.lookup (s.adaptersIn c) (s.document c) key).mapError .fault)
  | .consult a key target => do
    let v := target.getD c.document
    if a.supports v then return .consulted (some (← (a.lookup v key).mapError .fault))
    else return .consulted none
  | .restore report =>
    let restored := Path.Report.ofFields report.toFields
    return .restored restored (restored == report)
  | .settings level flag => do
    return .settings (← (Trace.lift (Settings.ofEnvironment level flag)).mapError .settings)
  | .pair keyType valueType fields change => do
    let p ← (Trace.lift (Pair.ofFields keyType valueType fields)).mapError .flawed
    return .pair p (change.map (changed p))
  | .marker =>
    return .marker Value.missingText markerTruth (markerCopies.map Value.isMissing)
      Value.missing.isNull
  | .manifest => return .manifest .current
  | .record r => return .record r.location r.render

end Operation

end DocPath
