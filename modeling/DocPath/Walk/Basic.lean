import DocPath.Path.Parse
import DocPath.Walk.Lookup

/-! Walking along a path.

A walk looks up one key after the other. Once it has found the marker for what is missing it
stops early, and an empty key ends it where it stands. -/
namespace DocPath

/-- A walk that looks up each key in the way given. -/
def walkBy (find : Value → String → Trace Fault Value) : List String → Value → Trace Fault Value
  | [], v => .pure v
  | key :: rest, v =>
    if key = "" then .pure v
    else if v.isMissing then do
      Trace.report (.missingBefore key)
      return .missing
    else do walkBy find rest (← find v key)

def walk (adapters : List Adapter) : List String → Value → Trace Fault Value :=
  walkBy (lookup adapters)

theorem walk_cons (adapters : List Adapter) (key : String) (rest : List String) (v : Value) :
    walk adapters (key :: rest) v =
      if key = "" then .pure v
      else if v.isMissing then do
        Trace.report (.missingBefore key)
        return .missing
      else lookup adapters v key >>= walk adapters rest := rfl

/-- The keys of a path, a refusal being a fault of the walk. -/
def keysFor (path : String) : Trace Fault (List String) := (Path.parse path).mapError .malformed

/-- The value at a path if keys are looked up in the way given. -/
def traverseBy (find : Value → String → Trace Fault Value) (path : String) (target : Value) :
    Trace Fault Value := do
  walkBy find (← keysFor path) target

/-- The value at a path inside a document. -/
def traverse (adapters : List Adapter) : String → Value → Trace Fault Value :=
  traverseBy (lookup adapters)

theorem traverse_eq (adapters : List Adapter) (path : String) (target : Value) :
    traverse adapters path target = keysFor path >>= fun keys => walk adapters keys target := rfl

/-- The container that a path leads into, and what it holds under the last key. -/
structure Parent where
  keys : List String
  value : Value
  childKey : String
  child : Value

def Parent.find (adapters : List Adapter) (path : String) (target : Value) :
    Trace Fault Parent := do
  let keys ← keysFor path
  if keys.head? = some "" then Trace.fail .selfReference
  else
    let childKey := keys.getLastD ""
    let value ← walk adapters keys.dropLast target
    let child ← lookup adapters value childKey
    return ⟨keys.dropLast, value, childKey, child⟩

end DocPath
