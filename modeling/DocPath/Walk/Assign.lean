import DocPath.Walk.Basic

/-! Assigning inside a document.

The place is found as a walk finds it, and the container there is changed where it stands: a
change goes through everything the walk went through, fixed or not. -/
namespace DocPath

/-! ### A change under one key -/

def modifyEntry (kind : MappingKind) (entries : List (Value × Value)) (key : String)
    (f : Value → Value) : List (Value × Value) :=
  if (Entries.find? (.text key) entries).isSome || kind = .broken then
    Entries.modify (.text key) f entries
  else match numberOf key with
    | .ok (some n) => Entries.modify (.int n) f entries
    | _ => entries

def modifyItem (n : Nat) (f : Value → Value) : Value → Value
  | .sequence kind items => .sequence kind (items.modify n f)
  | .record className fields =>
    .record className (fields.modify n fun field => (field.1, f field.2))
  | v => v

/-- Changes the first field of a name. -/
def modifyField {α : Type} (name : String) (f : α → α) : List (String × α) → List (String × α)
  | [] => []
  | (n, a) :: rest => if n == name then (n, f a) :: rest else (n, a) :: modifyField name f rest

def modifyMember (f : Value → Value) : Member → Member
  | .data v => .data (f v)
  | m => m

def modifyAttribute (name : String) (f : Value → Value) : Value → Value
  | .object className getters own shared fallback =>
    match (getters ++ own ++ shared).lookup name with
    | none | some (.failing _) =>
      .object className getters own shared (fallback.map (modifyMember f))
    | some _ =>
      if (getters.lookup name).isSome then
        .object className (modifyField name (modifyMember f) getters) own shared fallback
      else if (own.lookup name).isSome then
        .object className getters (modifyField name (modifyMember f) own) shared fallback
      else .object className getters own (modifyField name (modifyMember f) shared) fallback
  | .record className fields => .record className (modifyField name f fields)
  | .mapping kind entries attributes => .mapping kind entries (modifyField name f attributes)
  | v => v

/-- Changes what a lookup of the key would find. -/
def modifyKey (adapters : List Adapter) (key : String) (f : Value → Value) (v : Value) : Value :=
  match adapters.find? (·.supports v), v with
  | some .mapping, .mapping kind entries attributes =>
    .mapping kind (modifyEntry kind entries key f) attributes
  | some .sequence, v => match numberOf key with
    | .ok (some n) => modifyItem n f v
    | _ => v
  | some .attribute, v => modifyAttribute key f v
  | _, v => v

/-- Changes what a walk along the keys would find. -/
def modifyAt (adapters : List Adapter) : List String → (Value → Value) → Value → Value
  | [], f, v => f v
  | key :: rest, f, v => modifyKey adapters key (modifyAt adapters rest f) v

/-! ### Assignment -/

/-- Enters a value into a plain dictionary. -/
def putEntry (key : String) (a : Value) : Value → Value
  | .mapping .plain entries attributes =>
    .mapping .plain (Entries.insert (.text key) a entries) attributes
  | v => v

/-- What an assignment replaced, and the document after it. -/
structure Assigned where
  before : Value
  document : Value

/-- Assigns the value at a path, if the container there is a plain dictionary. -/
def assign (adapters : List Adapter) (path : String) (a document : Value) :
    Trace Fault (Option Assigned) := do
  let parent ← Parent.find adapters path document
  match parent.value with
  | .mapping .plain _ _ =>
    return some ⟨parent.child, modifyAt adapters parent.keys (putEntry parent.childKey a) document⟩
  | _ => return none

end DocPath
