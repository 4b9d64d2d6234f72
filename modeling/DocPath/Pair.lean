import DocPath.Value.Basic

/-! Pairs of a key and a value.

A pair is made from named fields, each of a declared type, and cannot be changed afterwards. All
that is wrong with the fields is told at once: the key first, then the value, then names that do
not belong there. -/
namespace DocPath

/-- The type declared for a field. -/
inductive FieldType where
  | any
  | text
  | texts
  deriving DecidableEq

namespace Pair

inductive Problem where
  | required
  | notText
  /-- Octets that are no text. -/
  | notUnicode
  | notList
  | extra
  | frozen
  deriving DecidableEq

def Problem.kind : Problem → String
  | .required => "missing"
  | .notText => "string_type"
  | .notUnicode => "string_unicode"
  | .notList => "list_type"
  | .extra => "extra_forbidden"
  | .frozen => "frozen_instance"

def Problem.message : Problem → String
  | .required => "Field required"
  | .notText => "Input should be a valid string"
  | .notUnicode => "Input should be a valid string, unable to parse raw data as a unicode string"
  | .notList => "Input should be a valid list"
  | .extra => "Extra inputs are not permitted"
  | .frozen => "Instance is frozen"

/-- Something wrong with a field, or with one item of it. -/
structure Flaw where
  field : String
  item : Option Nat
  problem : Problem
  deriving DecidableEq

/-! ### One field -/

/-- A text, or the octets of one. -/
def readText : Value → Except Problem String
  | .atom (.text s) => .ok s
  | .atom (.bytes octets) | .buffer octets =>
    match String.fromUTF8? ⟨octets.toArray⟩ with
    | some s => .ok s
    | none => .error .notUnicode
  | _ => .error .notText

/-- The items of what can stand in for a list. -/
def readItems : Value → Option (List Value)
  | .sequence _ items => some items
  | .record _ fields => some (fields.map Prod.snd)
  | .range r => some (r.toList.map .int)
  | .set _ members => some members
  | _ => none

/-- The texts among the items, and what is wrong with the others; `n` items come before. -/
def readTexts (field : String) (n : Nat) : List Value → List Flaw × List Value
  | [] => ([], [])
  | v :: rest => match readText v, readTexts field (n + 1) rest with
    | .ok s, (flaws, texts) => (flaws, .text s :: texts)
    | .error p, (flaws, texts) => (⟨field, some n, p⟩ :: flaws, texts)

/-- A value read as its declared type. A list of texts may be given as any sequence or set. -/
def readAs (field : String) (type : FieldType) (v : Value) : Except (List Flaw) Value :=
  match type with
  | .any => .ok v
  | .text => match readText v with
    | .ok s => .ok (.text s)
    | .error p => .error [⟨field, none, p⟩]
  | .texts => match readItems v with
    | none => .error [⟨field, none, .notList⟩]
    | some items => match readTexts field 0 items with
      | ([], texts) => .ok (.list texts)
      | (flaws, _) => .error flaws

def readField (fields : List (String × Value)) (name : String) (type : FieldType) :
    Except (List Flaw) Value :=
  match fields.lookup name with
  | none => .error [⟨name, none, .required⟩]
  | some v => readAs name type v

end Pair

/-! ### The pair -/

structure Pair where
  key : Value
  value : Value

namespace Pair

/-- The flaws of a reading; none, if it succeeded. -/
def flawsOf : Except (List Flaw) Value → List Flaw
  | .ok _ => []
  | .error flaws => flaws

def ofFields (keyType valueType : FieldType) (fields : List (String × Value)) :
    Except (List Flaw) Pair :=
  let key := readField fields "key" keyType
  let value := readField fields "value" valueType
  let others := (fields.map Prod.fst).filter fun name => name ≠ "key" && name ≠ "value"
  let extras := others.map fun name => (⟨name, none, .extra⟩ : Flaw)
  match key, value, extras with
  | .ok k, .ok v, [] => .ok ⟨k, v⟩
  | _, _, _ => .error (flawsOf key ++ flawsOf value ++ extras)

/-- Changing a pair fails, whatever the name. -/
def assign (_ : Pair) (name : String) : Except Flaw Pair := .error ⟨name, none, .frozen⟩

end Pair

end DocPath
