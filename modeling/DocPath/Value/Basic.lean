import DocPath.Raised
import DocPath.Value.Atom
import DocPath.Value.Range

/-! Documents.

A document is nested data: leaves, sequences, mappings and objects with attributes. It may also
hold the marker that stands for what a path did not find. -/
namespace DocPath

inductive SequenceKind where
  | list
  | tuple
  /-- A queue that may have a limit to its length. -/
  | queue (limit : Option Nat)
  /-- A sequence of a type that no one else knows. -/
  | custom
  deriving DecidableEq

inductive MappingKind where
  | plain
  | ordered
  /-- A dictionary that could make values for absent keys, but is never asked to. The factory that
  would make them is an attribute like any other. -/
  | defaulting
  /-- A view of a dictionary. -/
  | proxy
  /-- A dictionary of a type of its own, which may have attributes besides. -/
  | extended
  /-- A mapping of a type that no one else knows. -/
  | custom
  /-- A mapping that claims to contain every key. -/
  | broken
  deriving DecidableEq

mutual

inductive Value where
  /-- What a path leads to when there is nothing. -/
  | missing
  | atom (a : Atom)
  /-- Octets that can be changed. -/
  | buffer (octets : List UInt8)
  | sequence (kind : SequenceKind) (items : List Value)
  /-- A sequence whose items also have names. -/
  | record (className : String) (fields : List (String × Value))
  | range (r : Range)
  | set (frozen : Bool) (members : List Value)
  /-- The keys are values too, no two of them the same. The attributes are those that are data. -/
  | mapping (kind : MappingKind) (entries : List (Value × Value))
      (attributes : List (String × Value))
  /-- An object: its getters, what is stored on itself, what it shares with its class, and what
  any other name leads to. -/
  | object (className : String) (getters own shared : List (String × Member))
      (fallback : Option Member)

/-- What the name of an attribute stands for. -/
inductive Member where
  | data (v : Value)
  /-- Code of the object, which is no data. -/
  | routine
  /-- Code that is run to get the data, and that fails. -/
  | failing (r : Raised)

end

namespace Value

def null : Value := .atom .null

def bool (b : Bool) : Value := .atom (.bool b)

def int (n : Int) : Value := .atom (.int n)

def text (s : String) : Value := .atom (.text s)

def list (items : List Value) : Value := .sequence .list items

/-- A queue of which only the last items within its limit are left. -/
def queue (limit : Option Nat) (items : List Value) : Value :=
  .sequence (.queue limit) (match limit with
    | none => items
    | some n => items.drop (items.length - n))

def isMissing : Value → Bool
  | .missing => true
  | _ => false

def isNull : Value → Bool
  | .atom .null => true
  | _ => false

end Value

end DocPath
