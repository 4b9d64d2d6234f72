import DocPath.Value.Basic

/-! Values as keys of a mapping and as members of a set.

Keys are compared by value. Names do not count, so a record is the same as the tuple of its items,
and the order of a frozen set does not either. An object is only the same as itself, hence never
the same as one written elsewhere; a container that can change is no key. -/
namespace DocPath

namespace Value

/-- The items of a tuple, with or without names. -/
def tuple? : Value → Option (List Value)
  | .sequence .tuple items => some items
  | .record _ fields => some (fields.map Prod.snd)
  | _ => none

/-- Whether there are as many values as tests, and each passes the test in its place. -/
def passAll : List (Value → Bool) → List Value → Bool
  | [], [] => true
  | test :: tests, v :: vs => test v && passAll tests vs
  | _, _ => false

/-- Whether there are as many values as tests, and each test is passed by one of them. -/
def passAny (tests : List (Value → Bool)) (vs : List Value) : Bool :=
  tests.length == vs.length && tests.all fun test => vs.any test

mutual

/-- Whether two keys are one. -/
def same : Value → Value → Bool
  | .missing, .missing => true
  | .atom a, .atom b => a.same b
  | .range r, .range s => r.same s
  | .sequence kind items, w => kind = .tuple && w.tuple?.any (passAll (itemTests items))
  | .record _ fields, w => w.tuple?.any (passAll (fieldTests fields))
  | .set frozen members, .set frozen' others =>
    frozen && frozen' && passAny (itemTests members) others
  | _, _ => false

/-- For each value the test of being the same as it. -/
def itemTests : List Value → List (Value → Bool)
  | [] => []
  | v :: vs => same v :: itemTests vs

def fieldTests : List (String × Value) → List (Value → Bool)
  | [] => []
  | (_, v) :: fields => same v :: fieldTests fields

end

end Value

/-! ### Entries of a mapping -/

namespace Entries

variable {α : Type}

/-- Enters an item: a key that is already there stays in its place and takes the new value. -/
def insert (key : Value) (a : α) : List (Value × α) → List (Value × α)
  | [] => [(key, a)]
  | (k, b) :: rest => if k.same key then (k, a) :: rest else (k, b) :: insert key a rest

def ofItems (items : List (Value × α)) : List (Value × α) :=
  items.foldl (fun entries item => insert item.1 item.2 entries) []

def find? (key : Value) : List (Value × α) → Option α
  | [] => none
  | (k, a) :: rest => if k.same key then some a else find? key rest

/-- Applies a function to the value of a key. -/
def modify (key : Value) (f : α → α) : List (Value × α) → List (Value × α)
  | [] => []
  | (k, a) :: rest => if k.same key then (k, f a) :: rest else (k, a) :: modify key f rest

end Entries

namespace Value

/-- A mapping from its items in the order of their insertion. -/
def map (kind : MappingKind) (items : List (Value × Value))
    (attributes : List (String × Value)) : Value :=
  .mapping kind (Entries.ofItems items) attributes

/-- A set of the given values, the first of those that are the same. -/
def setOf (frozen : Bool) (members : List Value) : Value :=
  .set frozen (members.foldl (fun seen v => if seen.any (·.same v) then seen else seen ++ [v]) [])

end Value

end DocPath
