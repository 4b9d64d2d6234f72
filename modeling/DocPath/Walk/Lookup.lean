import DocPath.Fault
import DocPath.Path.Alphabet
import DocPath.Text.Decimal
import DocPath.Trace
import DocPath.Value.Key

/-! Looking up one key.

An adapter knows one way into a container: by the keys of a mapping, by the positions of a
sequence, or by the attributes of an object. The first adapter that supports a container decides;
where none does, and where the key is not there, the lookup finds the marker for what is
missing.

Two things a lookup does not do itself: it has texts read as numbers, and it has the items of
sequences fetched by their positions. It is defined over any way to do these (`Primitives`), and
`lookup` is the one with the standard way. -/
namespace DocPath

inductive Adapter where
  | mapping
  | sequence
  | attribute
  deriving DecidableEq

/-! ### What a lookup leaves to others -/

/-- How texts are read as numbers, and how the items of sequences are fetched. -/
structure Primitives where
  number : String → Except Fault Nat
  item : Value → Nat → Except Fault Value

namespace Primitives

/-- Digits are those of ASCII. A numeral beyond the limit is refused even where its leading digits
are zeros. -/
def standard : Primitives where
  number key :=
    if digitLimit < key.length then .error (.tooManyDigits key.length)
    else .ok (Text.digitsValue key.toList)
  item v n := .ok <| match v with
    | .sequence _ items => items[n]?.getD .missing
    | .record _ fields => (fields[n]?.map Prod.snd).getD .missing
    | .range r => .int (r.get n)
    | _ => .missing

variable (p : Primitives)

/-- The number that a key spells, none if it is no numeral. -/
def numberOf (key : String) : Except Fault (Option Nat) :=
  if Path.isNumeral key.toList then (p.number key).map some else .ok none

/-- The entry of a mapping under a text key, or else under the number that the text spells. -/
def entryOf (kind : MappingKind) (entries : List (Value × Value)) (key : String) :
    Except Fault Value :=
  match Entries.find? (.text key) entries with
  | some v => .ok v
  | none =>
    if kind = .broken then .error (.keyNotFound key)
    else do match ← p.numberOf key with
      | some n => return (Entries.find? (.int n) entries).getD .missing
      | none => return .missing

/-- The number of items of a sequence. A range may have more than can be counted. -/
def size : Value → Except Fault Nat
  | .sequence _ items => .ok items.length
  | .record _ fields => .ok fields.length
  | .range r => if lengthLimit < r.length then .error .rangeTooLong else .ok r.length
  | _ => .ok 0

/-- The item of a sequence at a position, which is compared with the size before the item is
fetched. -/
def itemOf (n : Nat) (v : Value) : Except Fault Value := do
  if (← size v) ≤ n then return .missing else p.item v n

/-- Numerals are read as they should be, and positions within a sequence have their items. Nothing
is said of any other text or position. -/
structure Sound (p : Primitives) : Prop where
  number : ∀ key, Path.isNumeral key.toList = true →
    p.number key = if digitLimit < key.length then .error (.tooManyDigits key.length)
      else .ok (Text.digitsValue key.toList)
  sequence : ∀ kind items n v, items[n]? = some v → p.item (.sequence kind items) n = .ok v
  record : ∀ className fields n field, fields[n]? = some field →
    p.item (.record className fields) n = .ok field.2
  range : ∀ r n, n < r.length → p.item (.range r) n = .ok (.int (r.get n))

theorem sound_standard : standard.Sound where
  number _ _ := rfl
  sequence kind items n v h := by simp [standard, h]
  record className fields n field h := by simp [standard, h]
  range _ _ _ := rfl

/-- Within its length a list has an item at every position. -/
theorem fetch_eq {α : Type} (items : List α) (n : Nat) (value : α → Value)
    {fetched : Except Fault Value} (h : ∀ x, items[n]? = some x → fetched = .ok (value x)) :
    (if items.length ≤ n then .ok .missing else fetched) =
      .ok ((items[n]?.map value).getD .missing) := by
  by_cases hout : items.length ≤ n
  · rw [if_pos hout, List.getElem?_eq_none hout]
    rfl
  · have hin := List.getElem?_eq_getElem (Nat.lt_of_not_le hout)
    rw [if_neg hout, h _ hin, hin]
    rfl

variable {p} (h : p.Sound)

include h

theorem Sound.numberOf_eq (key : String) :
    p.numberOf key =
      if Path.isNumeral key.toList then
        if digitLimit < key.length then .error (.tooManyDigits key.length)
        else .ok (some (Text.digitsValue key.toList))
      else .ok none := by
  rw [numberOf]
  by_cases hnumeral : Path.isNumeral key.toList = true
  · rw [if_pos hnumeral, if_pos hnumeral, h.number key hnumeral]
    split <;> rfl
  · rw [if_neg hnumeral, if_neg hnumeral]

/-- Beyond the last item there is nothing. A range may be too long to look. -/
theorem Sound.itemOf_eq (n : Nat) (v : Value) :
    p.itemOf n v =
      match v with
      | .sequence _ items => .ok (items[n]?.getD .missing)
      | .record _ fields => .ok ((fields[n]?.map Prod.snd).getD .missing)
      | .range r =>
        if lengthLimit < r.length then .error .rangeTooLong
        else .ok (if n < r.length then .int (r.get n) else .missing)
      | _ => .ok .missing := by
  cases v with
  | sequence kind items =>
    have hfetch := fetch_eq items n id (h.sequence kind items n)
    rwa [Option.map_id_fun, id] at hfetch
  | record className fields => exact fetch_eq fields n Prod.snd (h.record className fields n)
  | range r =>
    rw [itemOf, size]
    by_cases hlong : lengthLimit < r.length
    · rw [if_pos hlong]
      show Except.error Fault.rangeTooLong = if lengthLimit < r.length then _ else _
      rw [if_pos hlong]
    · rw [if_neg hlong]
      show (if r.length ≤ n then _ else _) = if lengthLimit < r.length then _ else _
      rw [if_neg hlong]
      by_cases hin : n < r.length
      · rw [if_neg (Nat.not_le.mpr hin), if_pos hin, h.range r n hin]
      · rw [if_pos (Nat.le_of_not_lt hin), if_neg hin]
        rfl
  | _ => rfl

end Primitives

/-! ### Attributes -/

/-- What a name stands for on an object: its getter, what is stored on the object, or what it shares
with its class. Where there is nothing of these, and where the getter finds no such attribute, it is
the fallback. -/
def memberOf (getters own shared : List (String × Member)) (fallback : Option Member)
    (name : String) : Option Member :=
  match (getters ++ own ++ shared).lookup name with
  | some (.failing r) => if r.family = .absence then fallback else some (.failing r)
  | some m => some m
  | none => fallback

/-- The data a member stands for. Code is no data, and neither is a getter that fails. A failure is
noted unless it is for want of the attribute, and only a fatal one goes through. -/
def dataOf (className name : String) : Member → Trace Fault Value
  | .data v => .pure v
  | .routine => .pure .missing
  | .failing r => match r.family with
    | .absence => .pure .missing
    | .ordinary => ⟨[.getterFailed name className r], .ok .missing⟩
    | .fatal => .fail (.interrupted r)

/-- Names that the attribute adapter never reads. -/
def isPrivate (name : String) : Bool := name.toList.head? == some '_'

/-- A public attribute of a container. Records, queues and ranges have those of their kind, and a
mapping has those it is given with. So the factory of a defaulting mapping is found if it is given
with it, and nothing is found otherwise. All else that these containers have is code. -/
def attributeOf (name : String) : Value → Trace Fault Value
  | .object className getters own shared fallback =>
    match memberOf getters own shared fallback name with
    | some m => dataOf className name m
    | none => .pure .missing
  | .record _ fields => .pure ((fields.lookup name).getD .missing)
  | .mapping _ _ attributes => .pure ((attributes.lookup name).getD .missing)
  | .sequence (.queue limit) _ =>
    .pure (if name = "maxlen" then limit.elim .null (fun n => .int n) else .missing)
  | .range r =>
    .pure (if name = "start" then .int r.start
      else if name = "stop" then .int r.stop
      else if name = "step" then .int r.step
      else .missing)
  | _ => .pure .missing

namespace Adapter

def supports : Adapter → Value → Bool
  | .mapping, .mapping _ _ _ => true
  | .mapping, _ => false
  | .sequence, .sequence _ _ | .sequence, .record _ _ | .sequence, .range _ => true
  | .sequence, _ => false
  | .attribute, .missing | .attribute, .atom _ | .attribute, .buffer _ => false
  | .attribute, _ => true

/-- The adapters in use where none are asked for. -/
def defaults (attributeAccess : Bool) : List Adapter :=
  [.mapping, .sequence] ++ if attributeAccess then [.attribute] else []

end Adapter

/-! ### Lookups -/

namespace Primitives

variable (p : Primitives)

/-- Looks a key up in a container that the adapter supports. -/
def lookupIn (a : Adapter) (v : Value) (key : String) : Trace Fault Value :=
  match a, v with
  | .mapping, .mapping kind entries _ => .lift (p.entryOf kind entries key)
  | .mapping, _ => .pure .missing
  | .sequence, v => .lift do match ← p.numberOf key with
    | some n => p.itemOf n v
    | none => return .missing
  | .attribute, v =>
    if key = "" || isPrivate key then .pure .missing else attributeOf key v

/-- Looks a key up by the first adapter that supports the container. None supports the marker
for what is missing. -/
def lookup (adapters : List Adapter) (v : Value) (key : String) : Trace Fault Value :=
  match adapters.find? (·.supports v) with
  | some a => p.lookupIn a v key
  | none => .pure .missing

end Primitives

/-! ### Lookups with the standard primitives -/

def numberOf : String → Except Fault (Option Nat) := Primitives.standard.numberOf

def entryOf : MappingKind → List (Value × Value) → String → Except Fault Value :=
  Primitives.standard.entryOf

def itemOf : Nat → Value → Except Fault Value := Primitives.standard.itemOf

def Adapter.lookup : Adapter → Value → String → Trace Fault Value := Primitives.standard.lookupIn

def lookup : List Adapter → Value → String → Trace Fault Value := Primitives.standard.lookup

theorem numberOf_eq (key : String) :
    numberOf key =
      if Path.isNumeral key.toList then
        if digitLimit < key.length then .error (.tooManyDigits key.length)
        else .ok (some (Text.digitsValue key.toList))
      else .ok none :=
  Primitives.sound_standard.numberOf_eq key

theorem entryOf_eq (kind : MappingKind) (entries : List (Value × Value)) (key : String) :
    entryOf kind entries key =
      match Entries.find? (.text key) entries with
      | some v => .ok v
      | none =>
        if kind = .broken then .error (.keyNotFound key)
        else do match ← numberOf key with
          | some n => return (Entries.find? (.int n) entries).getD .missing
          | none => return .missing := rfl

theorem itemOf_eq (n : Nat) (v : Value) :
    itemOf n v =
      match v with
      | .sequence _ items => .ok (items[n]?.getD .missing)
      | .record _ fields => .ok ((fields[n]?.map Prod.snd).getD .missing)
      | .range r =>
        if lengthLimit < r.length then .error .rangeTooLong
        else .ok (if n < r.length then .int (r.get n) else .missing)
      | _ => .ok .missing :=
  Primitives.sound_standard.itemOf_eq n v

theorem Adapter.lookup_mapping (kind : MappingKind) (entries : List (Value × Value))
    (attributes : List (String × Value)) (key : String) :
    lookup .mapping (.mapping kind entries attributes) key = .lift (entryOf kind entries key) := rfl

theorem Adapter.lookup_sequence (v : Value) (key : String) :
    lookup .sequence v key = .lift do match ← numberOf key with
      | some n => itemOf n v
      | none => return .missing := rfl

theorem Adapter.lookup_attribute (v : Value) (key : String) :
    lookup .attribute v key =
      if key = "" || isPrivate key then .pure .missing else attributeOf key v := rfl

theorem lookup_of_supports {adapters : List Adapter} {v : Value} {a : Adapter}
    (h : adapters.find? (·.supports v) = some a) (key : String) :
    lookup adapters v key = a.lookup v key := by
  rw [lookup, Primitives.lookup, h]
  rfl

theorem lookup_of_unsupported {adapters : List Adapter} {v : Value}
    (h : adapters.find? (·.supports v) = none) (key : String) :
    lookup adapters v key = .pure .missing := by
  rw [lookup, Primitives.lookup, h]

end DocPath
