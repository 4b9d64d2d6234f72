import DocPath.Fault
import DocPath.Path.Format
import DocPath.Value.Display

/-! Keys given as a value.

Anything with a length will do for a list of keys, except a text, which is a single one. The keys
themselves have to be texts; of several things wrong with them the first is complained about. -/
namespace DocPath.KeyList

/-- What a value lists. -/
def items : Value → Except Path.FormatError (List Value)
  | .atom (.text _) => .error .text
  | .atom (.bytes octets) => .ok (octets.map fun o => .int o.toNat)
  | .buffer octets => .ok (octets.map fun o => .int o.toNat)
  | .sequence _ vs => .ok vs
  | .record _ fields => .ok (fields.map Prod.snd)
  | .range r => if lengthLimit < r.length then .error .tooLong else .ok (r.toList.map .int)
  | .set _ vs => .ok vs
  | .mapping _ entries _ => .ok (entries.map Prod.fst)
  | v => .error (.noLength v.typeName)

/-- The texts that open a list, and the type of what comes after them, if anything does. -/
def texts : List Value → List String × Option String
  | [] => ([], none)
  | .atom (.text s) :: rest => match texts rest with
    | (ss, other) => (s :: ss, other)
  | v :: _ => ([], some v.typeName)

/-- The path of the keys that a value lists. -/
def format (keys : Value) : Except Path.FormatError String := do
  match texts (← items keys) with
  | (ks, none) => Path.format ks
  | (ks, some typeName) =>
    let _ ← Path.renderKeys (ks.map String.toList)
    .error (.notText typeName)

theorem texts_map_text (keys : List String) : texts (keys.map Value.text) = (keys, none) := by
  induction keys with
  | nil => rfl
  | cons key keys ih =>
    rw [List.map_cons, Value.text, texts, ih]

/-- A sequence of texts of any kind has the path of the list of these texts. -/
theorem format_texts (kind : SequenceKind) (keys : List String) :
    format (.sequence kind (keys.map Value.text)) = Path.format keys := by
  simp only [format, items, bind, Except.bind, texts_map_text]

end DocPath.KeyList
