import DocPath.Proofs.Walk.Fold

/-! Every place in a document can be read back.

An address leads from a document into one of its parts, by the keys of dictionaries and the indices
of lists (`Address.At`). A walk knows texts only, and it cannot tell the index of a list from a key
of digits. Still, written as texts, each step of an address is one lookup (`lookup_entry`,
`lookup_item`), so a walk along the address finds the part it leads to (`walk_at`), and so does any
path that is written for its keys. -/
namespace DocPath

namespace Value

/-- A dictionary with texts as keys. -/
def dict (fields : List (String × Value)) : Value :=
  .mapping .plain (fields.map fun field => (.text field.1, field.2)) []

end Value

/-! ### Documents and addresses -/

/-- Data nested to any depth: dictionaries with texts as keys, no two of them the same, lists, and
leaves of any other kind. -/
inductive Document : Value → Prop where
  | leaf {v : Value} : (∀ items, v ≠ .list items) → (∀ fields, v ≠ .dict fields) → Document v
  | list {items : List Value} : (∀ v ∈ items, Document v) → Document (.list items)
  | dict {fields : List (String × Value)} : (fields.map Prod.fst).Nodup →
      (∀ field ∈ fields, Document field.2) → Document (.dict fields)

theorem Document.of_mem_items {items : List Value} {v : Value} (h : Document (.list items))
    (hmem : v ∈ items) : Document v := by
  generalize hdoc : Value.list items = doc at h
  cases h with
  | leaf hlist _ => exact absurd hdoc.symm (hlist items)
  | list hitems =>
    cases hdoc
    exact hitems v hmem
  | dict _ _ => cases hdoc

theorem dict_inj {fields fields' : List (String × Value)} (h : Value.dict fields = .dict fields') :
    fields = fields' := by
  refine (List.map_inj_right ?_).mp (Value.mapping.inj h).2.1
  rintro ⟨key, v⟩ ⟨key', v'⟩ hfield
  cases hfield
  rfl

theorem Document.fields {fields : List (String × Value)} (h : Document (.dict fields)) :
    (fields.map Prod.fst).Nodup ∧ ∀ field ∈ fields, Document field.2 := by
  generalize hdoc : Value.dict fields = doc at h
  cases h with
  | leaf _ hdict => exact absurd hdoc.symm (hdict fields)
  | list _ => cases hdoc
  | dict hkeys hfields =>
    cases dict_inj hdoc
    exact ⟨hkeys, hfields⟩

namespace Address

inductive Step where
  | entry (key : String)
  | item (index : Nat)
  deriving DecidableEq

/-- A step as a key; an index is written in decimal. -/
def Step.key : Step → String
  | .entry key => key
  | .item index => toString index

/-- The steps lead from a document to one of its parts. -/
inductive At : Value → List Step → Value → Prop where
  | here {v : Value} : At v [] v
  | entry {fields : List (String × Value)} {key : String} {v part : Value} {steps : List Step} :
      (key, v) ∈ fields → At v steps part → At (.dict fields) (.entry key :: steps) part
  | item {items : List Value} {index : Nat} {v part : Value} {steps : List Step} :
      items[index]? = some v → At v steps part → At (.list items) (.item index :: steps) part

end Address

/-! ### Indices in decimal -/

theorem isNumeral_toString (n : Nat) : Path.isNumeral (toString n).toList = true := by
  rw [Nat.toString_eq_repr, Nat.toList_repr, Path.isNumeral, Bool.and_eq_true]
  constructor
  · simp [Nat.toDigits_ne_nil]
  · rw [List.all_eq_true]
    exact fun c hc => Nat.isDigit_of_mem_toDigits (by decide) (by decide) hc

theorem toString_ne_empty (n : Nat) : toString n ≠ "" := by
  intro hempty
  have hnumeral := isNumeral_toString n
  rw [hempty] at hnumeral
  cases hnumeral

/-- An index that a list can have is read back from its digits. -/
theorem numberOf_toString {n : Nat} (h : n < Nat.pow 2 63) :
    numberOf (toString n) = .ok (some n) := by
  have hlength : (toString n).length ≤ digitLimit := by
    rw [← String.length_toList, Nat.toString_eq_repr, Nat.toList_repr]
    have hdigits : (Nat.toDigits 10 n).length ≤ 19 :=
      (Nat.length_toDigits_le_iff (by decide) (by decide)).mpr (Nat.lt_trans h (by decide))
    exact Nat.le_trans hdigits (by decide)
  have hvalue : Text.digitsValue (toString n).toList = n := by
    rw [Nat.toString_eq_repr, Nat.toList_repr]
    exact Nat.ofDigitChars_toDigits (by decide) (by decide)
  rw [numberOf_eq, if_pos (isNumeral_toString n), if_neg (Nat.not_lt.mpr hlength), hvalue]

/-! ### One step -/

theorem same_text (a b : String) : (Value.text a).same (.text b) = decide (a = b) := by
  show decide (Atom.text a = Atom.text b) = _
  simp

/-- The entry of a key is found, since no other has the same key. -/
theorem find?_fields {fields : List (String × Value)} {key : String} {v : Value}
    (hkeys : (fields.map Prod.fst).Nodup) (h : (key, v) ∈ fields) :
    Entries.find? (.text key) (fields.map fun field => (Value.text field.1, field.2)) = some v := by
  induction fields with
  | nil => cases h
  | cons field fields ih =>
    rw [List.map_cons, List.nodup_cons] at hkeys
    rw [List.map_cons, Entries.find?, same_text]
    rcases List.mem_cons.mp h with rfl | hmem
    · simp
    · have hother : field.1 ≠ key := by
        rintro rfl
        exact hkeys.1 (List.mem_map.mpr ⟨_, hmem, rfl⟩)
      simp [hother, ih hkeys.2 hmem]

variable (attributeAccess : Bool)

theorem lookup_entry {fields : List (String × Value)} {key : String} {v : Value}
    (hkeys : (fields.map Prod.fst).Nodup) (h : (key, v) ∈ fields) :
    lookup (Adapter.defaults attributeAccess) (.dict fields) key = .pure v := by
  show Trace.lift (entryOf .plain _ key) = _
  rw [entryOf_eq, find?_fields hkeys h]
  rfl

theorem lookup_item {items : List Value} {index : Nat} {v : Value} (hindex : index < Nat.pow 2 63)
    (h : items[index]? = some v) :
    lookup (Adapter.defaults attributeAccess) (.list items) (toString index) = .pure v := by
  show Trace.lift (numberOf (toString index) >>= _) = _
  rw [numberOf_toString hindex]
  show Trace.lift (itemOf index (.list items)) = _
  rw [itemOf_eq]
  show Trace.lift (Except.ok (items[index]?.getD .missing)) = _
  rw [h]
  rfl

theorem walk_cons_of_lookup {adapters : List Adapter} {v w : Value} {key : String} (hkey : key ≠ "")
    (hv : v.isMissing = false) (hlookup : lookup adapters v key = .pure w) (keys : List String) :
    walk adapters (key :: keys) v = walk adapters keys w := by
  rw [walk_cons, if_neg hkey, hv, hlookup]
  rfl

/-! ### The whole address -/

namespace Address

/-- A walk along an address finds the part it leads to, and has nothing to report. -/
theorem walk_at {doc part : Value} {steps : List Step} (hat : At doc steps part)
    (hdoc : Document doc) (hindex : ∀ n, .item n ∈ steps → n < Nat.pow 2 63)
    (hkey : .entry "" ∉ steps) :
    walk (Adapter.defaults attributeAccess) (steps.map Step.key) doc = .pure part := by
  induction hat with
  | here => rfl
  | @entry fields key v part steps hmem hat ih =>
    obtain ⟨hkeys, hfields⟩ := hdoc.fields
    have hne : key ≠ "" := by
      rintro rfl
      exact hkey (List.mem_cons_self ..)
    rw [List.map_cons, Step.key,
      walk_cons_of_lookup hne rfl (lookup_entry attributeAccess hkeys hmem)]
    exact ih (hfields _ hmem) (fun n hn => hindex n (List.mem_cons_of_mem _ hn))
      (fun hempty => hkey (List.mem_cons_of_mem _ hempty))
  | @item items index v part steps hget hat ih =>
    have hlt : index < Nat.pow 2 63 := hindex index (List.mem_cons_self ..)
    rw [List.map_cons, Step.key,
      walk_cons_of_lookup (toString_ne_empty index) rfl (lookup_item attributeAccess hlt hget)]
    exact ih (hdoc.of_mem_items (List.mem_of_getElem? hget))
      (fun n hn => hindex n (List.mem_cons_of_mem _ hn))
      (fun hempty => hkey (List.mem_cons_of_mem _ hempty))

/-- **Every place in a document can be read back.** Whatever an address leads to is found by a walk
along its keys, and by any path written for them, whether or not attributes are followed; an index
must be one that a list can have, and no key on the way may be empty. -/
theorem traverse_address {doc part : Value} {steps : List Step} (hdoc : Document doc)
    (hat : At doc steps part) (hindex : ∀ n, .item n ∈ steps → n < Nat.pow 2 63)
    (hkey : .entry "" ∉ steps) :
    (walk (Adapter.defaults attributeAccess) (steps.map Step.key) doc).outcome = .ok part ∧
    ∀ path, Path.format (steps.map Step.key) = .ok path →
      (traverse (Adapter.defaults attributeAccess) path doc).outcome = .ok part := by
  have hwalk := walk_at attributeAccess hat hdoc hindex hkey
  refine ⟨by rw [hwalk]; rfl, fun path hformat => ?_⟩
  rw [outcome_traverse_of_format _ hformat, hwalk]
  rfl

theorem traverse_address_bare_index :
    At (.list [.dict [("0", .text "a"), ("x-y", .null)]]) [.item 0, .entry "x-y"] .null ∧
      (walk (Adapter.defaults true) ["0", "x-y"]
        (.list [.dict [("0", .text "a"), ("x-y", .null)]])).outcome = .ok .null ∧
      (traverse (Adapter.defaults true) "0[\"x-y\"]"
        (.list [.dict [("0", .text "a"), ("x-y", .null)]])).outcome = .ok .null := by
  have hleaf (a : Atom) : Document (.atom a) :=
    .leaf (fun _ h => by cases h) (fun _ h => by cases h)
  have hdict : Document (.dict [("0", .text "a"), ("x-y", .null)]) := by
    refine .dict (by decide) ?_
    intro field hfield
    simp only [List.mem_cons, List.not_mem_nil, or_false] at hfield
    rcases hfield with rfl | rfl
    · exact hleaf _
    · exact hleaf _
  have hdoc : Document (.list [.dict [("0", .text "a"), ("x-y", .null)]]) := by
    refine .list ?_
    intro v hv
    rw [List.mem_singleton.mp hv]
    exact hdict
  have hat : At (.list [.dict [("0", .text "a"), ("x-y", .null)]]) [.item 0, .entry "x-y"] .null :=
    .item rfl (.entry (by simp) .here)
  obtain ⟨hwalk, hpath⟩ := traverse_address true hdoc hat (by simp) (by simp)
  exact ⟨hat, hwalk, hpath _ (by rfl)⟩

end Address

end DocPath
