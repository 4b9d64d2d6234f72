import DocPath.Proofs.Walk.Fold

/-! Private attributes never influence a walk.

The attribute adapter does not read names that start with an underscore. So a document without its
private attributes (`Value.erase`) answers every lookup as the whole document does, with what it
finds erased in the same way (`lookup_erase`): reading a public name does not notice that others
are gone (`lookup_keepPublic`), and neither mappings nor sequences know of attributes at all. Hence
erasing commutes with whole walks (`walk_erase`), and documents that are the same without their
private attributes cannot be told apart but by such attributes. -/
namespace DocPath

/-! ### Documents without private attributes -/

/-- The fields whose names are not private. -/
def keepPublic {α : Type} (fields : List (String × α)) : List (String × α) :=
  fields.filter fun field => !isPrivate field.1

namespace Value

mutual

/-- A document without its private attributes, at every depth. Entries of a mapping and fields of a
record are no attributes: they stay, whatever their names, and keys stay as they are. So does the
fallback of an object, which answers to any name. -/
def erase : Value → Value
  | .missing => .missing
  | .atom a => .atom a
  | .buffer octets => .buffer octets
  | .sequence kind items => .sequence kind (eraseItems items)
  | .record className fields => .record className (eraseFields fields)
  | .range r => .range r
  | .set frozen members => .set frozen (eraseItems members)
  | .mapping kind entries attributes =>
    .mapping kind (eraseEntries entries) (keepPublic (eraseFields attributes))
  | .object className getters own shared fallback =>
    .object className (keepPublic (eraseMembers getters)) (keepPublic (eraseMembers own))
      (keepPublic (eraseMembers shared)) (eraseFallback fallback)

def eraseItems : List Value → List Value
  | [] => []
  | v :: vs => erase v :: eraseItems vs

def eraseFields : List (String × Value) → List (String × Value)
  | [] => []
  | (name, v) :: fields => (name, erase v) :: eraseFields fields

def eraseEntries : List (Value × Value) → List (Value × Value)
  | [] => []
  | (key, v) :: entries => (key, erase v) :: eraseEntries entries

def eraseMembers : List (String × Member) → List (String × Member)
  | [] => []
  | (name, m) :: members => (name, eraseMember m) :: eraseMembers members

def eraseMember : Member → Member
  | .data v => .data (erase v)
  | .routine => .routine
  | .failing r => .failing r

def eraseFallback : Option Member → Option Member
  | none => none
  | some m => some (eraseMember m)

end

/-! ### Erasing piece by piece -/

theorem eraseItems_eq_map (items : List Value) : eraseItems items = items.map erase := by
  induction items with
  | nil => rfl
  | cons v vs ih => rw [eraseItems, ih, List.map_cons]

theorem eraseFields_eq_map (fields : List (String × Value)) :
    eraseFields fields = fields.map fun field => (field.1, field.2.erase) := by
  induction fields with
  | nil => rfl
  | cons field fields ih => rw [eraseFields, ih, List.map_cons]

theorem eraseMembers_eq_map (members : List (String × Member)) :
    eraseMembers members = members.map fun m => (m.1, eraseMember m.2) := by
  induction members with
  | nil => rfl
  | cons m members ih => rw [eraseMembers, ih, List.map_cons]

theorem isMissing_erase (v : Value) : v.erase.isMissing = v.isMissing := by
  cases v <;> rfl

end Value

/-! ### Names and positions -/

section

variable {α β : Type}

theorem lookup_map_snd (f : α → β) (fields : List (String × α)) (name : String) :
    (fields.map fun field => (field.1, f field.2)).lookup name = (fields.lookup name).map f := by
  induction fields with
  | nil => rfl
  | cons field fields ih =>
    rw [List.map_cons, List.lookup_cons, List.lookup_cons, ih]
    cases name == field.1 <;> rfl

/-- What a public name stands for does not depend on private ones. -/
theorem lookup_keepPublic {name : String} (h : isPrivate name = false)
    (fields : List (String × α)) : (keepPublic fields).lookup name = fields.lookup name := by
  induction fields with
  | nil => rfl
  | cons field fields ih =>
    rw [keepPublic] at ih ⊢
    cases hfield : isPrivate field.1 with
    | false =>
      rw [List.filter_cons_of_pos (by simp [hfield]), List.lookup_cons, List.lookup_cons, ih]
    | true =>
      have hother : (name == field.1) = false := by
        rw [beq_eq_false_iff_ne]
        rintro rfl
        rw [h] at hfield
        cases hfield
      rw [List.filter_cons_of_neg (by simp [hfield]), List.lookup_cons, hother, ih]

end

theorem find?_eraseEntries (key : Value) (entries : List (Value × Value)) :
    Entries.find? key (Value.eraseEntries entries) =
      (Entries.find? key entries).map Value.erase := by
  induction entries with
  | nil => rfl
  | cons entry entries ih =>
    rw [Value.eraseEntries, Entries.find?, Entries.find?, ih]
    split <;> rfl

theorem getD_map_erase (found : Option Value) :
    (found.map Value.erase).getD .missing = (found.getD .missing).erase := by
  cases found <;> rfl

/-! ### One lookup -/

theorem entryOf_erase (kind : MappingKind) (entries : List (Value × Value)) (key : String) :
    entryOf kind (Value.eraseEntries entries) key = (entryOf kind entries key).map Value.erase := by
  rw [entryOf_eq, entryOf_eq, find?_eraseEntries]
  cases Entries.find? (.text key) entries with
  | some v => rfl
  | none =>
    simp only [Option.map_none]
    split
    · rfl
    cases numberOf key with
    | error f => rfl
    | ok number =>
      cases number with
      | none => rfl
      | some n =>
        show Except.ok _ = Except.ok _
        rw [find?_eraseEntries, getD_map_erase]

theorem itemOf_erase (n : Nat) (v : Value) : itemOf n v.erase = (itemOf n v).map Value.erase := by
  rw [itemOf_eq, itemOf_eq]
  cases v with
  | sequence kind items =>
    show Except.ok _ = Except.ok _
    rw [Value.eraseItems_eq_map, List.getElem?_map, getD_map_erase]
  | record className fields =>
    show Except.ok _ = Except.ok _
    rw [Value.eraseFields_eq_map, List.getElem?_map, Option.map_map, ← getD_map_erase,
      Option.map_map]
    rfl
  | range r =>
    dsimp only [Value.erase]
    split
    · rfl
    split <;> rfl
  | _ => rfl

section

variable {name : String} (h : isPrivate name = false)

include h

theorem lookup_keepPublic_eraseMembers (members : List (String × Member)) :
    (keepPublic (Value.eraseMembers members)).lookup name =
      (members.lookup name).map Value.eraseMember := by
  rw [lookup_keepPublic h, Value.eraseMembers_eq_map, lookup_map_snd]

theorem memberOf_erase (getters own shared : List (String × Member)) (fallback : Option Member) :
    memberOf (keepPublic (Value.eraseMembers getters)) (keepPublic (Value.eraseMembers own))
        (keepPublic (Value.eraseMembers shared)) (Value.eraseFallback fallback) name =
      (memberOf getters own shared fallback name).map Value.eraseMember := by
  have hfallback : Value.eraseFallback fallback = fallback.map Value.eraseMember := by
    cases fallback <;> rfl
  have hmembers : (keepPublic (Value.eraseMembers getters) ++ keepPublic (Value.eraseMembers own) ++
      keepPublic (Value.eraseMembers shared)).lookup name =
      ((getters ++ own ++ shared).lookup name).map Value.eraseMember := by
    simp only [List.lookup_append, lookup_keepPublic_eraseMembers h, Option.map_or]
  rw [memberOf, memberOf, hmembers, hfallback]
  cases (getters ++ own ++ shared).lookup name with
  | none => rfl
  | some m =>
    cases m with
    | data _ | routine => rfl
    | failing r =>
      show (if r.family = .absence then _ else _) = Option.map _ (ite (r.family = .absence) _ _)
      split <;> rfl

theorem attributeOf_erase (v : Value) :
    attributeOf name v.erase = Value.erase <$> attributeOf name v := by
  cases v with
  | object className getters own shared fallback =>
    rw [Value.erase, attributeOf, attributeOf, memberOf_erase h]
    cases memberOf getters own shared fallback name with
    | none => rfl
    | some m =>
      cases m with
      | data _ | routine => rfl
      | failing r =>
        show dataOf className name (.failing r) = Value.erase <$> dataOf className name (.failing r)
        rw [dataOf]
        split <;> rfl
  | record className fields =>
    rw [Value.erase, attributeOf, attributeOf, Value.eraseFields_eq_map, lookup_map_snd,
      getD_map_erase]
    rfl
  | mapping kind entries attributes =>
    rw [Value.erase, attributeOf, attributeOf, lookup_keepPublic h, Value.eraseFields_eq_map,
      lookup_map_snd, getD_map_erase]
    rfl
  | sequence kind items =>
    cases kind with
    | queue limit =>
      rw [Value.erase, attributeOf, attributeOf]
      split
      · cases limit <;> rfl
      · rfl
    | _ => rfl
  | range r =>
    rw [Value.erase, attributeOf]
    split
    · rfl
    split
    · rfl
    split <;> rfl
  | _ => rfl

end

theorem Adapter.supports_erase (a : Adapter) (v : Value) : a.supports v.erase = a.supports v := by
  cases a <;> cases v <;> rfl

theorem Adapter.lookup_erase (a : Adapter) (v : Value) (key : String) :
    a.lookup v.erase key = Value.erase <$> a.lookup v key := by
  cases a with
  | mapping =>
    cases v with
    | mapping kind entries attributes =>
      rw [Value.erase, Adapter.lookup_mapping, Adapter.lookup_mapping, entryOf_erase,
        Trace.map_lift]
    | _ => rfl
  | sequence =>
    rw [Adapter.lookup_sequence, Adapter.lookup_sequence, Trace.map_lift]
    cases numberOf key with
    | error f => rfl
    | ok number =>
      cases number with
      | none => rfl
      | some n => exact congrArg Trace.lift (itemOf_erase n v)
  | «attribute» =>
    rw [Adapter.lookup_attribute, Adapter.lookup_attribute]
    -- Only here does it matter which names are erased: the private ones are never read.
    by_cases hkey : key = "" || isPrivate key
    · rw [if_pos hkey, if_pos hkey]
      rfl
    · rw [if_neg hkey, if_neg hkey]
      rw [Bool.not_eq_true, Bool.or_eq_false_iff] at hkey
      exact attributeOf_erase hkey.2 v

variable (adapters : List Adapter)

theorem lookup_erase (v : Value) (key : String) :
    lookup adapters v.erase key = Value.erase <$> lookup adapters v key := by
  have hsame : adapters.find? (·.supports v.erase) = adapters.find? (·.supports v) := by
    simp only [Adapter.supports_erase]
  cases hfirst : adapters.find? (·.supports v) with
  | none =>
    rw [lookup_of_unsupported hfirst, lookup_of_unsupported (hsame.trans hfirst)]
    rfl
  | some a =>
    rw [lookup_of_supports hfirst, lookup_of_supports (hsame.trans hfirst)]
    exact a.lookup_erase v key

/-! ### Walks -/

theorem walk_erase (keys : List String) (v : Value) :
    walk adapters keys v.erase = Value.erase <$> walk adapters keys v := by
  induction keys generalizing v with
  | nil => rfl
  | cons key keys ih =>
    rw [walk_cons, walk_cons, Value.isMissing_erase]
    split
    · rfl
    split
    · rfl
    rw [lookup_erase, map_bind, bind_map_left]
    simp only [ih]

/-- **Private attributes never influence a walk.** A walk through a document without its private
attributes ends as the walk through the whole document does, with the same fault or with what that
walk finds without its private attributes, and reports the same on the way. So walks through
documents that differ in private attributes only cannot differ in anything else. -/
theorem private_attributes_unobservable (keys : List String) (t : Value) :
    (walk adapters keys t.erase).outcome = (walk adapters keys t).outcome.map Value.erase ∧
    (walk adapters keys t.erase).events = (walk adapters keys t).events ∧
    ∀ t', t.erase = t'.erase →
      (walk adapters keys t).outcome.map Value.erase =
        (walk adapters keys t').outcome.map Value.erase := by
  have houtcome (t : Value) :
      (walk adapters keys t.erase).outcome = (walk adapters keys t).outcome.map Value.erase := by
    rw [walk_erase, Trace.outcome_map]
  refine ⟨houtcome t, ?_, fun t' hsame => ?_⟩
  · rw [walk_erase, Trace.events_map]
  · rw [← houtcome, ← houtcome, hsame]

/-- An object under a key that starts with an underscore, and with an attribute that does. -/
def tokenHolder (token : Int) : Value :=
  .map .plain [(.text "_id", .object "User" [] [("_token", .data (.int token))] [] none)] []

/-- An underscore hides an attribute, but not an entry: the walk reaches the object and reads the
token of neither. -/
theorem private_attributes_unobservable_token :
    (tokenHolder 1).erase = (tokenHolder 2).erase ∧
    (walk [.mapping, .attribute] ["_id", "_token"] (tokenHolder 1)).outcome.map Value.erase =
      (walk [.mapping, .attribute] ["_id", "_token"] (tokenHolder 2)).outcome.map Value.erase := by
  have hsame : (tokenHolder 1).erase = (tokenHolder 2).erase := by rfl
  exact ⟨hsame, (private_attributes_unobservable _ _ _).2.2 _ hsame⟩

end DocPath
