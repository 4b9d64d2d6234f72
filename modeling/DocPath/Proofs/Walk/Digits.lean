import DocPath.Proofs.Walk.Adapters
import DocPath.Proofs.Walk.Address
import DocPath.Proofs.Walk.SelfReference

/-! When a walk through plain data fails.

In data that is made of leaves, lists and dictionaries a key that is not there is no fault, however
early the walk loses its way. One thing still is. A list reads every numeral it is asked for as a
number, and a dictionary does so with a numeral that is none of its keys; a numeral with more digits
than are ever converted makes that fail (`lookup_error_iff_of_plain`), whatever is in the container.
Since the grammar sets no bound on the digits between brackets, a path may well hold such a numeral.
A walk fails exactly where a container has to read one (`traverse_plainData`), and so never along a
path whose numerals are short enough. -/
namespace DocPath

/-! ### Plain data -/

/-- Data nested to any depth that is made of nulls, truth values, integers, texts, lists, and
dictionaries with texts as keys. The marker for what is missing counts too, since that is where a
walk may end. -/
inductive PlainData : Value → Prop where
  | missing : PlainData .missing
  | null : PlainData .null
  | bool (b : Bool) : PlainData (.bool b)
  | int (n : Int) : PlainData (.int n)
  | text (s : String) : PlainData (.text s)
  | list {items : List Value} : (∀ v ∈ items, PlainData v) → PlainData (.list items)
  | dict {fields : List (String × Value)} :
      (∀ v ∈ fields.map Prod.snd, PlainData v) → PlainData (.dict fields)

theorem snd_dict (fields : List (String × Value)) :
    (fields.map fun field => (Value.text field.1, field.2)).map Prod.snd = fields.map Prod.snd := by
  rw [List.map_map]
  rfl

theorem PlainData.objectFree {v : Value} (h : PlainData v) : ObjectFree v := by
  induction h with
  | missing => exact .missing
  | null | bool _ | int _ | text _ => exact .atom _
  | list _ ih => exact .sequence ih
  | @dict fields _ ih =>
    refine .mapping ?_
    rwa [snd_dict]

theorem PlainData.part {v w : Value} (h : PlainData v) (hpart : Part w v) : PlainData w := by
  cases h with
  | missing | null | bool _ | int _ | text _ => cases hpart
  | list hitems => cases hpart with | item hmem => exact hitems w hmem
  | dict hfields =>
    cases hpart with
    | entry hmem =>
      rw [snd_dict] at hmem
      exact hfields w hmem

/-- A container that has to read a key as a number, if the key is a numeral. -/
def Reads (key : String) (v : Value) : Prop :=
  (∃ items, v = .list items) ∨ ∃ fields, v = .dict fields ∧ key ∉ fields.map Prod.fst

theorem find?_eq_none_iff (fields : List (String × Value)) (key : String) :
    Entries.find? (.text key) (fields.map fun field => (Value.text field.1, field.2)) = none ↔
      key ∉ fields.map Prod.fst := by
  induction fields with
  | nil => simp [Entries.find?]
  | cons field fields ih =>
    rw [List.map_cons, Entries.find?, same_text]
    by_cases hkey : field.1 = key
    · simp [hkey]
    · simp [hkey, ih, Ne.symm hkey]

variable (attributeAccess : Bool)

/-- Of all the ways a lookup can fail there is one left in plain data. -/
theorem lookup_error_iff_of_plain {v : Value} (h : PlainData v) (key : String) (f : Fault) :
    (lookup (Adapter.defaults attributeAccess) v key).outcome = .error f ↔
      Reads key v ∧ Overlong key ∧ f = .tooManyDigits key.length := by
  rw [lookup_defaults h.objectFree, lookup_error_iff]
  constructor
  · rintro ⟨a, hfirst, hfails⟩
    cases hfails with
    | undelivered hclaims habsent =>
      cases h with
      | dict _ => exact absurd hclaims ((not_claims_iff ..).mpr ⟨by decide, habsent⟩)
    | entry hclaims hlong =>
      cases h with
      | @dict fields _ =>
        have hkey := (find?_eq_none_iff fields key).mp ((not_claims_iff ..).mp hclaims).2
        exact ⟨.inr ⟨fields, rfl, hkey⟩, hlong, rfl⟩
    | item hlong =>
      cases h with
      | @list items _ => exact ⟨.inl ⟨items, rfl⟩, hlong, rfl⟩
      | _ => cases hfirst
    | range _ _ _ => cases h
    | getter _ _ _ _ => cases h
  · rintro ⟨⟨items, rfl⟩ | ⟨fields, rfl, hkey⟩, hlong, rfl⟩
    · exact ⟨.sequence, rfl, .item hlong⟩
    · have habsent := (find?_eq_none_iff fields key).mpr hkey
      exact ⟨.mapping, rfl, .entry ((not_claims_iff ..).mpr ⟨by decide, habsent⟩) hlong⟩

theorem PlainData.lookup {v w : Value} (h : PlainData v) {key : String}
    (hfound : (lookup (Adapter.defaults attributeAccess) v key).outcome = .ok w) :
    PlainData w := by
  rcases h.objectFree.lookup_part hfound with rfl | hpart
  · exact .missing
  · exact h.part hpart

theorem PlainData.descend {v w : Value} (h : PlainData v) {keys : List String}
    (hfound : descend (Adapter.defaults attributeAccess) v keys = .ok w) : PlainData w := by
  induction keys generalizing v with
  | nil =>
    cases hfound
    exact h
  | cons key keys ih =>
    rw [descend_cons] at hfound
    obtain ⟨next, hnext, hrest⟩ := (bind_ok_iff ..).mp hfound
    exact ih (h.lookup attributeAccess hnext) hrest

/-! ### Walks along a path -/

/-- A walk comes to a container that has to read an overlong numeral among its keys. -/
def Stumbles (keys : List String) (t : Value) (numeral : String) : Prop :=
  ∃ before after w, keys = before ++ numeral :: after ∧
    (walk (Adapter.defaults attributeAccess) before t).outcome = .ok w ∧
    Reads numeral w ∧ Overlong numeral

theorem outcome_walk_of_append {adapters : List Adapter} {before after : List String}
    (h : "" ∉ before ++ after) (v : Value) :
    (walk adapters before v).outcome = descend adapters v before := by
  refine outcome_walk_of_forall adapters ?_ v
  rintro key hmem rfl
  exact h (List.mem_append_left _ hmem)

theorem descend_error_iff_of_plain {t : Value} (h : PlainData t) {keys : List String}
    (hkeys : "" ∉ keys) (f : Fault) :
    descend (Adapter.defaults attributeAccess) t keys = .error f ↔
      ∃ numeral, Stumbles attributeAccess keys t numeral ∧ f = .tooManyDigits numeral.length := by
  rw [descend_error_iff]
  constructor
  · rintro ⟨before, key, after, w, rfl, hbefore, hlookup⟩
    have hw : PlainData w := h.descend attributeAccess hbefore
    obtain ⟨hreads, hlong, rfl⟩ := (lookup_error_iff_of_plain attributeAccess hw key f).mp hlookup
    rw [← outcome_walk_of_append hkeys] at hbefore
    exact ⟨key, ⟨before, after, w, rfl, hbefore, hreads, hlong⟩, rfl⟩
  · rintro ⟨key, ⟨before, after, w, rfl, hbefore, hreads, hlong⟩, rfl⟩
    rw [outcome_walk_of_append hkeys] at hbefore
    have hw : PlainData w := h.descend attributeAccess hbefore
    exact ⟨before, key, after, w, rfl, hbefore,
      (lookup_error_iff_of_plain attributeAccess hw key _).mpr ⟨hreads, hlong, rfl⟩⟩

/-- **A walk through plain data fails only over a numeral that is too long.** Along an accepted path
it fails exactly if the path is no self-reference and the walk comes to a list, or to a dictionary
without that key, with a key of more digits than are ever converted. So it never fails along a path
whose numerals all have at most as many. -/
theorem traverse_plainData (path : String) (h : Path.Accepted path) (t : Value)
    (ht : PlainData t) :
    ∃ keys, (Path.parse path).outcome = .ok keys ∧
      (∀ f, (traverse (Adapter.defaults attributeAccess) path t).outcome = .error f ↔
        ¬ Path.SelfReference path ∧
          ∃ numeral, Stumbles attributeAccess keys t numeral ∧
            f = .tooManyDigits numeral.length) ∧
      ((∀ key ∈ keys, ¬ Overlong key) →
        ∃ v, (traverse (Adapter.defaults attributeAccess) path t).outcome = .ok v) := by
  obtain ⟨first, rest, hparse, hrest, hfirst⟩ := Path.parse_first h
  have hfails (f : Fault) :
      (traverse (Adapter.defaults attributeAccess) path t).outcome = .error f ↔
        ¬ Path.SelfReference path ∧ ∃ numeral, Stumbles attributeAccess (first :: rest) t numeral ∧
          f = .tooManyDigits numeral.length := by
    by_cases hself : Path.SelfReference path
    · -- Nothing is looked up for a self-reference, so its numerals may be of any length.
      rw [hfirst.mpr hself] at hparse
      rw [traverse, traverseBy_of_selfReference _ hparse]
      simp [hself]
    · have hkeys : "" ∉ first :: rest := by
        rw [List.mem_cons, not_or]
        exact ⟨fun hempty => hself (hfirst.mp hempty.symm), hrest⟩
      rw [outcome_traverse_of_not_selfReference _ hparse hkeys,
        descend_error_iff_of_plain attributeAccess ht hkeys]
      simp [hself]
  refine ⟨first :: rest, hparse, hfails, fun hshort => ?_⟩
  cases houtcome : (traverse (Adapter.defaults attributeAccess) path t).outcome with
  | ok v => exact ⟨v, rfl⟩
  | error f =>
    obtain ⟨_, key, ⟨before, after, w, hkeys, _, _, hlong⟩, _⟩ := (hfails f).mp houtcome
    exact absurd hlong (hshort key (by simp [hkeys]))

/-- A text key that looks like an index, and an index with leading zeros beyond the end. -/
theorem traverse_plainData_leading_zeros :
    Path.Accepted "a[7][007]" ∧ PlainData (.dict [("a", .dict [("7", .list [.null])])]) ∧
      ∃ v, (traverse (Adapter.defaults true) "a[7][007]"
        (.dict [("a", .dict [("7", .list [.null])])])).outcome = .ok v := by
  have hplain : PlainData (.dict [("a", .dict [("7", .list [.null])])]) := by
    refine .dict fun v hv => ?_
    obtain rfl := List.mem_singleton.mp hv
    refine .dict fun v hv => ?_
    obtain rfl := List.mem_singleton.mp hv
    refine .list fun v hv => ?_
    obtain rfl := List.mem_singleton.mp hv
    exact .null
  have haccepted : Path.Accepted "a[7][007]" := by rfl
  have hshort : ∀ key ∈ ["a", "7", "007"], ¬ Overlong key := by decide
  obtain ⟨keys, hparse, _, hok⟩ := traverse_plainData true _ haccepted _ hplain
  obtain rfl : ["a", "7", "007"] = keys := Except.ok.inj hparse
  exact ⟨haccepted, hplain, hok hshort⟩

/-! ### An index that is too long -/

theorem isNumeral_nines {n : Nat} (h : n ≠ 0) : Path.isNumeral (List.replicate n '9') = true := by
  simp [Path.isNumeral, Path.isDigit, h]

theorem overlong_nines {n : Nat} (h : digitLimit < n) :
    Overlong (String.ofList (List.replicate n '9')) := by
  rw [Overlong, ← String.length_toList, String.toList_ofList, List.length_replicate]
  exact ⟨isNumeral_nines (Nat.ne_of_gt (Nat.lt_of_le_of_lt (Nat.zero_le _) h)), h⟩

/-- A path to the item at an index of that many digits. -/
def longIndex (n : Nat) : String := String.ofList ('a' :: '[' :: List.replicate n '9' ++ [']'])

theorem derives_longIndex {n : Nat} (h : n ≠ 0) :
    Path.Expression.Derives ⟨['a'], [.index (List.replicate n '9')]⟩ (longIndex n) := by
  refine ⟨⟨rfl, fun a ha => ?_, fun hempty => by cases hempty⟩, ?_⟩
  · obtain rfl := List.mem_singleton.mp ha
    exact isNumeral_nines h
  · rw [longIndex, String.toList_ofList]
    simp [Path.Expression.render, Path.Access.render]

/-- An index of 4301 digits is a fault even on an empty list, where a shorter one finds nothing. -/
theorem overlong_index_fails :
    Path.Accepted (longIndex 4301) ∧ PlainData (.dict [("a", .list [])]) ∧
      (traverse (Adapter.defaults true) (longIndex 4301) (.dict [("a", .list [])])).outcome =
        .error (.tooManyDigits 4301) := by
  have hderives := derives_longIndex (n := 4301) (by decide)
  have hplain : PlainData (.dict [("a", .list [])]) := by
    refine .dict fun v hv => ?_
    obtain rfl := List.mem_singleton.mp hv
    exact .list fun v hv => absurd hv (List.not_mem_nil)
  have hlong := overlong_nines (n := 4301) (by decide)
  refine ⟨(Path.accepted_iff _).mpr ⟨_, hderives⟩, hplain, ?_⟩
  have hparse : (Path.parse (longIndex 4301)).outcome =
      .ok ["a", String.ofList (List.replicate 4301 '9')] := Path.parse_of_derives hderives
  have hkeys : "" ∉ ["a", String.ofList (List.replicate 4301 '9')] := by
    simp only [List.mem_cons, List.not_mem_nil, or_false, not_or]
    refine ⟨by decide, fun hempty => ?_⟩
    rw [← hempty] at hlong
    exact absurd hlong.1 (by decide)
  rw [outcome_traverse_of_not_selfReference _ hparse hkeys]
  refine (descend_error_iff_of_plain true hplain hkeys _).mpr ⟨_, ⟨["a"], [], .list [], rfl, rfl,
    .inl ⟨[], rfl⟩, hlong⟩, ?_⟩
  rw [← String.length_toList, String.toList_ofList, List.length_replicate]

end DocPath
