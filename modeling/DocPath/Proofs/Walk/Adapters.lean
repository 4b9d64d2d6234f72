import DocPath.Proofs.Walk.Fold

/-! Fewer adapters find less, and never anything else.

The first adapter that supports a container decides, so adapters that are added at the end of a list
are asked only where a lookup would have found nothing (`lookup_append`). Once a walk has found
nothing it stays there. Hence a walk with fewer adapters ends as the walk with all of them does, or
finds nothing (`descend_of_fewer`).

The attribute adapter comes last by default, and mappings, sequences and leaves leave nothing to it
(`lookup_defaults`). What a lookup finds without it is a part of the container (`lookup_part`), so
in a document that is made of these alone the walk never meets anything else, and following
attributes makes no difference to it (`walk_defaults`). -/
namespace DocPath

/-! ### Adapters at the end of a list -/

theorem lookup_append (adapters more : List Adapter) (v : Value) (key : String) :
    lookup adapters v key = lookup (adapters ++ more) v key ∨
      lookup adapters v key = .pure .missing := by
  cases hfirst : adapters.find? (·.supports v) with
  | some a =>
    left
    have hmore : (adapters ++ more).find? (·.supports v) = some a := by
      rw [List.find?_append, hfirst]
      rfl
    rw [lookup_of_supports hfirst, lookup_of_supports hmore]
  | none =>
    right
    exact lookup_of_unsupported hfirst key

theorem descend_of_fewer (adapters more : List Adapter) (v : Value) (keys : List String) :
    descend adapters v keys = descend (adapters ++ more) v keys ∨
      descend adapters v keys = .ok .missing := by
  induction keys generalizing v with
  | nil => exact .inl rfl
  | cons key keys ih =>
    rw [descend_cons, descend_cons]
    rcases lookup_append adapters more v key with hsame | hmissing
    · rw [← hsame]
      cases (lookup adapters v key).outcome with
      | error f => exact .inl rfl
      | ok w => exact ih w
    · -- Where only the further adapters find something, the walk has lost its way for good.
      rw [hmissing]
      exact .inr (descend_missing adapters keys)

/-! ### Parts of a container -/

/-- A value stands in a container: as an item, a field or an entry. -/
inductive Part : Value → Value → Prop where
  | item {kind : SequenceKind} {items : List Value} {v : Value} :
      v ∈ items → Part v (.sequence kind items)
  | field {className : String} {fields : List (String × Value)} {v : Value} :
      v ∈ fields.map Prod.snd → Part v (.record className fields)
  | integer {r : Range} {n : Int} : Part (.int n) (.range r)
  | entry {kind : MappingKind} {entries : List (Value × Value)} {attributes : List (String × Value)}
      {v : Value} : v ∈ entries.map Prod.snd → Part v (.mapping kind entries attributes)

theorem mem_of_find?_eq_some {key v : Value} {entries : List (Value × Value)}
    (h : Entries.find? key entries = some v) : v ∈ entries.map Prod.snd := by
  induction entries with
  | nil => cases h
  | cons entry entries ih =>
    rw [Entries.find?] at h
    split at h
    · cases h
      exact List.mem_cons_self ..
    · exact List.mem_cons_of_mem _ (ih h)

theorem getD_missing_mem {found : Option Value} {values : List Value}
    (h : ∀ v, found = some v → v ∈ values) :
    found.getD .missing = .missing ∨ found.getD .missing ∈ values := by
  cases found with
  | none => exact .inl rfl
  | some v => exact .inr (h v rfl)

theorem entryOf_part {kind : MappingKind} {entries : List (Value × Value)} {key : String}
    {w : Value} (h : entryOf kind entries key = .ok w) :
    w = .missing ∨ w ∈ entries.map Prod.snd := by
  rw [entryOf_eq] at h
  split at h
  case h_1 v hfind =>
    cases h
    exact .inr (mem_of_find?_eq_some hfind)
  split at h
  · cases h
  obtain ⟨number, _, hfound⟩ := (bind_ok_iff ..).mp h
  cases number with
  | none =>
    cases hfound
    exact .inl rfl
  | some n =>
    cases hfound
    exact getD_missing_mem fun v => mem_of_find?_eq_some

theorem itemOf_part {n : Nat} {v w : Value} (h : itemOf n v = .ok w) :
    w = .missing ∨ Part w v := by
  rw [itemOf_eq] at h
  cases v with
  | sequence kind items =>
    cases h
    exact (getD_missing_mem fun v => List.mem_of_getElem?).imp_right .item
  | record className fields =>
    cases h
    refine (getD_missing_mem fun v hv => ?_).imp_right .field
    rw [← List.getElem?_map] at hv
    exact List.mem_of_getElem? hv
  | range r =>
    dsimp only at h
    split at h
    · cases h
    split at h <;> cases h
    · exact .inr .integer
    · exact .inl rfl
  | _ =>
    cases h
    exact .inl rfl

/-- Without the attribute adapter nothing is found in a container but its parts. -/
theorem lookup_part {adapters : List Adapter} (hadapters : .attribute ∉ adapters) {v w : Value}
    {key : String} (h : (lookup adapters v key).outcome = .ok w) : w = .missing ∨ Part w v := by
  cases hfirst : adapters.find? (·.supports v) with
  | none =>
    rw [lookup_of_unsupported hfirst] at h
    cases h
    exact .inl rfl
  | some a =>
    rw [lookup_of_supports hfirst] at h
    cases a with
    | mapping =>
      cases v with
      | mapping kind entries attributes => exact (entryOf_part h).imp_right .entry
      | _ =>
        cases h
        exact .inl rfl
    | sequence =>
      obtain ⟨number, _, hfound⟩ := (bind_ok_iff ..).mp h
      cases number with
      | none =>
        cases hfound
        exact .inl rfl
      | some n => exact itemOf_part hfound
    | «attribute» => exact absurd (List.mem_of_find?_eq_some hfirst) hadapters

/-! ### Documents without objects -/

/-- Data nested to any depth that is made of mappings, sequences and leaves only. What attributes a
mapping may have besides does not count. -/
inductive ObjectFree : Value → Prop where
  | missing : ObjectFree .missing
  | atom (a : Atom) : ObjectFree (.atom a)
  | buffer (octets : List UInt8) : ObjectFree (.buffer octets)
  | range (r : Range) : ObjectFree (.range r)
  | sequence {kind : SequenceKind} {items : List Value} :
      (∀ v ∈ items, ObjectFree v) → ObjectFree (.sequence kind items)
  | record {className : String} {fields : List (String × Value)} :
      (∀ v ∈ fields.map Prod.snd, ObjectFree v) → ObjectFree (.record className fields)
  | mapping {kind : MappingKind} {entries : List (Value × Value)}
      {attributes : List (String × Value)} :
      (∀ v ∈ entries.map Prod.snd, ObjectFree v) → ObjectFree (.mapping kind entries attributes)

theorem ObjectFree.part {v w : Value} (h : ObjectFree v) (hpart : Part w v) : ObjectFree w := by
  cases hpart with
  | item hmem => cases h with | sequence hitems => exact hitems w hmem
  | field hmem => cases h with | record hfields => exact hfields w hmem
  | integer => exact .atom _
  | entry hmem => cases h with | mapping hentries => exact hentries w hmem

/-- The adapters for mappings and sequences leave nothing to the one for attributes. -/
theorem lookup_defaults {v : Value} (h : ObjectFree v) (attributeAccess : Bool) (key : String) :
    lookup (Adapter.defaults attributeAccess) v key = lookup (Adapter.defaults false) v key := by
  cases attributeAccess
  · rfl
  · cases h <;> rfl

theorem ObjectFree.lookup_part {v w : Value} (h : ObjectFree v) {attributeAccess : Bool}
    {key : String} (hfound : (lookup (Adapter.defaults attributeAccess) v key).outcome = .ok w) :
    w = .missing ∨ Part w v := by
  rw [lookup_defaults h] at hfound
  exact DocPath.lookup_part (by decide) hfound

theorem ObjectFree.lookup {v w : Value} (h : ObjectFree v) {attributeAccess : Bool} {key : String}
    (hfound : (lookup (Adapter.defaults attributeAccess) v key).outcome = .ok w) :
    ObjectFree w := by
  rcases h.lookup_part hfound with rfl | hpart
  · exact .missing
  · exact h.part hpart

theorem walk_defaults {t : Value} (h : ObjectFree t) (attributeAccess : Bool)
    (keys : List String) :
    walk (Adapter.defaults attributeAccess) keys t = walk (Adapter.defaults false) keys t := by
  induction keys generalizing t with
  | nil => rfl
  | cons key keys ih =>
    rw [walk_cons, walk_cons, lookup_defaults h]
    split
    · rfl
    split
    · rfl
    exact Trace.bind_congr_of_ok fun w hfound => ih (h.lookup hfound)

/-! ### The whole walk -/

/-- **Removing adapters can only lose results, never change them.** A walk with some of the first
adapters of a list ends with the same value or fault as the walk with all of them, or it finds
nothing. So it is with a walk that does not follow attributes, and in a document without objects
the two do not differ at all, even in what they report. -/
theorem walk_of_fewer_adapters (keys : List String) (t : Value) :
    (∀ adapters more : List Adapter,
      (walk adapters keys t).outcome = (walk (adapters ++ more) keys t).outcome ∨
        (walk adapters keys t).outcome = .ok .missing) ∧
    ((walk (Adapter.defaults false) keys t).outcome =
        (walk (Adapter.defaults true) keys t).outcome ∨
      (walk (Adapter.defaults false) keys t).outcome = .ok .missing) ∧
    (ObjectFree t →
      walk (Adapter.defaults false) keys t = walk (Adapter.defaults true) keys t) := by
  have hfewer (adapters more : List Adapter) :
      (walk adapters keys t).outcome = (walk (adapters ++ more) keys t).outcome ∨
        (walk adapters keys t).outcome = .ok .missing := by
    rw [outcome_walk, outcome_walk]
    exact descend_of_fewer adapters more t _
  exact ⟨hfewer, hfewer (Adapter.defaults false) [.attribute],
    fun h => (walk_defaults h true keys).symm⟩

/-- A dictionary with an attribute, and in it a record with a field, which is an attribute too: the
adapters for mappings and sequences hide both. -/
theorem walk_of_fewer_adapters_record :
    ObjectFree (.map .extended [(.text "a", .record "Pair" [("x", .range ⟨0, 3, 1⟩)])]
      [("b", .null)]) ∧
    walk (Adapter.defaults false) ["a", "x"] (.map .extended
        [(.text "a", .record "Pair" [("x", .range ⟨0, 3, 1⟩)])] [("b", .null)]) =
      walk (Adapter.defaults true) ["a", "x"] (.map .extended
        [(.text "a", .record "Pair" [("x", .range ⟨0, 3, 1⟩)])] [("b", .null)]) := by
  have hfree : ObjectFree (.map .extended
      [(.text "a", .record "Pair" [("x", .range ⟨0, 3, 1⟩)])] [("b", .null)]) := by
    refine .mapping fun v hv => ?_
    obtain rfl := List.mem_singleton.mp hv
    refine .record fun v hv => ?_
    obtain rfl := List.mem_singleton.mp hv
    exact .range _
  exact ⟨hfree, (walk_of_fewer_adapters _ _).2.2 hfree⟩

end DocPath
