import DocPath.Proofs.Walk.Fold

/-! When a single lookup fails.

Of all adapters only the first that supports the container is asked, and each of the three fails in
its own ways (`Fails`): a mapping over a key that it claims to contain, a mapping or a sequence over
a numeral that is too long, a sequence over a range that is too long to be counted, and an attribute
over a getter that ends the run. There are no others (`Adapter.lookup_error_iff`).

What a lookup leaves to its primitives it asks for only where it can be had
(`Primitives.Sound.lookup_eq`): a text to be read as a number is a numeral, and an item to be
fetched is there. So it does not matter what becomes of a text with digits that are not those of
ASCII, or of a position out of range. -/
namespace DocPath

/-! ### Numerals that are too long -/

/-- A numeral with more digits than are ever converted. -/
def Overlong (key : String) : Prop := Path.isNumeral key.toList = true ∧ digitLimit < key.length

instance (key : String) : Decidable (Overlong key) :=
  inferInstanceAs (Decidable (Path.isNumeral key.toList = true ∧ digitLimit < key.length))

theorem numberOf_error_iff (key : String) (f : Fault) :
    numberOf key = .error f ↔ Overlong key ∧ f = .tooManyDigits key.length := by
  rw [numberOf_eq, Overlong]
  by_cases hnumeral : Path.isNumeral key.toList = true
  · by_cases hlong : digitLimit < key.length
    · simp [hnumeral, hlong, eq_comm]
    · simp [hnumeral, hlong]
  · simp [hnumeral]

theorem entryOf_error_iff (kind : MappingKind) (entries : List (Value × Value)) (key : String)
    (f : Fault) :
    entryOf kind entries key = .error f ↔ Entries.find? (.text key) entries = none ∧
      (kind = .broken ∧ f = .keyNotFound key ∨ kind ≠ .broken ∧ numberOf key = .error f) := by
  rw [entryOf_eq]
  cases Entries.find? (.text key) entries with
  | some v => simp
  | none =>
    by_cases hbroken : kind = .broken
    · simp [hbroken, eq_comm]
    · simp only [hbroken, if_false, false_and, false_or, true_and, ne_eq, not_false_eq_true]
      rw [bind_error_iff, or_iff_left]
      rintro ⟨number, _, hfound⟩
      cases number <;> cases hfound

/-! ### The ways to fail -/

/-- A mapping says of a key that it is there. -/
def Claims (kind : MappingKind) (entries : List (Value × Value)) (key : Value) : Prop :=
  kind = .broken ∨ (Entries.find? key entries).isSome = true

/-- A name is left to the fallback: there is nothing of that name, or what there is finds no such
attribute. -/
def LeftToFallback (members : List (String × Member)) (name : String) : Prop :=
  ∀ m, members.lookup name = some m → ∃ r, m = .failing r ∧ r.family = .absence

/-- What a name stands for fails: the member of that name, or the fallback if the name is left to
it. -/
inductive GetterFails (members : List (String × Member)) (fallback : Option Member) (name : String)
    (r : Raised) : Prop where
  | member : members.lookup name = some (.failing r) → GetterFails members fallback name r
  | fallback : LeftToFallback members name → fallback = some (.failing r) →
      GetterFails members fallback name r

/-- The lookup of a key fails in a container when this adapter is asked. -/
inductive Fails (key : String) : Adapter → Value → Fault → Prop where
  /-- The mapping claims to contain the key and does not deliver. -/
  | undelivered {kind : MappingKind} {entries : List (Value × Value)}
      {attributes : List (String × Value)} : Claims kind entries (.text key) →
      Entries.find? (.text key) entries = none →
      Fails key .mapping (.mapping kind entries attributes) (.keyNotFound key)
  /-- The key is not there, and it is a numeral that is too long. -/
  | entry {kind : MappingKind} {entries : List (Value × Value)}
      {attributes : List (String × Value)} : ¬ Claims kind entries (.text key) → Overlong key →
      Fails key .mapping (.mapping kind entries attributes) (.tooManyDigits key.length)
  /-- The key is a numeral that is too long, whatever the sequence. -/
  | item {v : Value} : Overlong key → Fails key .sequence v (.tooManyDigits key.length)
  /-- The key is a numeral, and the range has more items than can be counted. -/
  | range {r : Range} : Path.isNumeral key.toList = true → key.length ≤ digitLimit →
      lengthLimit < r.length → Fails key .sequence (.range r) .rangeTooLong
  /-- The getter of a public name ends the run. -/
  | getter {className : String} {getters own shared : List (String × Member)}
      {fallback : Option Member} {r : Raised} : key ≠ "" → isPrivate key = false →
      GetterFails (getters ++ own ++ shared) fallback key r → r.family = .fatal →
      Fails key .attribute (.object className getters own shared fallback) (.interrupted r)

theorem not_claims_iff (kind : MappingKind) (entries : List (Value × Value)) (key : Value) :
    ¬ Claims kind entries key ↔ kind ≠ .broken ∧ Entries.find? key entries = none := by
  simp [Claims]

theorem lookup_mapping_error_iff (kind : MappingKind) (entries : List (Value × Value))
    (attributes : List (String × Value)) (key : String) (f : Fault) :
    (Adapter.lookup .mapping (.mapping kind entries attributes) key).outcome = .error f ↔
      Fails key .mapping (.mapping kind entries attributes) f := by
  show entryOf kind entries key = .error f ↔ _
  rw [entryOf_error_iff]
  constructor
  · rintro ⟨habsent, ⟨hbroken, rfl⟩ | ⟨hkind, hnumber⟩⟩
    · exact .undelivered (.inl hbroken) habsent
    · obtain ⟨hlong, rfl⟩ := (numberOf_error_iff key f).mp hnumber
      exact .entry ((not_claims_iff ..).mpr ⟨hkind, habsent⟩) hlong
  · intro h
    cases h with
    | undelivered hclaims habsent =>
      refine ⟨habsent, .inl ⟨?_, rfl⟩⟩
      rcases hclaims with hbroken | hpresent
      · exact hbroken
      · rw [habsent] at hpresent
        cases hpresent
    | entry hclaims hlong =>
      obtain ⟨hkind, habsent⟩ := (not_claims_iff ..).mp hclaims
      exact ⟨habsent, .inr ⟨hkind, (numberOf_error_iff ..).mpr ⟨hlong, rfl⟩⟩⟩

/-! ### Sequences -/

theorem numberOf_ok_some_iff (key : String) (n : Nat) :
    numberOf key = .ok (some n) ↔ Path.isNumeral key.toList = true ∧ key.length ≤ digitLimit ∧
      n = Text.digitsValue key.toList := by
  rw [numberOf_eq]
  by_cases hnumeral : Path.isNumeral key.toList = true
  · by_cases hlong : digitLimit < key.length
    · simp [hnumeral, hlong, Nat.not_le.mpr hlong]
    · simp [hnumeral, hlong, Nat.le_of_not_lt hlong, eq_comm]
  · simp [hnumeral]

theorem itemOf_error_iff (n : Nat) (v : Value) (f : Fault) :
    itemOf n v = .error f ↔ ∃ r, v = .range r ∧ lengthLimit < r.length ∧ f = .rangeTooLong := by
  rw [itemOf_eq]
  cases v with
  | range r =>
    by_cases hlong : lengthLimit < r.length
    · simp [hlong, eq_comm]
    · simp [hlong]
  | _ => simp

theorem lookup_sequence_error_iff (v : Value) (key : String) (f : Fault) :
    (Adapter.lookup .sequence v key).outcome = .error f ↔ Fails key .sequence v f := by
  show (numberOf key >>= _) = .error f ↔ _
  rw [bind_error_iff]
  constructor
  · rintro (hnumber | ⟨number, hnumber, hitem⟩)
    · obtain ⟨hlong, rfl⟩ := (numberOf_error_iff key f).mp hnumber
      exact .item hlong
    · cases number with
      | none => cases hitem
      | some n =>
        obtain ⟨hnumeral, hshort, _⟩ := (numberOf_ok_some_iff key n).mp hnumber
        obtain ⟨r, rfl, hlong, rfl⟩ := (itemOf_error_iff n v f).mp hitem
        exact .range hnumeral hshort hlong
  · intro h
    cases h with
    | item hlong => exact .inl ((numberOf_error_iff ..).mpr ⟨hlong, rfl⟩)
    | @range r hnumeral hshort hlong =>
      refine .inr ⟨_, (numberOf_ok_some_iff key _).mpr ⟨hnumeral, hshort, rfl⟩, ?_⟩
      exact (itemOf_error_iff ..).mpr ⟨r, rfl, hlong, rfl⟩

/-! ### Attributes -/

section

variable {getters own shared : List (String × Member)} {fallback : Option Member} {name : String}

theorem memberOf_of_leftToFallback (h : LeftToFallback (getters ++ own ++ shared) name) :
    memberOf getters own shared fallback name = fallback := by
  rw [memberOf]
  cases hlookup : (getters ++ own ++ shared).lookup name with
  | none => rfl
  | some m =>
    obtain ⟨r, rfl, habsence⟩ := h m hlookup
    exact if_pos habsence

theorem memberOf_of_not_leftToFallback (h : ¬ LeftToFallback (getters ++ own ++ shared) name) :
    memberOf getters own shared fallback name = (getters ++ own ++ shared).lookup name := by
  rw [memberOf]
  cases hlookup : (getters ++ own ++ shared).lookup name with
  | none =>
    refine absurd (fun m hm => ?_) h
    rw [hlookup] at hm
    cases hm
  | some m =>
    cases m with
    | data _ | routine => rfl
    | failing r =>
      refine if_neg fun habsence => h fun m hm => ⟨r, ?_, habsence⟩
      exact Option.some.inj (hm.symm.trans hlookup)

/-- A name stands for a failure other than for want of the attribute exactly if what it stands for
fails in this way. -/
theorem memberOf_eq_failing_iff {r : Raised} (hr : r.family ≠ .absence) :
    memberOf getters own shared fallback name = some (.failing r) ↔
      GetterFails (getters ++ own ++ shared) fallback name r := by
  by_cases hleft : LeftToFallback (getters ++ own ++ shared) name
  · rw [memberOf_of_leftToFallback hleft]
    refine ⟨.fallback hleft, fun h => ?_⟩
    cases h with
    | member hmember =>
      obtain ⟨r', hsame, habsence⟩ := hleft _ hmember
      cases hsame
      exact absurd habsence hr
    | fallback _ hfallback => exact hfallback
  · rw [memberOf_of_not_leftToFallback hleft]
    refine ⟨.member, fun h => ?_⟩
    cases h with
    | member hmember => exact hmember
    | fallback hleft' _ => exact absurd hleft' hleft

end

theorem dataOf_error_iff (className name : String) (m : Member) (f : Fault) :
    (dataOf className name m).outcome = .error f ↔
      ∃ r, m = .failing r ∧ r.family = .fatal ∧ f = .interrupted r := by
  cases m with
  | data _ | routine => simp [dataOf, Trace.pure]
  | failing r =>
    rw [dataOf]
    cases hfamily : r.family with
    | absence | ordinary => simp [hfamily, Trace.pure]
    | fatal => simp [hfamily, Trace.fail, eq_comm]

theorem attributeOf_object_error_iff (className : String)
    (getters own shared : List (String × Member)) (fallback : Option Member) (name : String)
    (f : Fault) :
    (attributeOf name (.object className getters own shared fallback)).outcome = .error f ↔
      ∃ r, GetterFails (getters ++ own ++ shared) fallback name r ∧ r.family = .fatal ∧
        f = .interrupted r := by
  constructor
  · intro h
    rw [attributeOf] at h
    cases hmember : memberOf getters own shared fallback name with
    | none =>
      rw [hmember] at h
      cases h
    | some m =>
      rw [hmember] at h
      obtain ⟨r, rfl, hfatal, rfl⟩ := (dataOf_error_iff ..).mp h
      exact ⟨r, (memberOf_eq_failing_iff (by simp [hfatal])).mp hmember, hfatal, rfl⟩
  · rintro ⟨r, hfails, hfatal, rfl⟩
    rw [attributeOf, (memberOf_eq_failing_iff (by simp [hfatal])).mpr hfails]
    exact (dataOf_error_iff ..).mpr ⟨r, rfl, hfatal, rfl⟩

theorem lookup_attribute_error_iff (v : Value) (key : String) (f : Fault) :
    (Adapter.lookup .attribute v key).outcome = .error f ↔ Fails key .attribute v f := by
  by_cases hread : key ≠ "" ∧ isPrivate key = false
  · obtain ⟨hempty, hpublic⟩ := hread
    have hlookup : Adapter.lookup .attribute v key = attributeOf key v := by
      simp [Adapter.lookup_attribute, hempty, hpublic]
    rw [hlookup]
    cases v with
    | object className getters own shared fallback =>
      rw [attributeOf_object_error_iff]
      constructor
      · rintro ⟨r, hfound, hfatal, rfl⟩
        exact .getter hempty hpublic hfound hfatal
      · intro h
        cases h with
        | getter _ _ hfound hfatal => exact ⟨_, hfound, hfatal, rfl⟩
    | sequence kind items =>
      refine iff_of_false ?_ (fun h => by cases h)
      cases kind <;> simp [attributeOf, Trace.pure]
    | _ =>
      refine iff_of_false ?_ (fun h => by cases h)
      simp [attributeOf, Trace.pure]
  · have hlookup : Adapter.lookup .attribute v key = .pure .missing := by
      have hskipped : (decide (key = "") || isPrivate key) = true := by
        by_cases hempty : key = ""
        · simp [hempty]
        · simpa [hempty] using hread
      rw [Adapter.lookup_attribute, if_pos hskipped]
    rw [hlookup]
    refine iff_of_false (by simp [Trace.pure]) fun h => ?_
    cases h with
    | getter hempty hpublic _ _ => exact hread ⟨hempty, hpublic⟩

/-! ### All adapters -/

theorem Adapter.lookup_error_iff {a : Adapter} {v : Value} (h : a.supports v = true) (key : String)
    (f : Fault) : (a.lookup v key).outcome = .error f ↔ Fails key a v f := by
  cases a with
  | mapping =>
    cases v with
    | mapping kind entries attributes => exact lookup_mapping_error_iff ..
    | _ => cases h
  | sequence => exact lookup_sequence_error_iff ..
  | «attribute» => exact lookup_attribute_error_iff ..

theorem lookup_error_iff (adapters : List Adapter) (v : Value) (key : String) (f : Fault) :
    (lookup adapters v key).outcome = .error f ↔
      ∃ a, adapters.find? (·.supports v) = some a ∧ Fails key a v f := by
  cases hfirst : adapters.find? (·.supports v) with
  | none => simp [lookup_of_unsupported hfirst, Trace.pure]
  | some a =>
    have hsupports : a.supports v = true := by simpa using List.find?_some hfirst
    simp [lookup_of_supports hfirst, Adapter.lookup_error_iff hsupports]

/-! ### What a lookup leaves to others -/

namespace Primitives

variable {p : Primitives} (h : p.Sound)

include h

theorem Sound.lookupIn_eq (a : Adapter) (v : Value) (key : String) :
    p.lookupIn a v key = a.lookup v key := by
  have hnumber : p.numberOf key = DocPath.numberOf key := by
    rw [h.numberOf_eq, DocPath.numberOf_eq]
  cases a with
  | mapping =>
    cases v with
    | mapping kind entries attributes =>
      rw [lookupIn, entryOf, hnumber]
      rfl
    | _ => rfl
  | sequence =>
    rw [lookupIn, hnumber, Adapter.lookup_sequence]
    simp only [h.itemOf_eq, DocPath.itemOf_eq]
  | «attribute» => rfl

/-- A lookup needs no more than what sound primitives do. -/
theorem Sound.lookup_eq (adapters : List Adapter) (v : Value) (key : String) :
    p.lookup adapters v key = DocPath.lookup adapters v key := by
  rw [lookup]
  cases hfirst : adapters.find? (·.supports v) with
  | none => exact (lookup_of_unsupported hfirst key).symm
  | some a =>
    rw [lookup_of_supports hfirst]
    exact h.lookupIn_eq a v key

end Primitives

end DocPath
