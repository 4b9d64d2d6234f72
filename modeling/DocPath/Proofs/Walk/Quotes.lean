import DocPath.Proofs.Path.Keys
import DocPath.Proofs.Path.Viability
import DocPath.Walk.Basic

/-! The style of quotes shows in a reported character, and nowhere else.

A path is judged by its canonical spelling but reported as it was written. The scanner takes the
same step for either quote (`step_canonical`), so by induction on the text a scan of the canonical
spelling ends like a scan of the path itself, except that it reports the character in canonical
spelling (`run_canonicalChars`). Two paths with one canonical spelling are then accepted or refused
together, for the same reason at the same place, and those that are accepted have the same keys:
whatever is done with the keys, a walk or the search for a parent, is the same for both. -/
namespace DocPath

namespace Path

/-! ### The scan -/

namespace Scan

/-- The scanner does not tell the quotes apart. -/
theorem step_canonical (s : State) (c : Char) : step s (canonical c) = step s c := by
  by_cases hquote : c = '\x27'
  · subst hquote
    cases s <;> rfl
  · rw [canonical, if_neg hquote]

/-- A stop as it is reported for the canonical spelling of a path. -/
def Stop.canonical (stop : Stop) : Stop := { stop with found := stop.found.map Path.canonical }

/-- The scan of the canonical spelling is that of the path but for the character it reports. -/
theorem run_canonicalChars (s : State) (index : Nat) (cs : List Char) :
    run s index (canonicalChars cs) = (run s index cs).mapError Stop.canonical := by
  induction cs generalizing s index with
  | nil =>
    show run s index [] = _
    rw [run]
    cases due s <;> rfl
  | cons c cs ih =>
    show run s index (canonical c :: canonicalChars cs) = _
    rw [run, run, step_canonical]
    cases step s c with
    | error e => rfl
    | ok s' => exact ih s' (index + 1)

end Scan

/-! ### The verdict -/

/-- A path is accepted if its canonical spelling is. -/
theorem accepted_iff_canonical (path : String) :
    Accepted path ↔ Scan.run .start 0 (canonicalChars path.toList) = .ok () := by
  rw [accepted_iff_run, Scan.run_canonicalChars]
  cases Scan.run .start 0 path.toList with
  | ok _ => exact iff_of_true rfl rfl
  | error stop => exact iff_of_false (fun h => by cases h) (fun h => by cases h)

/-- A path is refused where its canonical spelling is, and for the same reason. -/
theorem run_canonical_of_refused {path : String} {r : Rejection}
    (h : (validate path).outcome = .error r) :
    Scan.run .start 0 (canonicalChars path.toList) =
      .error ⟨r.index, r.found.map canonical, r.expected⟩ := by
  rw [Scan.run_canonicalChars, ((refused_iff_run path r).mp h).2]
  rfl

/-- Two refusals that differ in their paths only, and in the characters these have at the index. -/
structure Rejection.Alike (p q : String) (r r' : Rejection) : Prop where
  index : r.index = r'.index
  /-- And so is the text that says it. -/
  expected : r.expected = r'.expected
  path : r.path = p ∧ r'.path = q
  found : r.found = p.toList[r.index]? ∧ r'.found = q.toList[r'.index]?
  found_none : r.found = none ↔ r'.found = none

section

variable {p q : String} (h : normalizeQuotes p = normalizeQuotes q)

include h

theorem canonicalChars_eq_of_normalizeQuotes :
    canonicalChars p.toList = canonicalChars q.toList := by
  rwa [normalizeQuotes, normalizeQuotes, String.ofList_inj] at h

theorem accepted_iff_of_normalizeQuotes : Accepted p ↔ Accepted q := by
  rw [accepted_iff_canonical, accepted_iff_canonical, canonicalChars_eq_of_normalizeQuotes h]

theorem alike_of_normalizeQuotes {r r' : Rejection} (hp : (validate p).outcome = .error r)
    (hq : (validate q).outcome = .error r') : Rejection.Alike p q r r' := by
  have hstop := run_canonical_of_refused hp
  rw [canonicalChars_eq_of_normalizeQuotes h, run_canonical_of_refused hq] at hstop
  obtain ⟨hindex, hfound, hexpected⟩ := Scan.Stop.mk.inj (Except.error.inj hstop)
  refine ⟨hindex.symm, hexpected.symm, ?_, ⟨found_of_refused hp, found_of_refused hq⟩, ?_⟩
  · exact ⟨((refused_iff_run p r).mp hp).1, ((refused_iff_run q r').mp hq).1⟩
  · rw [← Option.map_eq_none_iff, ← hfound, Option.map_eq_none_iff]

/-- Parsing gives the same keys, and reports the same. -/
theorem parse_eq_of_normalizeQuotes (hp : Accepted p) : parse p = parse q := by
  have hq : Accepted q := (accepted_iff_of_normalizeQuotes h).mp hp
  rw [parse_of_accepted hp, parse_of_accepted hq, h, canonicalChars_eq_of_normalizeQuotes h]

end

end Path

/-! ### Walks -/

/-- What is done along a path depends on its keys alone. -/
theorem walks_eq_of_parse_eq {p q : String} (h : Path.parse p = Path.parse q)
    (adapters : List Adapter) (target : Value) :
    traverse adapters p target = traverse adapters q target ∧
      Parent.find adapters p target = Parent.find adapters q target := by
  have hkeys : keysFor p = keysFor q := by rw [keysFor, keysFor, h]
  constructor
  · rw [traverse_eq, traverse_eq, hkeys]
  · rw [Parent.find, Parent.find, hkeys]

/-- **The style of quotes is never observable except in a reported character.** Of two paths that
differ in their quotes only both are accepted or neither is. If they are refused, it is at the same
index and for the same reason, and each refusal reports its own path and the character it has there.
If they are accepted, parsing, walking and finding the parent are the same for both, down to what
they report. -/
theorem quotes_unobservable (p q : String) (h : Path.normalizeQuotes p = Path.normalizeQuotes q) :
    (Path.Accepted p ↔ Path.Accepted q) ∧
    (∀ r r', (Path.validate p).outcome = .error r → (Path.validate q).outcome = .error r' →
      Path.Rejection.Alike p q r r') ∧
    (Path.Accepted p → Path.Accepted q → Path.parse p = Path.parse q ∧
      ∀ (adapters : List Adapter) (target : Value),
        traverse adapters p target = traverse adapters q target ∧
        Parent.find adapters p target = Parent.find adapters q target) := by
  refine ⟨Path.accepted_iff_of_normalizeQuotes h, fun r r' hp hq => ?_, fun hp _ => ?_⟩
  · exact Path.alike_of_normalizeQuotes h hp hq
  · have hparse : Path.parse p = Path.parse q := Path.parse_eq_of_normalizeQuotes h hp
    exact ⟨hparse, walks_eq_of_parse_eq hparse⟩

/-- Quotes that do not match, and quotes around nothing. -/
theorem quotes_unobservable_mixed :
    (Path.normalizeQuotes "a['x-y\"]" = Path.normalizeQuotes "a[\"x-y']" ∧
      Path.Accepted "a['x-y\"]" ∧ Path.Accepted "a[\"x-y']" ∧
      Path.parse "a['x-y\"]" = Path.parse "a[\"x-y']" ∧
      traverse [.mapping] "a['x-y\"]" (.map .broken [] []) =
        traverse [.mapping] "a[\"x-y']" (.map .broken [] [])) ∧
    (Path.normalizeQuotes "a['']" = Path.normalizeQuotes "a[\"\"]" ∧
      Path.Rejection.Alike "a['']" "a[\"\"]" ⟨"a['']", 3, some '\x27', .nameAfterQuote⟩
        ⟨"a[\"\"]", 3, some '"', .nameAfterQuote⟩) := by
  have hmixed : Path.normalizeQuotes "a['x-y\"]" = Path.normalizeQuotes "a[\"x-y']" :=
    congrArg String.ofList (by decide)
  have hempty : Path.normalizeQuotes "a['']" = Path.normalizeQuotes "a[\"\"]" :=
    congrArg String.ofList (by decide)
  have hp : Path.Accepted "a['x-y\"]" := by rfl
  have hq : Path.Accepted "a[\"x-y']" := (quotes_unobservable _ _ hmixed).1.mp hp
  obtain ⟨hparse, hwalks⟩ := (quotes_unobservable _ _ hmixed).2.2 hp hq
  exact ⟨⟨hmixed, hp, hq, hparse, (hwalks [.mapping] (.map .broken [] [])).1⟩, hempty,
    (quotes_unobservable _ _ hempty).2.1 _ _ (by rfl) (by rfl)⟩

end DocPath
