import DocPath.Proofs.Walk.Failures
import DocPath.Proofs.Walk.Parent

/-! Self-references.

A walk ends at an empty key, and whatever keys come after it are never looked at. Of the keys of a
path only the first can be empty, and it is for the empty path and for the paths that open with a
bracket (`Path.parse_first`). These lead from a document to itself, however keys are looked up
(`traverseBy_of_selfReference`), and they have no parent. For every other path no key is skipped,
and what can go wrong on the way is what can go wrong with a lookup (`Fault.OfLookup`). -/
namespace DocPath

/-! ### Walks that look up nothing -/

section

variable (find : Value → String → Trace Fault Value)

/-- With an empty key in front there is nothing to do after parsing. -/
theorem traverseBy_of_selfReference {path : String} {rest : List String}
    (h : (Path.parse path).outcome = .ok ("" :: rest)) (target : Value) :
    traverseBy find path target = ⟨(Path.parse path).events, .ok target⟩ := by
  have hkeys : keysFor path = ⟨(Path.parse path).events, .ok ("" :: rest)⟩ := by
    rw [keysFor, Trace.mapError, h]
    rfl
  rw [traverseBy, hkeys]
  show Trace.mk ((Path.parse path).events ++ []) (.ok target) = _
  rw [List.append_nil]

end

theorem outcome_find_of_selfReference (adapters : List Adapter) {path : String} {rest : List String}
    (h : (Path.parse path).outcome = .ok ("" :: rest)) (target : Value) :
    (Parent.find adapters path target).outcome = .error .selfReference := by
  rw [Parent.find, Trace.outcome_bind, outcome_keysFor h]
  rfl

/-! ### What can go wrong with a lookup -/

/-- The faults of a lookup. It reads no path, so it never finds one malformed or a self-reference,
and of the failures of a getter it lets the fatal ones through only. -/
def Fault.OfLookup : Fault → Prop
  | .malformed _ | .selfReference => False
  | .interrupted r => r.family = .fatal
  | .keyNotFound _ | .tooManyDigits _ | .rangeTooLong => True

theorem Fails.ofLookup {key : String} {a : Adapter} {v : Value} {f : Fault} (h : Fails key a v f) :
    f.OfLookup := by
  cases h with
  | undelivered _ _ | entry _ _ | item _ | range _ _ _ => trivial
  | getter _ _ _ hfatal => exact hfatal

/-- Nor does anything else go wrong with one lookup after the other. -/
theorem descend_error {adapters : List Adapter} {v : Value} {keys : List String} {f : Fault}
    (h : descend adapters v keys = .error f) : f.OfLookup := by
  obtain ⟨_, key, _, w, _, _, hlookup⟩ := (descend_error_iff ..).mp h
  obtain ⟨a, _, hfails⟩ := (lookup_error_iff ..).mp hlookup
  exact hfails.ofLookup

/-! ### Paths that lead somewhere -/

theorem outcome_traverse_of_not_selfReference (adapters : List Adapter) {path : String}
    {keys : List String} (hparse : (Path.parse path).outcome = .ok keys) (hkeys : "" ∉ keys)
    (target : Value) :
    (traverse adapters path target).outcome = descend adapters target keys := by
  rw [outcome_traverse adapters hparse, outcome_walk_of_forall]
  rintro key hmem rfl
  exact hkeys hmem

/-- The parent of such a path is looked for, and not refused. -/
theorem find_error (adapters : List Adapter) {path : String} (h : Path.Accepted path)
    (hself : ¬ Path.SelfReference path) {target : Value} {f : Fault}
    (hfind : (Parent.find adapters path target).outcome = .error f) : f.OfLookup := by
  obtain ⟨hne, hbracket⟩ := not_or.mp hself
  obtain ⟨keys, last, hparse, hkeys⟩ := Path.parse_concat h hne hbracket
  have htraverse := outcome_traverse_eq_find adapters hparse hkeys target
  have hempty : "" ∉ keys ++ [last] := fun hmem => hkeys "" hmem rfl
  rw [outcome_traverse_of_not_selfReference adapters hparse hempty, hfind] at htraverse
  exact descend_error htraverse

/-- **Self-references are exactly the empty path and the paths that open with a bracket.** These are
the paths with an empty key, which is the first and the only one. Walking along one of them gives
the target back, with nothing to report after parsing and however keys are looked up, and it has no
parent. For any other path the parent is never refused as that of a self-reference, and a walk along
it looks up all of its keys. -/
theorem self_references (path : String) (h : Path.Accepted path) :
    ∃ keys, (Path.parse path).outcome = .ok keys ∧
      (∀ i : Nat, keys[i]? = some "" → i = 0) ∧
      ("" ∈ keys ↔ path = "" ∨ path.toList.head? = some '[') ∧
      (path = "" ∨ path.toList.head? = some '[' →
        ∀ (adapters : List Adapter) (target : Value),
          traverse adapters path target = ⟨(Path.parse path).events, .ok target⟩ ∧
          (∀ find, traverseBy find path target = ⟨(Path.parse path).events, .ok target⟩) ∧
          (Parent.find adapters path target).outcome = .error .selfReference) ∧
      (¬ (path = "" ∨ path.toList.head? = some '[') →
        ∀ (adapters : List Adapter) (target : Value),
          (Parent.find adapters path target).outcome ≠ .error .selfReference ∧
          (traverse adapters path target).outcome = descend adapters target keys) := by
  obtain ⟨first, rest, hparse, hrest, hfirst⟩ := Path.parse_first h
  have hmem : "" ∈ first :: rest ↔ Path.SelfReference path := by
    rw [List.mem_cons, or_iff_left hrest, ← hfirst, eq_comm]
  refine ⟨first :: rest, hparse, ?_, hmem, ?_, ?_⟩
  · intro i hi
    cases i with
    | zero => rfl
    | succ i =>
      rw [List.getElem?_cons_succ] at hi
      exact absurd (List.mem_of_getElem? hi) hrest
  · intro hself adapters target
    rw [hfirst.mpr hself] at hparse
    refine ⟨?_, ?_, outcome_find_of_selfReference adapters hparse target⟩
    · exact traverseBy_of_selfReference (lookup adapters) hparse target
    · exact fun find => traverseBy_of_selfReference find hparse target
  · intro hself adapters target
    refine ⟨fun hfind => find_error adapters h hself hfind, ?_⟩
    exact outcome_traverse_of_not_selfReference adapters hparse (mt hmem.mp hself) target

/-- A bracket in front hides even a lookup that would fail; behind a name it does not. -/
theorem self_references_leading_bracket :
    Path.Accepted "[0].a" ∧
      (traverse [.mapping] "[0].a" (.map .broken [] [])).outcome = .ok (.map .broken [] []) ∧
      (Parent.find [.mapping] "[0].a" (.map .broken [] [])).outcome = .error .selfReference ∧
      Path.Accepted "x[0].a" ∧
      (Parent.find [.mapping] "x[0].a" .missing).outcome ≠ .error .selfReference := by
  obtain ⟨_, _, _, _, hself, _⟩ := self_references "[0].a" (by rfl)
  obtain ⟨htraverse, _, hfind⟩ := hself (.inr (by rfl)) [.mapping] (.map .broken [] [])
  obtain ⟨_, _, _, _, _, hother⟩ := self_references "x[0].a" (by rfl)
  have hopen : ¬ ("x[0].a" = "" ∨ "x[0].a".toList.head? = some '[') := by decide
  exact ⟨by rfl, by rw [htraverse], hfind, by rfl, (hother hopen [.mapping] .missing).1⟩

end DocPath
