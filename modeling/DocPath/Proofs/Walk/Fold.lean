import DocPath.Proofs.Path.Expressible
import DocPath.Walk.Basic

/-! A walk is a fold of lookups.

A walk ends early where it finds the marker for what is missing, and at an empty key. The first
makes no difference to its outcome, since no adapter supports the marker: looking up further keys
would only find it again (`descend_missing`). So the outcome of a walk is that of looking up every
key before the first empty one (`outcome_walk`), and a walk along keys that are not empty can be
cut anywhere (`descend_append`, `outcome_walk_append`). A path that was written for keys leads where
the keys lead (`outcome_traverse_of_format`). -/
namespace DocPath

theorem bind_ok_iff {ε α β : Type} (x : Except ε α) (f : α → Except ε β) (b : β) :
    x >>= f = .ok b ↔ ∃ a, x = .ok a ∧ f a = .ok b := by
  cases x <;> simp [bind, Except.bind]

theorem bind_error_iff {ε α β : Type} (x : Except ε α) (f : α → Except ε β) (e : ε) :
    x >>= f = .error e ↔ x = .error e ∨ ∃ a, x = .ok a ∧ f a = .error e := by
  cases x <;> simp [bind, Except.bind]

/-! ### One lookup after the other -/

/-- Looks up one key after the other, with no early end. -/
def descend (adapters : List Adapter) (v : Value) (keys : List String) : Except Fault Value :=
  keys.foldlM (fun v key => (lookup adapters v key).outcome) v

variable (adapters : List Adapter)

theorem descend_cons (v : Value) (key : String) (keys : List String) :
    descend adapters v (key :: keys) =
      (lookup adapters v key).outcome >>= fun w => descend adapters w keys := by
  rw [descend, List.foldlM_cons]
  rfl

theorem descend_append (v : Value) (keys more : List String) :
    descend adapters v (keys ++ more) =
      descend adapters v keys >>= fun w => descend adapters w more :=
  List.foldlM_append

/-- No adapter finds anything in the marker for what is missing. -/
theorem lookup_missing (key : String) : lookup adapters .missing key = .pure .missing := by
  have hnone : adapters.find? (·.supports .missing) = none := by
    rw [List.find?_eq_none]
    intro a _
    cases a <;> simp [Adapter.supports]
  exact lookup_of_unsupported hnone key

theorem descend_missing (keys : List String) :
    descend adapters .missing keys = .ok .missing := by
  induction keys with
  | nil => rfl
  | cons key keys ih =>
    rw [descend_cons, lookup_missing]
    exact ih

/-- One lookup after the other fails where one of them does that it comes to. -/
theorem descend_error_iff (v : Value) (keys : List String) (f : Fault) :
    descend adapters v keys = .error f ↔
      ∃ before key after w, keys = before ++ key :: after ∧
        descend adapters v before = .ok w ∧ (lookup adapters w key).outcome = .error f := by
  constructor
  · intro h
    induction keys generalizing v with
    | nil => cases h
    | cons key keys ih =>
      rw [descend_cons] at h
      rcases (bind_error_iff ..).mp h with hlookup | ⟨w, hlookup, hrest⟩
      · exact ⟨[], key, keys, v, rfl, rfl, hlookup⟩
      · obtain ⟨before, last, after, w', rfl, hbefore, hlast⟩ := ih w hrest
        refine ⟨key :: before, last, after, w', rfl, ?_, hlast⟩
        rw [descend_cons, hlookup]
        exact hbefore
  · rintro ⟨before, key, after, w, rfl, hbefore, hlookup⟩
    rw [descend_append, hbefore]
    show descend adapters w (key :: after) = _
    rw [descend_cons, hlookup]
    rfl

/-! ### Walks -/

/-- **The early end of a walk does not change its outcome**: it is that of looking up every key
before the first empty one. -/
theorem outcome_walk (keys : List String) (v : Value) :
    (walk adapters keys v).outcome = descend adapters v (keys.takeWhile (· ≠ "")) := by
  induction keys generalizing v with
  | nil => rfl
  | cons key keys ih =>
    rw [walk_cons]
    by_cases hempty : key = ""
    · rw [if_pos hempty, List.takeWhile_cons_of_neg (by simpa using hempty)]
      rfl
    rw [if_neg hempty, List.takeWhile_cons_of_pos (by simpa using hempty)]
    cases v with
    | missing => exact (descend_missing adapters _).symm
    | _ =>
      rw [descend_cons]
      show Trace.outcome (_ >>= _) = _
      rw [Trace.outcome_bind]
      simp only [ih]

theorem outcome_walk_of_forall {keys : List String} (h : ∀ key ∈ keys, key ≠ "") (v : Value) :
    (walk adapters keys v).outcome = descend adapters v keys := by
  have hall : (keys ++ []).takeWhile (· ≠ "") = keys ++ [] :=
    List.takeWhile_append_of_pos fun key hkey => by simpa using h key hkey
  rw [List.append_nil] at hall
  rw [outcome_walk, hall]

/-! ### Walks one after the other -/

theorem outcome_walk_append {keys : List String} (h : "" ∉ keys) (more : List String) (v : Value) :
    (walk adapters (keys ++ more) v).outcome =
      (walk adapters keys v).outcome >>= fun w => (walk adapters more w).outcome := by
  have hkeys : ∀ key ∈ keys, key ≠ "" := by
    intro key hmem hempty
    exact h (hempty ▸ hmem)
  have htake : (keys ++ more).takeWhile (· ≠ "") = keys ++ more.takeWhile (· ≠ "") :=
    List.takeWhile_append_of_pos fun key hmem => by simpa using hkeys key hmem
  rw [outcome_walk, htake, descend_append, outcome_walk_of_forall adapters hkeys]
  simp only [outcome_walk]

/-- **A walk is a plain fold of lookups, and walks compose.** It ends as if every key before the
first empty one had been looked up, with no early end, whether or not the way is lost on it. So a
walk along keys that are not empty, and from where it ends a walk along any others, end as the walk
along all of them does; what is wrong in the first is wrong in the whole. -/
theorem walk_folds (t : Value) :
    (∀ keys, (walk adapters keys t).outcome =
      (keys.takeWhile (· ≠ "")).foldlM (fun v key => (lookup adapters v key).outcome) t) ∧
    (∀ keys more, "" ∉ keys → (walk adapters (keys ++ more) t).outcome =
      (walk adapters keys t).outcome >>= fun v => (walk adapters more v).outcome) :=
  ⟨fun keys => outcome_walk adapters keys t,
    fun _ more h => outcome_walk_append adapters h more t⟩

/-- A way that is lost in the first walk, with an empty key in the second, and a first walk that
fails. -/
theorem walk_folds_lost :
    "" ∉ ["a", "b"] ∧
    (walk [.mapping] (["a", "b"] ++ ["c", "", "d"])
        (.map .plain [(.text "a", .missing)] [])).outcome =
      (walk [.mapping] ["c", "", "d"] .missing).outcome ∧
    (walk [.mapping] (["a", "b"] ++ ["c", "", "d"]) (.map .broken [] [])).outcome =
      .error (.keyNotFound "a") := by
  have hkeys : "" ∉ ["a", "b"] := by decide
  exact ⟨hkeys, (walk_folds [.mapping] (.map .plain [(.text "a", .missing)] [])).2 _ _ hkeys,
    (walk_folds [.mapping] (.map .broken [] [])).2 _ _ hkeys⟩

/-! ### Walks along a path -/

theorem outcome_keysFor {path : String} {keys : List String}
    (h : (Path.parse path).outcome = .ok keys) : (keysFor path).outcome = .ok keys := by
  show (Path.parse path).outcome.mapError _ = _
  rw [h]
  rfl

theorem outcome_traverse {path : String} {keys : List String}
    (h : (Path.parse path).outcome = .ok keys) (target : Value) :
    (traverse adapters path target).outcome = (walk adapters keys target).outcome := by
  rw [traverse_eq, Trace.outcome_bind, outcome_keysFor h]
  rfl

/-- A path written for keys leads where the keys lead. No keys at all have the empty path, which
leads nowhere else either. -/
theorem outcome_traverse_of_format {keys : List String} {path : String}
    (h : Path.format keys = .ok path) (target : Value) :
    (traverse adapters path target).outcome = (walk adapters keys target).outcome := by
  by_cases hne : keys = []
  · subst hne
    cases h
    rfl
  · exact outcome_traverse adapters (Path.parse_of_format hne h) target

end DocPath
