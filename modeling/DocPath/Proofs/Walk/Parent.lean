import DocPath.Proofs.Walk.Fold

/-! The parent of a path agrees with the path.

Finding a parent walks along all keys but the last, and looks that one up where the walk ends; a
plain walk knows no last key. Both look up the same keys in the same order (`outcome_find`,
`outcome_traverse_concat`), so what is found under the last key is what the path leads to, and one
of them fails exactly if the other does, in the same way (`outcome_traverse_eq_find`). The keys
before the last are keys of a path again, and that path leads to the parent. -/
namespace DocPath

/-! ### The last key -/

/-- A path that is not empty and does not open with a bracket has a last key, and no empty one. -/
theorem Path.parse_concat {path : String} (h : Accepted path) (hne : path ≠ "")
    (hbracket : path.toList.head? ≠ some '[') :
    ∃ keys last, (parse path).outcome = .ok (keys ++ [last]) ∧
      ∀ key ∈ keys ++ [last], key ≠ "" := by
  obtain ⟨first, rest, hparse, hrest, hfirst⟩ := parse_first h
  have hself : ¬ SelfReference path := not_or.mpr ⟨hne, hbracket⟩
  have hkeys : first :: rest ≠ [] := List.cons_ne_nil first rest
  refine ⟨(first :: rest).dropLast, (first :: rest).getLast hkeys, ?_, ?_⟩
  · rw [List.dropLast_concat_getLast]
    exact hparse
  · rw [List.dropLast_concat_getLast]
    rintro key hmem rfl
    rcases List.mem_cons.mp hmem with hempty | hmem
    · exact hself (hfirst.mp hempty.symm)
    · exact hrest hmem

/-- The keys before the last can be written as a path. -/
theorem Path.format_init {path last : String} {keys : List String}
    (hparse : (parse path).outcome = .ok (keys ++ [last]))
    (hkeys : ∀ key ∈ keys ++ [last], key ≠ "") : ∃ parentPath, format keys = .ok parentPath := by
  by_cases hne : keys = []
  · subst hne
    exact ⟨"", rfl⟩
  · apply format_of_expressible (Expressible.of_append ⟨path, hparse⟩ hne)
    intro hempty
    exact hkeys "" (List.mem_append_left _ (List.mem_of_head? hempty)) rfl

/-! ### The two ways to the last key -/

section

variable (adapters : List Adapter) {path last : String} {keys : List String}
  (hparse : (Path.parse path).outcome = .ok (keys ++ [last]))
  (hkeys : ∀ key ∈ keys ++ [last], key ≠ "")

include hparse hkeys

theorem outcome_find (target : Value) :
    (Parent.find adapters path target).outcome = (do
      let value ← descend adapters target keys
      let child ← (lookup adapters value last).outcome
      return ⟨keys, value, last, child⟩) := by
  have hfirst : ¬ (keys ++ [last]).head? = some "" := by
    intro hempty
    exact hkeys "" (List.mem_of_head? hempty) rfl
  have hinit : ∀ key ∈ keys, key ≠ "" := (List.forall_mem_append.mp hkeys).1
  rw [Parent.find, Trace.outcome_bind, outcome_keysFor hparse]
  show Trace.outcome (if (keys ++ [last]).head? = some "" then _ else _) = _
  rw [if_neg hfirst]
  simp only [Trace.outcome_bind, List.dropLast_concat, List.getLastD_concat,
    outcome_walk_of_forall adapters hinit]
  rfl

theorem outcome_traverse_concat (target : Value) :
    (traverse adapters path target).outcome =
      descend adapters target keys >>= fun value => (lookup adapters value last).outcome := by
  rw [outcome_traverse adapters hparse, outcome_walk_of_forall adapters hkeys, descend_append]
  congr 1
  funext value
  rw [descend_cons]
  exact bind_pure _

/-- A path leads to the child of the parent that is found for it, and fails where no parent is
found. -/
theorem outcome_traverse_eq_find (target : Value) :
    (traverse adapters path target).outcome =
      (Parent.find adapters path target).outcome.map Parent.child := by
  rw [outcome_find adapters hparse hkeys, outcome_traverse_concat adapters hparse hkeys]
  cases descend adapters target keys with
  | error f => rfl
  | ok value =>
    show (lookup adapters value last).outcome = Except.map Parent.child (do
      let child ← (lookup adapters value last).outcome
      return ⟨keys, value, last, child⟩)
    cases (lookup adapters value last).outcome <;> rfl

end

/-! ### The parent -/

variable (adapters : List Adapter)

/-- What is found as the parent of a path fits what walks find. -/
structure Parent.Agrees (path : String) (target : Value) (r : Parent) : Prop where
  keys : (Path.parse path).outcome = .ok (r.keys ++ [r.childKey])
  value : (walk adapters r.keys target).outcome = .ok r.value
  /-- The keys of the parent have a path of their own. -/
  formatted : ∃ parentPath, Path.format r.keys = .ok parentPath ∧
    (traverse adapters parentPath target).outcome = .ok r.value
  child : (traverse adapters path target).outcome = .ok r.child

/-- **Finding the parent of a path agrees with walking along it.** The keys of the parent and the
child's are those of the path, the parent is where its keys and their path lead, and the child is
where the path leads; one of the two fails exactly if the other does, with the same fault. -/
theorem find_agrees_traverse (path : String) (h : Path.Accepted path) (hne : path ≠ "")
    (hbracket : path.toList.head? ≠ some '[') (target : Value) :
    (∀ r, (Parent.find adapters path target).outcome = .ok r →
      Parent.Agrees adapters path target r) ∧
    ∀ f, (Parent.find adapters path target).outcome = .error f ↔
      (traverse adapters path target).outcome = .error f := by
  obtain ⟨keys, last, hparse, hkeys⟩ := Path.parse_concat h hne hbracket
  have hchild := outcome_traverse_eq_find adapters hparse hkeys target
  constructor
  · intro r hfind
    rw [hfind] at hchild
    rw [outcome_find adapters hparse hkeys, bind_ok_iff] at hfind
    obtain ⟨value, hvalue, hfind⟩ := hfind
    obtain ⟨child, _, hfind⟩ := (bind_ok_iff ..).mp hfind
    cases hfind
    have hinit : ∀ key ∈ keys, key ≠ "" := (List.forall_mem_append.mp hkeys).1
    have hwalk : (walk adapters keys target).outcome = .ok value := by
      rw [outcome_walk_of_forall adapters hinit, hvalue]
    obtain ⟨parentPath, hformat⟩ := Path.format_init hparse hkeys
    refine ⟨hparse, hwalk, ⟨parentPath, hformat, ?_⟩, hchild⟩
    rw [outcome_traverse_of_format adapters hformat, hwalk]
  · intro f
    rw [hchild]
    cases (Parent.find adapters path target).outcome <;> simp [Except.map]

/-- A parent that is missing, and one that is not reached. -/
theorem find_agrees_traverse_missing_parent :
    Path.Accepted "a[0]['x-y']" ∧ "a[0]['x-y']" ≠ "" ∧ "a[0]['x-y']".toList.head? ≠ some '[' ∧
      Parent.Agrees [.mapping, .sequence] "a[0]['x-y']" (.map .plain [(.text "a", .list [])] [])
        ⟨["a", "0"], .missing, "x-y", .missing⟩ ∧
      (traverse [.mapping] "a[0]['x-y']" (.map .broken [] [])).outcome =
        .error (.keyNotFound "a") := by
  have h : Path.Accepted "a[0]['x-y']" := by rfl
  have hne : "a[0]['x-y']" ≠ "" := by decide
  have hbracket : "a[0]['x-y']".toList.head? ≠ some '[' := by decide
  have hfound : (Parent.find [.mapping, .sequence] "a[0]['x-y']"
      (.map .plain [(.text "a", .list [])] [])).outcome =
        .ok ⟨["a", "0"], .missing, "x-y", .missing⟩ := by rfl
  have hfailed : (Parent.find [.mapping] "a[0]['x-y']" (.map .broken [] [])).outcome =
      .error (.keyNotFound "a") := by rfl
  exact ⟨h, hne, hbracket, (find_agrees_traverse _ _ h hne hbracket _).1 _ hfound,
    ((find_agrees_traverse _ _ h hne hbracket _).2 _).mp hfailed⟩

end DocPath
