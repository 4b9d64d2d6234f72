import DocPath.Proofs.Path.Normal

/-! Formatting refuses exactly the keys that no path has.

Formatting tests one key at a time: may it stand bare, is it a name, a number, something quotes can
hold. Parsing knows no such tests, so that it is not plain from either that the keys formatting
takes are the keys parsing gives. They are, but for one thing: a path with an empty first key and
others after it opens with a bracket, and formatting writes no such path. A refusal is always about
one of the keys (`format_error`). The keys that a path begins with are again the keys of a path
(`Expressible.of_append`). -/
namespace DocPath.Path

/-- Some path has these keys. -/
def Expressible (keys : List String) : Prop := ∃ path, (parse path).outcome = .ok keys

/-! ### What is refused -/

theorem append_error {x y : Except FormatError (List Char)} {e : FormatError}
    (h : (do return (← x) ++ (← y)) = (.error e : Except FormatError (List Char))) :
    x = .error e ∨ y = .error e := by
  cases x with
  | error e' => exact .inl h
  | ok a =>
    cases y with
    | error e' => exact .inr h
    | ok b => cases h

theorem renderAccess_error {key : List Char} {e : FormatError} (h : renderAccess key = .error e) :
    e = .inexpressible (String.ofList key) := by
  rw [renderAccess] at h
  split at h
  · cases h
  · exact (Except.error.inj h).symm

theorem renderAccesses_error {keys : List (List Char)} {e : FormatError}
    (h : renderAccesses keys = .error e) :
    ∃ key ∈ keys, e = .inexpressible (String.ofList key) := by
  induction keys with
  | nil => cases h
  | cons key keys ih =>
    rcases append_error h with hkey | hkeys
    · exact ⟨key, List.mem_cons_self .., renderAccess_error hkey⟩
    · obtain ⟨other, hmem, he⟩ := ih hkeys
      exact ⟨other, List.mem_cons_of_mem key hmem, he⟩

theorem renderHead_error {key : List Char} {e : FormatError} (h : renderHead key = .error e) :
    e = .head (String.ofList key) := by
  rw [renderHead] at h
  split at h
  · cases h
  · exact (Except.error.inj h).symm

/-- A complaint is about one of the keys: that it cannot come first, or that it cannot be written
at all. -/
theorem renderKeys_error {keys : List (List Char)} {e : FormatError}
    (h : renderKeys keys = .error e) :
    ∃ key ∈ keys, e = .head (String.ofList key) ∨ e = .inexpressible (String.ofList key) := by
  cases keys with
  | nil => cases h
  | cons key keys =>
    rcases append_error h with hhead | haccesses
    · exact ⟨key, List.mem_cons_self .., .inl (renderHead_error hhead)⟩
    · obtain ⟨other, hmem, he⟩ := renderAccesses_error haccesses
      exact ⟨other, List.mem_cons_of_mem key hmem, .inr he⟩

theorem format_error {keys : List String} {e : FormatError} (h : format keys = .error e) :
    ∃ key ∈ keys, e = .head key ∨ e = .inexpressible key := by
  unfold format at h
  split at h
  · cases h
  cases hrender : renderKeys (keys.map String.toList) with
  | ok cs =>
    rw [hrender] at h
    cases h
  | error e' =>
    rw [hrender] at h
    cases h
    obtain ⟨_, hmem, he⟩ := renderKeys_error hrender
    obtain ⟨key, hkey, rfl⟩ := List.mem_map.mp hmem
    rw [String.ofList_toList] at he
    exact ⟨key, hkey, he⟩

/-! ### What is written -/

/-- No path that is written opens with a bracket. -/
theorem head_ne_empty_of_format {keys : List String} {path : String}
    (hkeys : ¬ (keys = [] ∨ keys = [""])) (h : format keys = .ok path) : keys.head? ≠ some "" := by
  rw [format, if_neg hkeys] at h
  cases keys with
  | nil => simp
  | cons key keys =>
    cases hrender : renderKeys ((key :: keys).map String.toList) with
    | error e =>
      rw [hrender] at h
      cases h
    | ok cs =>
      obtain ⟨_, _, hne, _⟩ := (renderKeys_cons_ok_iff ..).mp hrender
      simpa using hne

theorem expressible_of_format {keys : List String} {path : String} (hne : keys ≠ [])
    (h : format keys = .ok path) : Expressible keys :=
  ⟨path, parse_of_format hne h⟩

/-- What parsing gives can be written again, if the first key is not empty. -/
theorem format_of_expressible {keys : List String} (h : Expressible keys)
    (hfirst : keys.head? ≠ some "") : ∃ path, format keys = .ok path := by
  obtain ⟨path, hparse⟩ := h
  obtain ⟨e, he, rfl⟩ := (parse_ok_iff path keys).mp hparse
  have hhead : e.head ≠ [] := by
    intro hempty
    exact hfirst (by rw [Expression.keys, hempty]; rfl)
  exact ⟨_, format_keys he.1 fun hempty => absurd hempty hhead⟩

/-- Any keys that a path begins with are the keys of a path: of one with fewer accesses. -/
theorem Expressible.of_append {keys more : List String} (h : Expressible (keys ++ more))
    (hne : keys ≠ []) : Expressible keys := by
  obtain ⟨path, hparse⟩ := h
  obtain ⟨e, he, hkeys⟩ := (parse_ok_iff path _).mp hparse
  obtain ⟨key, keys, rfl⟩ := List.exists_cons_of_ne_nil hne
  rw [Expression.keys, List.map_cons, List.cons_append] at hkeys
  obtain ⟨hhead, haccesses⟩ := List.cons.inj hkeys
  have hfirst : e.head = [] → ∀ a ∈ (e.accesses.take keys.length).head?, a.isNamed = false := by
    intro hempty a ha
    rw [List.head?_take] at ha
    split at ha
    · cases ha
    · exact he.1.first hempty a ha
  have hwf : Expression.WellFormed ⟨e.head, e.accesses.take keys.length⟩ :=
    ⟨he.1.head, fun a ha => he.1.accesses a (List.mem_of_mem_take ha), hfirst⟩
  refine ⟨_, (parse_ok_iff _ _).mpr ⟨_, ⟨hwf, String.toList_ofList.symm⟩, ?_⟩⟩
  rw [Expression.keys, List.map_cons, hhead, List.map_take, List.map_take, haccesses,
    List.take_left]

/-- **Formatting refuses exactly the keys that no path has.** No keys and the empty key alone have
the empty path. Any others are written if and only if some path has them and the first of them is
not empty; if not, the complaint is about one of the keys. -/
theorem format_ok_iff_expressible (keys : List String) :
    (keys = [] ∨ keys = [""] → format keys = .ok "") ∧
    (¬ (keys = [] ∨ keys = [""]) →
      ((∃ path, format keys = .ok path) ↔ keys.head? ≠ some "" ∧ Expressible keys) ∧
      (¬ (keys.head? ≠ some "" ∧ Expressible keys) →
        ∃ key ∈ keys,
          format keys = .error (.head key) ∨ format keys = .error (.inexpressible key))) ∧
    (Expressible keys → keys.head? ≠ some "" → ∃ path, format keys = .ok path) ∧
    (¬ Expressible keys → keys ≠ [] → ∀ path, format keys ≠ .ok path) := by
  refine ⟨fun hempty => if_pos hempty, fun hkeys => ?_, format_of_expressible, ?_⟩
  · have hiff : (∃ path, format keys = .ok path) ↔ keys.head? ≠ some "" ∧ Expressible keys := by
      constructor
      · intro h
        obtain ⟨path, h⟩ := h
        have hne : keys ≠ [] := fun hnil => hkeys (.inl hnil)
        exact ⟨head_ne_empty_of_format hkeys h, expressible_of_format hne h⟩
      · intro h
        exact format_of_expressible h.2 h.1
    refine ⟨hiff, fun hrefused => ?_⟩
    cases hformat : format keys with
    | ok path => exact absurd (hiff.mp ⟨path, hformat⟩) hrefused
    | error e =>
      obtain ⟨key, hmem, he⟩ := format_error hformat
      exact ⟨key, hmem, he.imp (congrArg Except.error) (congrArg Except.error)⟩
  · intro hkeys hne path h
    exact hkeys (expressible_of_format hne h)

theorem format_ok_iff_expressible_single_quote :
    ¬ (["a", "it's"] = [] ∨ ["a", "it's"] = [""]) ∧ ["a", "it's"].head? ≠ some "" ∧
      ¬ Expressible ["a", "it's"] ∧
      (∃ key ∈ ["a", "it's"], format ["a", "it's"] = .error (.head key) ∨
        format ["a", "it's"] = .error (.inexpressible key)) ∧
      format [""] = .ok "" ∧ Expressible ["1b", "007"] ∧
      ∃ path, format ["1b", "007"] = .ok path := by
  have hkeys : ¬ (["a", "it's"] = [] ∨ ["a", "it's"] = [""]) := by simp
  have hformat : format ["a", "it's"] = .error (.inexpressible "it's") := by rfl
  obtain ⟨hiff, herror⟩ := (format_ok_iff_expressible ["a", "it's"]).2.1 hkeys
  have hrefused : ¬ (["a", "it's"].head? ≠ some "" ∧ Expressible ["a", "it's"]) := by
    rw [← hiff, hformat]
    simp
  have hnone : ¬ Expressible ["a", "it's"] := fun h => hrefused ⟨by simp, h⟩
  have hsome : Expressible ["1b", "007"] := ⟨"1b[007]", by rfl⟩
  exact ⟨hkeys, by simp, hnone, herror hrefused, (format_ok_iff_expressible [""]).1 (.inr rfl),
    hsome, (format_ok_iff_expressible _).2.2.1 hsome (by simp)⟩

end DocPath.Path
