import DocPath.Path.Format
import DocPath.Proofs.Path.Keys

/-! Parsing undoes formatting.

Formatting chooses an access for each key after the first (`access?`), and the accesses it chooses
are well formed and reach for their keys. So what it writes is what some expression with these keys
is written as (`format_derives`), and parsing gives the keys of that expression back. -/
namespace DocPath.Path

/-! ### What is written for a key -/

/-- The access chosen for a key is one that can be written, and it reaches for the key. -/
theorem access?_eq_some {key : List Char} {a : Access} (h : access? key = some a) :
    a.WellFormed ∧ a.key = key := by
  unfold access? at h
  split at h
  · next hname =>
    cases h
    exact ⟨hname, rfl⟩
  split at h
  · next hnumeral =>
    cases h
    exact ⟨hnumeral, rfl⟩
  split at h
  · next hquotable =>
    cases h
    exact ⟨⟨rfl, rfl, hquotable⟩, rfl⟩
  · cases h

/-- Two parts are written one after the other if both can be written. -/
theorem append_ok_iff (x y : Except FormatError (List Char)) (cs : List Char) :
    (do return (← x) ++ (← y)) = (.ok cs : Except FormatError (List Char)) ↔
      ∃ a b, x = .ok a ∧ y = .ok b ∧ a ++ b = cs := by
  cases x <;> cases y <;> simp [bind, Except.bind, pure, Except.pure]

theorem renderAccess_ok_iff (key cs : List Char) :
    renderAccess key = .ok cs ↔ ∃ a, access? key = some a ∧ a.render = cs := by
  rw [renderAccess]
  cases access? key <;> simp

theorem renderAccesses_ok_iff (keys : List (List Char)) (cs : List Char) :
    renderAccesses keys = .ok cs ↔
      ∃ as : List Access, keys.map access? = as.map some ∧ as.flatMap Access.render = cs := by
  induction keys generalizing cs with
  | nil =>
    constructor
    · intro h
      cases h
      exact ⟨[], rfl, rfl⟩
    · intro h
      obtain ⟨as, has, rfl⟩ := h
      cases List.map_eq_nil_iff.mp has.symm
      rfl
  | cons key keys ih =>
    rw [renderAccesses, append_ok_iff]
    constructor
    · intro h
      obtain ⟨first, more, hfirst, hmore, rfl⟩ := h
      obtain ⟨a, ha, rfl⟩ := (renderAccess_ok_iff key first).mp hfirst
      obtain ⟨as, has, rfl⟩ := (ih more).mp hmore
      exact ⟨a :: as, by rw [List.map_cons, ha, has, List.map_cons], rfl⟩
    · intro h
      obtain ⟨as, has, rfl⟩ := h
      cases as with
      | nil => cases has
      | cons a as =>
        obtain ⟨ha, has⟩ := List.cons.inj has
        exact ⟨a.render, as.flatMap Access.render, (renderAccess_ok_iff key _).mpr ⟨a, ha, rfl⟩,
          (ih _).mpr ⟨as, has, rfl⟩, rfl⟩

theorem renderHead_ok_iff (key cs : List Char) :
    renderHead key = .ok cs ↔ key ≠ [] ∧ key.all isNameChar = true ∧ key = cs := by
  rw [renderHead]
  cases key with
  | nil => simp
  | cons c key => cases hall : (c :: key).all isNameChar <;> simp

/-- What is written for keys is what an expression with these keys is written as. Its head is not
empty, and its accesses are those chosen for the keys. -/
theorem renderKeys_cons_ok_iff (key : List Char) (keys : List (List Char)) (cs : List Char) :
    renderKeys (key :: keys) = .ok cs ↔
      ∃ e : Expression, e.head = key ∧ key ≠ [] ∧ key.all isNameChar = true ∧
        keys.map access? = e.accesses.map some ∧ e.render = cs := by
  rw [renderKeys, append_ok_iff]
  constructor
  · intro h
    obtain ⟨head, more, hhead, hmore, rfl⟩ := h
    obtain ⟨hne, hall, rfl⟩ := (renderHead_ok_iff key head).mp hhead
    obtain ⟨as, has, rfl⟩ := (renderAccesses_ok_iff keys more).mp hmore
    exact ⟨⟨key, as⟩, rfl, hne, hall, has, rfl⟩
  · intro h
    obtain ⟨⟨head, as⟩, rfl, hne, hall, has, rfl⟩ := h
    exact ⟨head, as.flatMap Access.render, (renderHead_ok_iff head head).mpr ⟨hne, hall, rfl⟩,
      (renderAccesses_ok_iff keys _).mpr ⟨as, has, rfl⟩, rfl⟩

/-- The accesses chosen for keys can be written, and they reach for the keys. -/
theorem accesses_chosen {keys : List (List Char)} {as : List Access}
    (h : keys.map access? = as.map some) :
    (∀ a ∈ as, a.WellFormed) ∧ as.map Access.key = keys := by
  induction keys generalizing as with
  | nil =>
    cases List.map_eq_nil_iff.mp h.symm
    exact ⟨by simp, rfl⟩
  | cons key keys ih =>
    cases as with
    | nil => cases h
    | cons a as =>
      obtain ⟨ha, has⟩ := List.cons.inj h
      obtain ⟨hwf, hkey⟩ := access?_eq_some ha
      obtain ⟨hwfs, hkeys⟩ := ih has
      exact ⟨List.forall_mem_cons.mpr ⟨hwf, hwfs⟩, by rw [List.map_cons, hkey, hkeys]⟩

theorem renderKeys_wellFormed {key : List Char} {keys : List (List Char)} {cs : List Char}
    (h : renderKeys (key :: keys) = .ok cs) :
    ∃ e : Expression, e.WellFormed ∧ e.keys = key :: keys ∧ e.render = cs := by
  obtain ⟨e, rfl, hne, hall, hchosen, rfl⟩ := (renderKeys_cons_ok_iff key keys cs).mp h
  obtain ⟨has, hkeys⟩ := accesses_chosen hchosen
  exact ⟨e, ⟨hall, has, fun hempty => absurd hempty hne⟩, by rw [Expression.keys, hkeys], rfl⟩

/-! ### Formatting -/

/-- A path written for keys has a derivation with these keys. -/
theorem format_derives {keys : List String} {path : String} (hne : keys ≠ [])
    (h : format keys = .ok path) :
    ∃ e : Expression, e.Derives path ∧ e.keys.map String.ofList = keys := by
  unfold format at h
  split at h
  · next hempty =>
    obtain rfl : keys = [""] := hempty.resolve_left hne
    cases h
    exact ⟨⟨[], []⟩, ⟨Expression.wellFormed_empty, rfl⟩, rfl⟩
  · cases keys with
    | nil => exact absurd rfl hne
    | cons key keys =>
      rw [List.map_cons] at h
      cases hrender : renderKeys (key.toList :: keys.map String.toList) with
      | error e =>
        rw [hrender] at h
        cases h
      | ok cs =>
        rw [hrender] at h
        cases h
        obtain ⟨e, hwf, hkeys, rfl⟩ := renderKeys_wellFormed hrender
        refine ⟨e, ⟨hwf, String.toList_ofList.symm⟩, ?_⟩
        rw [hkeys, ← List.map_cons, List.map_map]
        simp [Function.comp_def]

theorem parse_of_format {keys : List String} {path : String} (hne : keys ≠ [])
    (h : format keys = .ok path) : (parse path).outcome = .ok keys := by
  obtain ⟨e, he, rfl⟩ := format_derives hne h
  exact parse_of_derives he

/-- **Parsing undoes formatting.** The path of some keys is accepted and leads back to them; no keys
at all have the path of the empty key. So no two lists of keys share a path. -/
theorem parse_format :
    (∀ (keys : List String) (path : String), keys ≠ [] → format keys = .ok path →
      (validate path).outcome = .ok () ∧ (parse path).outcome = .ok keys) ∧
    (∃ path, format [] = .ok path ∧ (parse path).outcome = .ok [""]) ∧
    (∀ (keys keys' : List String) (path : String), keys ≠ [] → keys' ≠ [] →
      format keys = .ok path → format keys' = .ok path → keys = keys') := by
  refine ⟨?_, ?_, ?_⟩
  · intro keys path hne h
    obtain ⟨e, he, hkeys⟩ := format_derives hne h
    refine ⟨?_, parse_of_format hne h⟩
    exact (validate_ok_iff path).mpr ((accepted_iff path).mpr ⟨e, he⟩)
  · have hempty : Expression.Derives ⟨[], []⟩ "" := ⟨Expression.wellFormed_empty, rfl⟩
    exact ⟨"", rfl, parse_of_derives hempty⟩
  · intro keys keys' path hne hne' h h'
    have hparse := parse_of_format hne h
    rw [parse_of_format hne' h'] at hparse
    exact (Except.ok.inj hparse).symm

theorem parse_format_all_kinds :
    ["1b", "007", "c", "x-y"] ≠ [] ∧
      format ["1b", "007", "c", "x-y"] = .ok "1b[007].c[\"x-y\"]" ∧
      ((validate "1b[007].c[\"x-y\"]").outcome = .ok () ∧
        (parse "1b[007].c[\"x-y\"]").outcome = .ok ["1b", "007", "c", "x-y"]) ∧
      ∀ keys, keys ≠ [] → format keys = .ok "1b[007].c[\"x-y\"]" →
        keys = ["1b", "007", "c", "x-y"] := by
  have hne : ["1b", "007", "c", "x-y"] ≠ [] := by simp
  have hformat : format ["1b", "007", "c", "x-y"] = .ok "1b[007].c[\"x-y\"]" := by rfl
  refine ⟨hne, hformat, parse_format.1 _ _ hne hformat, ?_⟩
  intro keys hkeys h
  exact parse_format.2.2 keys _ _ hkeys hne h hformat

end DocPath.Path
