import DocPath.Proofs.Path.RoundTrip

/-! The normal form of a path.

Different paths may have the same keys: a name may stand in quotes, and a quote may be single or
double. Formatting the keys of a path takes one of these spellings, whichever it was given:
`Access.normal` says what becomes of an access, and `format_keys` that formatting writes the
normal form of an expression down. The normal form depends on the keys alone
(`normal_eq_of_keys_eq`) and is never longer than what it came from (`length_render_normal_le`),
so it is the shortest of all the paths with its keys. A path is in normal form unless something in
it tells otherwise: a single quote, or a name in quotes. -/
namespace DocPath.Path

/-! ### Accesses in normal form -/

namespace Access

/-- The access that is written for the key of this one. -/
def normal : Access → Access
  | .quoted _ _ key => if isName key then .name key else .quoted '"' '"' key
  | a => a

theorem access?_key {a : Access} (h : a.WellFormed) : access? a.key = some a.normal := by
  cases a with
  | name cs =>
    have hname : isName cs = true := h
    simp [access?, key, normal, hname]
  | index digits =>
    have hnumeral : isNumeral digits = true := h
    simp [access?, key, normal, hnumeral, not_isName_of_isNumeral hnumeral]
  | quoted opening closing key =>
    have hquotable : isQuotable key = true := h.2.2
    have hnumeral := not_isNumeral_of_isQuotable hquotable
    cases hname : isName key <;> simp [access?, Access.key, normal, hname, hnumeral, hquotable]

theorem wellFormed_normal {a : Access} (h : a.WellFormed) : a.normal.WellFormed :=
  (access?_eq_some (access?_key h)).1

theorem length_render_normal_le (a : Access) : a.normal.render.length ≤ a.render.length := by
  cases a with
  | name cs | index digits => exact Nat.le_refl _
  | quoted opening closing key =>
    rw [normal]
    split
    · simp [render]
    · simp [render]

/-- A name in quotes, which could do without them. -/
def isQuotedName : Access → Bool
  | .quoted _ _ key => isName key
  | _ => false

/-- An access is in normal form unless it has a single quote or is a name in quotes. -/
theorem normal_eq_self_iff {a : Access} (h : a.WellFormed) :
    a.normal = a ↔ '\x27' ∉ a.render ∧ a.isQuotedName = false := by
  cases a with
  | name cs =>
    refine iff_of_true rfl ⟨?_, rfl⟩
    intro hmem
    rcases List.mem_cons.mp hmem with hdot | hmem
    · cases hdot
    · exact absurd (all_isNameChar_of_isName h _ hmem) (by decide)
  | index digits =>
    refine iff_of_true rfl ⟨?_, rfl⟩
    intro hmem
    simp only [render, List.cons_append, List.mem_cons, List.mem_append, List.not_mem_nil,
      or_false] at hmem
    rcases hmem with hbracket | hmem | hbracket
    · cases hbracket
    · exact absurd (all_isDigit_of_isNumeral h _ hmem) (by decide)
    · cases hbracket
  | quoted opening closing key =>
    obtain ⟨hopening, hclosing, hkey⟩ := h
    have hquote : '\x27' ∉ key := fun hmem =>
      absurd (all_isKeyChar_of_isQuotable hkey _ hmem) (by decide)
    rcases (isQuote_iff opening).mp hopening with rfl | rfl <;>
      rcases (isQuote_iff closing).mp hclosing with rfl | rfl <;>
      cases hname : isName key <;> simp [normal, render, isQuotedName, hname, hquote]

end Access

/-- The accesses chosen for the keys of accesses are their normal forms. -/
theorem map_access?_keys {as : List Access} (h : ∀ a ∈ as, a.WellFormed) :
    (as.map Access.key).map access? = (as.map Access.normal).map some := by
  rw [List.map_map, List.map_map]
  exact List.map_congr_left fun a ha => Access.access?_key (h a ha)

theorem length_flatMap_normal_le (as : List Access) :
    ((as.map Access.normal).flatMap Access.render).length ≤ (as.flatMap Access.render).length := by
  induction as with
  | nil => exact Nat.le_refl _
  | cons a as ih =>
    simp only [List.map_cons, List.flatMap_cons, List.length_append]
    exact Nat.add_le_add a.length_render_normal_le ih

/-! ### Accesses that stand in a text -/

namespace Access

/-- An access in brackets has its only closing bracket at the end. -/
theorem body_eq_of_brackets {a : Access} (h : a.WellFormed) (hbrackets : a.isNamed = false) :
    ∃ inner, a.body = inner ++ [']'] ∧ ']' ∉ inner := by
  have hkeyChar {cs : List Char} (hcs : ∀ c ∈ cs, isKeyChar c = true) : ']' ∉ cs := fun hmem =>
    absurd (hcs _ hmem) (by decide)
  cases a with
  | name cs => cases hbrackets
  | index digits =>
    refine ⟨digits, rfl, hkeyChar fun c hc => ?_⟩
    exact isKeyChar_of_isNameChar (isNameChar_of_isDigit (all_isDigit_of_isNumeral h c hc))
  | quoted opening closing key =>
    obtain ⟨hopening, hclosing, hkey⟩ := h
    refine ⟨opening :: key ++ [closing], by simp [body], ?_⟩
    have hquote {q : Char} (hq : isQuote q = true) : ']' ≠ q := by
      rintro rfl
      cases hq
    simp [hquote hopening, hquote hclosing, hkeyChar (all_isKeyChar_of_isQuotable hkey)]

/-- No body of an access in brackets goes on after that of another. -/
theorem eq_of_body_isPrefix {a b : Access} (ha : a.WellFormed) (hb : b.WellFormed)
    (hbrackets : a.isNamed = false) (h : a.body <+: b.body) : a = b := by
  have hclosing : ']' ∈ a.body := (closing_mem_body_iff ha).mpr hbrackets
  have hbrackets' : b.isNamed = false := (closing_mem_body_iff hb).mp (h.subset hclosing)
  obtain ⟨inner, hbody, hinner⟩ := body_eq_of_brackets hb hbrackets'
  rw [hbody, List.prefix_concat_iff] at h
  rcases h with heq | hpart
  · exact body_inj ha hb (heq.trans hbody.symm)
  · exact absurd (hpart.subset hclosing) hinner

end Access

/-- Text without openings stays with the first piece of what follows it. -/
theorem splitOnP_append_of_forall {cs : List Char} (h : ∀ c ∈ cs, isOpening c = false)
    (rest : List Char) :
    (cs ++ rest).splitOnP isOpening = (rest.splitOnP isOpening).modifyHead (cs ++ ·) := by
  induction cs with
  | nil => cases hsplit : rest.splitOnP isOpening <;> simp [hsplit]
  | cons c cs ih =>
    obtain ⟨hc, hcs⟩ := List.forall_mem_cons.mp h
    rw [List.cons_append, List.splitOnP_cons_eq_if_modifyHead, hc, ih hcs]
    cases rest.splitOnP isOpening <;> rfl

namespace Expression

/-- **What stands in brackets in a path is one of its accesses**, and not a part of others. -/
theorem render_isInfix_iff {e : Expression} {a : Access} (he : e.WellFormed) (ha : a.WellFormed)
    (hbrackets : a.isNamed = false) : a.render <:+: e.render ↔ a ∈ e.accesses := by
  constructor
  · intro h
    obtain ⟨before, after, heq⟩ := h
    rw [a.render_eq, List.append_assoc, List.cons_append] at heq
    have hsplit := splitOnP_render he
    rw [← heq, List.splitOnP_append_cons _ _ a.isOpening_opening,
      splitOnP_append_of_forall (Access.body_no_opening ha)] at hsplit
    obtain ⟨first, others, hbefore⟩ :=
      List.exists_cons_of_ne_nil (List.splitOnP_ne_nil isOpening before)
    obtain ⟨piece, more, hafter⟩ :=
      List.exists_cons_of_ne_nil (List.splitOnP_ne_nil isOpening after)
    rw [hbefore, hafter, List.modifyHead_cons, List.cons_append] at hsplit
    have hmem : a.body ++ piece ∈ e.accesses.map Access.body := by
      rw [← (List.cons.inj hsplit).2]
      simp
    obtain ⟨b, hb, hbody⟩ := List.mem_map.mp hmem
    have hab := Access.eq_of_body_isPrefix ha (he.accesses b hb) hbrackets ⟨piece, hbody.symm⟩
    rwa [hab]
  · intro h
    obtain ⟨before, after, heq⟩ := List.append_of_mem h
    refine ⟨e.head ++ before.flatMap Access.render, after.flatMap Access.render, ?_⟩
    simp [render, heq]

/-! ### Expressions in normal form -/

def normal (e : Expression) : Expression := ⟨e.head, e.accesses.map Access.normal⟩

variable {e e' : Expression}

theorem keys_inj (h : e.keys.map String.ofList = e'.keys.map String.ofList) : e.keys = e'.keys :=
  (List.map_inj_right fun _ _ => String.ofList_injective).mp h

/-- The normal form depends on the keys alone. -/
theorem normal_eq_of_keys_eq (h : e.WellFormed) (h' : e'.WellFormed) (hkeys : e.keys = e'.keys) :
    e.normal = e'.normal := by
  obtain ⟨hhead, haccesses⟩ := List.cons.inj hkeys
  have hnormal : (e.accesses.map Access.normal).map some =
      (e'.accesses.map Access.normal).map some := by
    rw [← map_access?_keys h.accesses, haccesses, map_access?_keys h'.accesses]
  rw [normal, normal, hhead, (List.map_inj_right fun _ _ => Option.some.inj).mp hnormal]

theorem length_render_normal_le (e : Expression) : e.normal.render.length ≤ e.render.length := by
  simp only [render, normal, List.length_append]
  exact Nat.add_le_add_left (length_flatMap_normal_le e.accesses) _

/-- Without a head there would be a bracket in front, and a name in it could not come after a
dot. -/
theorem wellFormed_normal (h : e.WellFormed) (hhead : e.head = [] → e.accesses = []) :
    e.normal.WellFormed := by
  refine ⟨h.head, ?_, ?_⟩
  · intro a ha
    obtain ⟨b, hb, rfl⟩ := List.mem_map.mp ha
    exact Access.wellFormed_normal (h.accesses b hb)
  · intro hempty a ha
    rw [normal, hhead hempty] at ha
    cases ha

/-- An expression is in normal form unless a single quote or a name in quotes tells otherwise. -/
theorem normal_eq_self_iff (h : e.WellFormed) :
    e.normal = e ↔ '\x27' ∉ e.render ∧ ∀ a ∈ e.accesses, a.isQuotedName = false := by
  have hhead : '\x27' ∉ e.head := fun hmem =>
    absurd (List.all_eq_true.mp h.head _ hmem) (by decide)
  have hquote : '\x27' ∉ e.render ↔ ∀ a ∈ e.accesses, '\x27' ∉ a.render := by
    simp [render, hhead]
  have hmap : e.normal = e ↔ e.accesses.map Access.normal = e.accesses.map id := by
    obtain ⟨head, accesses⟩ := e
    simp [normal]
  rw [hmap, hquote, List.map_inj_left]
  constructor
  · intro hself
    have hboth a (ha : a ∈ e.accesses) : '\x27' ∉ a.render ∧ a.isQuotedName = false :=
      (Access.normal_eq_self_iff (h.accesses a ha)).mp (hself a ha)
    exact ⟨fun a ha => (hboth a ha).1, fun a ha => (hboth a ha).2⟩
  · intro hboth a ha
    exact (Access.normal_eq_self_iff (h.accesses a ha)).mpr ⟨hboth.1 a ha, hboth.2 a ha⟩

end Expression

/-! ### Formatting the keys of a path -/

/-- Formatting the keys of an expression writes its normal form down. -/
theorem format_keys {e : Expression} (h : e.WellFormed) (hhead : e.head = [] → e.accesses = []) :
    format (e.keys.map String.ofList) = .ok (String.ofList e.normal.render) := by
  by_cases hempty : e.head = []
  · obtain ⟨head, accesses⟩ := e
    cases hempty
    cases hhead rfl
    rfl
  have hrender : renderKeys e.keys = .ok e.normal.render :=
    (renderKeys_cons_ok_iff ..).mpr
      ⟨e.normal, rfl, hempty, h.head, map_access?_keys h.accesses, rfl⟩
  have hkeys : (e.keys.map String.ofList).map String.toList = e.keys := by
    simp [Function.comp_def]
  rw [format, if_neg, hkeys, hrender]
  · rfl
  · simp [Expression.keys, hempty]

/-- A name in quotes stands in brackets somewhere in the text. -/
def HasQuotedName (cs : List Char) : Prop :=
  ∃ q q' name, isQuote q = true ∧ isQuote q' = true ∧ isName name = true ∧
    '[' :: q :: name ++ [q', ']'] <:+: cs

theorem hasQuotedName_iff {e : Expression} (h : e.WellFormed) :
    HasQuotedName e.render ↔ ∃ a ∈ e.accesses, a.isQuotedName = true := by
  constructor
  · intro hname
    obtain ⟨q, q', name, hq, hq', hname, hinfix⟩ := hname
    have hwf : (Access.quoted q q' name).WellFormed := ⟨hq, hq', isQuotable_of_isName hname⟩
    exact ⟨_, (Expression.render_isInfix_iff h hwf rfl).mp hinfix, hname⟩
  · intro hname
    obtain ⟨a, ha, hname⟩ := hname
    cases a with
    | name cs | index digits => cases hname
    | quoted q q' key =>
      have hwf := h.accesses _ ha
      exact ⟨q, q', key, hwf.1, hwf.2.1, hname, (Expression.render_isInfix_iff h hwf rfl).mpr ha⟩

/-- **Formatting what was parsed gives the normal form of a path**, if that does not open with a
bracket: it has the same keys, no path with these keys is shorter, and it is the path itself unless
that has a single quote or a name in quotes. -/
theorem format_parse_normal (path : String) (h : Accepted path)
    (hbracket : path.toList.head? ≠ some '[') :
    ∃ keys c, (parse path).outcome = .ok keys ∧ format keys = .ok c ∧
      (parse c).outcome = .ok keys ∧
      (∀ q, (parse q).outcome = .ok keys → c.length ≤ q.length) ∧
      (c = path ↔ '\x27' ∉ path.toList ∧ ¬ HasQuotedName path.toList) := by
  obtain ⟨e, he⟩ := (accepted_iff path).mp h
  have hhead := Expression.accesses_eq_nil_of_head he hbracket
  have hformat := format_keys he.1 hhead
  have hne : e.keys.map String.ofList ≠ [] := by simp [Expression.keys]
  refine ⟨_, _, parse_of_derives he, hformat, parse_of_format hne hformat, ?_, ?_⟩
  · intro q hq
    obtain ⟨e', he', hkeys⟩ := (parse_ok_iff q _).mp hq
    have hnormal := Expression.normal_eq_of_keys_eq he'.1 he.1 (Expression.keys_inj hkeys)
    rw [String.length_ofList, ← hnormal, ← String.length_toList, ← he'.2]
    exact e'.length_render_normal_le
  · have hwf := Expression.wellFormed_normal he.1 hhead
    have hself : String.ofList e.normal.render = path ↔ e.normal = e := by
      rw [← String.toList_inj, String.toList_ofList, ← he.2]
      exact ⟨Expression.render_inj hwf he.1, congrArg Expression.render⟩
    rw [hself, Expression.normal_eq_self_iff he.1, ← he.2, hasQuotedName_iff he.1]
    simp

theorem format_parse_normal_mixed_quotes :
    Accepted "1b['c'][007]['x-y\"]" ∧ "1b['c'][007]['x-y\"]".toList.head? ≠ some '[' ∧
      ∃ keys c, (parse "1b['c'][007]['x-y\"]").outcome = .ok keys ∧ format keys = .ok c ∧
        (parse c).outcome = .ok keys ∧
        (∀ q, (parse q).outcome = .ok keys → c.length ≤ q.length) ∧
        (c = "1b['c'][007]['x-y\"]" ↔ '\x27' ∉ "1b['c'][007]['x-y\"]".toList ∧
          ¬ HasQuotedName "1b['c'][007]['x-y\"]".toList) :=
  ⟨by rfl, by decide, format_parse_normal _ (by rfl) (by decide)⟩

end DocPath.Path
