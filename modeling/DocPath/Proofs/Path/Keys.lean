import DocPath.Proofs.Path.Acceptance
import DocPath.Proofs.Path.Derivation

/-! The keys of a path are those of its derivation.

Parsing knows nothing of accesses: it cuts the text at dots, cuts the pieces at opening brackets
and strips each of a closing bracket and of quotes. The two cuts are one cut at both characters
(`flatMap_pieces`), so the pieces are the head and the bodies of the accesses, in canonical
spelling; stripping a body leaves the key (`keyOfPiece_body`). -/
namespace DocPath.Path

/-! ### One cut instead of two -/

theorem pieces_cons_self (separator : Char) (cs : List Char) :
    Text.pieces separator (separator :: cs) = [] :: Text.pieces separator cs := by
  rw [Text.pieces, if_pos rfl]

theorem pieces_cons_of_ne {separator c : Char} (h : c ≠ separator) (cs : List Char) :
    Text.pieces separator (c :: cs) = (Text.pieces separator cs).modifyHead (List.cons c) := by
  obtain ⟨piece, others, hpieces⟩ := List.exists_cons_of_ne_nil (Text.pieces_ne_nil separator cs)
  rw [Text.pieces, if_neg h, hpieces]
  rfl

/-- Cutting at dots and then at opening brackets is cutting at both. -/
theorem flatMap_pieces (cs : List Char) :
    (Text.pieces '.' cs).flatMap (Text.pieces '[') = cs.splitOnP isOpening := by
  induction cs with
  | nil => rfl
  | cons c cs ih =>
    obtain ⟨piece, others, hpieces⟩ := List.exists_cons_of_ne_nil (Text.pieces_ne_nil '.' cs)
    rw [List.splitOnP_cons_eq_if_modifyHead, ← ih]
    by_cases hdot : c = '.'
    · subst hdot
      rw [pieces_cons_self]
      rfl
    rw [pieces_cons_of_ne hdot, hpieces, List.modifyHead_cons, List.flatMap_cons, List.flatMap_cons]
    by_cases hbracket : c = '['
    · subst hbracket
      rw [pieces_cons_self]
      rfl
    · obtain ⟨first, more, hfirst⟩ := List.exists_cons_of_ne_nil (Text.pieces_ne_nil '[' piece)
      rw [pieces_cons_of_ne hbracket, hfirst]
      simp [isOpening, hdot, hbracket]

/-! ### Canonical spelling -/

theorem canonical_of_isQuote {c : Char} (h : isQuote c = true) : canonical c = '"' := by
  rcases (isQuote_iff c).mp h with rfl | rfl <;> rfl

theorem canonical_of_isKeyChar {c : Char} (h : isKeyChar c = true) : canonical c = c := by
  rw [canonical, if_neg]
  exact ((isKeyChar_iff c).mp h).2.2.2.2

theorem canonicalChars_of_forall {cs : List Char} (h : ∀ c ∈ cs, isKeyChar c = true) :
    canonicalChars cs = cs := by
  have heq : cs.map canonical = cs.map id :=
    List.map_congr_left fun c hc => canonical_of_isKeyChar (h c hc)
  rw [canonicalChars, heq, List.map_id]

theorem isOpening_canonical (c : Char) : isOpening (canonical c) = isOpening c := by
  rw [canonical]
  split
  · next h => rw [h]; rfl
  · rfl

/-- No opening is a quote, so it does not matter whether the spelling is made canonical before the
cut or after it. -/
theorem splitOnP_canonicalChars (cs : List Char) :
    (canonicalChars cs).splitOnP isOpening = (cs.splitOnP isOpening).map canonicalChars := by
  induction cs with
  | nil => rfl
  | cons c cs ih =>
    obtain ⟨piece, others, hsplit⟩ := List.exists_cons_of_ne_nil (List.splitOnP_ne_nil isOpening cs)
    rw [canonicalChars, List.map_cons, ← canonicalChars, List.splitOnP_cons_eq_if_modifyHead,
      List.splitOnP_cons_eq_if_modifyHead, isOpening_canonical, ih, hsplit]
    split <;> rfl

/-! ### Pieces and their keys -/

theorem dropLastIf_append (c : Char) (cs : List Char) : dropLastIf c (cs ++ [c]) = cs := by
  simp [dropLastIf]

theorem dropLastIf_of_not_mem {c : Char} {cs : List Char} (h : c ∉ cs) : dropLastIf c cs = cs := by
  rw [dropLastIf, if_neg]
  intro hlast
  exact h (List.mem_of_getLast? hlast)

theorem unquote_quotes (cs : List Char) : unquote ('"' :: cs ++ ['"']) = cs := by
  rw [unquote, if_pos]
  · simp
  · exact ⟨by simp, rfl, List.getLast?_concat⟩

theorem unquote_of_not_mem {cs : List Char} (h : '"' ∉ cs) : unquote cs = cs := by
  rw [unquote, if_neg]
  intro hquotes
  obtain ⟨_, hhead, _⟩ := hquotes
  exact h (List.mem_of_head? hhead)

/-- What quotes can hold is left as it is. -/
theorem keyOfPiece_of_forall {cs : List Char} (h : ∀ c ∈ cs, isKeyChar c = true) :
    keyOfPiece cs = cs := by
  rw [keyOfPiece, dropLastIf_of_not_mem, unquote_of_not_mem]
  · intro hmem
    exact absurd (h _ hmem) (by decide)
  · intro hmem
    exact absurd (h _ hmem) (by decide)

/-- The body of an access is stripped down to its key. -/
theorem keyOfPiece_body {a : Access} (h : a.WellFormed) :
    keyOfPiece (canonicalChars a.body) = a.key := by
  cases a with
  | name cs =>
    have hcs : ∀ c ∈ cs, isKeyChar c = true := fun c hc =>
      isKeyChar_of_isNameChar (all_isNameChar_of_isName h c hc)
    rw [Access.body, canonicalChars_of_forall hcs, keyOfPiece_of_forall hcs]
    rfl
  | index digits =>
    have hdigits : ∀ c ∈ digits, isKeyChar c = true := fun c hc =>
      isKeyChar_of_isNameChar (isNameChar_of_isDigit (all_isDigit_of_isNumeral h c hc))
    have hbody : canonicalChars (Access.index digits).body = digits ++ [']'] := by
      rw [Access.body, canonicalChars, List.map_append, ← canonicalChars,
        canonicalChars_of_forall hdigits]
      rfl
    have hquote : '"' ∉ digits := fun hmem => absurd (hdigits _ hmem) (by decide)
    rw [hbody, keyOfPiece, dropLastIf_append, unquote_of_not_mem hquote]
    rfl
  | quoted opening closing key =>
    obtain ⟨hopening, hclosing, hkey⟩ := h
    have hbody : canonicalChars (Access.quoted opening closing key).body =
        ('"' :: key ++ ['"']) ++ [']'] := by
      have hsame : key.map canonical = key :=
        canonicalChars_of_forall (all_isKeyChar_of_isQuotable hkey)
      have hbracket : canonical ']' = ']' := rfl
      simp [Access.body, canonicalChars, canonical_of_isQuote hopening,
        canonical_of_isQuote hclosing, hsame, hbracket]
    rw [hbody, keyOfPiece, dropLastIf_append, unquote_quotes]
    rfl

theorem keysOf_render {e : Expression} (h : e.WellFormed) :
    keysOf (canonicalChars e.render) = e.keys := by
  have hhead : ∀ c ∈ e.head, isKeyChar c = true := fun c hc =>
    isKeyChar_of_isNameChar (List.all_eq_true.mp h.head c hc)
  have haccesses : (e.accesses.map Access.body).map (fun cs => keyOfPiece (canonicalChars cs)) =
      e.accesses.map Access.key := by
    rw [List.map_map]
    exact List.map_congr_left fun a ha => keyOfPiece_body (h.accesses a ha)
  calc keysOf (canonicalChars e.render)
    _ = ((e.render.splitOnP isOpening).map canonicalChars).map keyOfPiece := by
      rw [keysOf, flatMap_pieces, splitOnP_canonicalChars]
    _ = keyOfPiece (canonicalChars e.head) ::
        (e.accesses.map Access.body).map (fun cs => keyOfPiece (canonicalChars cs)) := by
      rw [Expression.splitOnP_render h, List.map_map]
      rfl
    _ = e.keys := by
      rw [haccesses, canonicalChars_of_forall hhead, keyOfPiece_of_forall hhead]
      rfl

/-! ### Empty keys -/

theorem Access.key_ne_nil {a : Access} (h : a.WellFormed) : a.key ≠ [] := by
  intro hempty
  cases a with
  | name cs =>
    obtain rfl : cs = [] := hempty
    cases h
  | index digits =>
    obtain rfl : digits = [] := hempty
    cases h
  | quoted opening closing key =>
    obtain rfl : key = [] := hempty
    cases h.2.2

/-- Only the head of a path may be empty. -/
theorem empty_not_mem_accessKeys {e : Expression} (h : e.WellFormed) :
    "" ∉ (e.accesses.map Access.key).map String.ofList := by
  intro hmem
  obtain ⟨cs, hcs, hempty⟩ := List.mem_map.mp hmem
  obtain ⟨a, ha, rfl⟩ := List.mem_map.mp hcs
  exact Access.key_ne_nil (h.accesses a ha) (String.ofList_eq_empty_iff.mp hempty)

/-! ### Parsing -/

theorem parse_of_accepted {path : String} (h : Accepted path) :
    parse path = ⟨[.parsed (normalizeQuotes path)
      ((keysOf (canonicalChars path.toList)).map String.ofList)],
      .ok ((keysOf (canonicalChars path.toList)).map String.ofList)⟩ := by
  have hvalidate : validate path = .pure () := by
    rw [validate, show scan path = .ok () from h]
  have hchars : (normalizeQuotes path).toList = canonicalChars path.toList := String.toList_ofList
  rw [parse, hvalidate, ← hchars]
  rfl

/-- Parsing a path gives the keys of any of its derivations. -/
theorem parse_of_derives {e : Expression} {path : String} (h : e.Derives path) :
    (parse path).outcome = .ok (e.keys.map String.ofList) := by
  rw [parse_of_accepted ((accepted_iff path).mpr ⟨e, h⟩), ← h.2, keysOf_render h.1]

/-- Parsing gives some keys exactly if a derivation of the path has these keys. -/
theorem parse_ok_iff (path : String) (keys : List String) :
    (parse path).outcome = .ok keys ↔
      ∃ e : Expression, e.Derives path ∧ e.keys.map String.ofList = keys := by
  constructor
  · intro h
    have haccepted : Accepted path := by
      rw [Accepted]
      cases hscan : scan path with
      | ok _ => rfl
      | error r =>
        have hvalidate : validate path = ⟨[.rejected path r.index], .error r⟩ := by
          rw [validate, hscan]
        rw [parse, hvalidate] at h
        cases h
    obtain ⟨e, he⟩ := (accepted_iff path).mp haccepted
    rw [parse_of_derives he] at h
    exact ⟨e, he, Except.ok.inj h⟩
  · intro h
    obtain ⟨e, he, rfl⟩ := h
    exact parse_of_derives he

/-- A path that leads from a document to itself. -/
def SelfReference (path : String) : Prop := path = "" ∨ path.toList.head? = some '['

/-- Only the first key of a path can be empty, and it is for the paths that lead nowhere else. -/
theorem parse_first {path : String} (h : Accepted path) :
    ∃ first rest, (parse path).outcome = .ok (first :: rest) ∧ "" ∉ rest ∧
      (first = "" ↔ SelfReference path) := by
  obtain ⟨e, he⟩ := (accepted_iff path).mp h
  refine ⟨String.ofList e.head, (e.accesses.map Access.key).map String.ofList, parse_of_derives he,
    empty_not_mem_accessKeys he.1, ?_⟩
  rw [String.ofList_eq_empty_iff]
  exact Expression.head_eq_nil_iff he

theorem length_splitOnP_isOpening (cs : List Char) :
    (cs.splitOnP isOpening).length = 1 + cs.count '.' + cs.count '[' := by
  induction cs with
  | nil => rfl
  | cons c cs ih =>
    rw [List.splitOnP_cons_eq_if_modifyHead, List.count_cons, List.count_cons]
    by_cases hdot : c = '.'
    · subst hdot
      simp [isOpening, ih]
      omega
    · by_cases hbracket : c = '['
      · subst hbracket
        simp [isOpening, ih]
        omega
      · simp [isOpening, hdot, hbracket, ih]

/-- There is a key for each dot and each opening bracket, and one more. -/
theorem length_keys {e : Expression} {path : String} (h : e.Derives path) :
    e.keys.length = 1 + path.toList.count '.' + path.toList.count '[' := by
  rw [← length_splitOnP_isOpening, ← h.2, Expression.splitOnP_render h.1]
  simp [Expression.keys]

/-- **An accepted path has one derivation, and parsing gives its keys**: the head, and a key for
each access in order, none of their characters lost or changed. -/
theorem parse_accepted (path : String) (h : Accepted path) :
    ∃ e : Expression, e.Derives path ∧ (∀ e' : Expression, e'.Derives path → e' = e) ∧
      (parse path).outcome = .ok (e.keys.map String.ofList) ∧
      e.keys.length = 1 + path.toList.count '.' + path.toList.count '[' := by
  obtain ⟨e, he⟩ := (accepted_iff path).mp h
  refine ⟨e, he, ?_, parse_of_derives he, length_keys he⟩
  intro e' he'
  exact Expression.render_inj he'.1 he.1 (he'.2.trans he.2.symm)

theorem parse_accepted_mixed_quotes :
    Accepted "a[007]['x-y\"].b" ∧
      ∃ e : Expression, e.Derives "a[007]['x-y\"].b" ∧
        (∀ e' : Expression, e'.Derives "a[007]['x-y\"].b" → e' = e) ∧
        (parse "a[007]['x-y\"].b").outcome = .ok (e.keys.map String.ofList) ∧
        e.keys.length = 1 + "a[007]['x-y\"].b".toList.count '.' +
          "a[007]['x-y\"].b".toList.count '[' :=
  ⟨by rfl, parse_accepted _ (by rfl)⟩

end DocPath.Path
