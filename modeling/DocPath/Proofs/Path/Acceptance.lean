import DocPath.Path.Parse
import DocPath.Proofs.Path.Grammar

/-! The scanner accepts exactly the paths of the grammar.

The scanner never sees an expression: it reads characters, one at a time. What ties it to the
grammar is `Rest`, which says for each state what may still follow it, in terms of accesses alone.
Taking a character off the front of what may follow is the scanner's step (`rest_cons`), so by
induction on the text a scan ends well exactly on what may follow its state (`run_ok_iff`). From
the start, that is a path (`validate_ok_iff_isPath`). -/
namespace DocPath.Path

namespace Scan

/-! ### Accesses in a text -/

/-- Well-formed accesses one after the other, and nothing else. -/
def Accesses (cs : List Char) : Prop :=
  ∃ as : List Access, (∀ a ∈ as, a.WellFormed) ∧ as.flatMap Access.render = cs

theorem accesses_nil : Accesses [] := ⟨[], by simp, rfl⟩

theorem accesses_append {a : Access} {cs : List Char} (ha : a.WellFormed) (hcs : Accesses cs) :
    Accesses (a.render ++ cs) := by
  obtain ⟨as, has, rfl⟩ := hcs
  exact ⟨a :: as, List.forall_mem_cons.mpr ⟨ha, has⟩, rfl⟩

/-- The first access can be taken off. -/
theorem accesses_split {c : Char} {cs : List Char} (h : Accesses (c :: cs)) :
    ∃ a rest, Access.WellFormed a ∧ Accesses rest ∧ a.opening = c ∧ a.body ++ rest = cs := by
  obtain ⟨as, has, heq⟩ := h
  cases as with
  | nil => cases heq
  | cons a as =>
    rw [List.flatMap_cons, a.render_eq, List.cons_append] at heq
    obtain ⟨hc, hcs⟩ := List.cons.inj heq
    obtain ⟨ha, has⟩ := List.forall_mem_cons.mp has
    exact ⟨a, _, ha, ⟨as, has, rfl⟩, hc, hcs⟩

/-! ### One character of a class, or many of them -/

variable (p : Char → Bool) (L : List Char → Prop)

/-- A character of the class, and then the rest. -/
def Lead (cs : List Char) : Prop := ∃ c rest, p c = true ∧ L rest ∧ c :: rest = cs

/-- Any number of characters of the class, and then the rest. -/
def Span (cs : List Char) : Prop := ∃ word rest, word.all p = true ∧ L rest ∧ word ++ rest = cs

theorem not_lead_nil : ¬ Lead p L [] := by
  intro h
  obtain ⟨c, rest, _, _, heq⟩ := h
  cases heq

theorem lead_cons (c : Char) (cs : List Char) : Lead p L (c :: cs) ↔ p c = true ∧ L cs := by
  constructor
  · intro h
    obtain ⟨c', rest, hc, hrest, heq⟩ := h
    cases heq
    exact ⟨hc, hrest⟩
  · intro h
    exact ⟨c, cs, h.1, h.2, rfl⟩

theorem span_nil : Span p L [] ↔ L [] := by
  constructor
  · intro h
    obtain ⟨word, rest, _, hrest, heq⟩ := h
    obtain ⟨rfl, rfl⟩ := List.append_eq_nil_iff.mp heq
    exact hrest
  · intro h
    exact ⟨[], [], rfl, h, rfl⟩

/-- The word goes on, or it is over and the rest begins. -/
theorem span_cons (c : Char) (cs : List Char) :
    Span p L (c :: cs) ↔ (p c = true ∧ Span p L cs) ∨ L (c :: cs) := by
  constructor
  · intro h
    obtain ⟨word, rest, hword, hrest, heq⟩ := h
    cases word with
    | nil =>
      right
      rw [← heq]
      exact hrest
    | cons d word =>
      left
      obtain ⟨rfl, rfl⟩ := List.cons.inj heq
      rw [List.all_cons, Bool.and_eq_true] at hword
      exact ⟨hword.1, word, rest, hword.2, hrest, rfl⟩
  · intro h
    rcases h with ⟨hc, word, rest, hword, hrest, rfl⟩ | h
    · exact ⟨c :: word, rest, by rw [List.all_cons, hc, hword]; rfl, hrest, rfl⟩
    · exact ⟨[], c :: cs, rfl, h, rfl⟩

/-! ### What may follow a state -/

/-- The end of a bracket, and accesses after it. -/
def Closing : List Char → Prop := Lead (· == ']') Accesses

theorem closing_iff (cs : List Char) : Closing cs ↔ ∃ rest, Accesses rest ∧ ']' :: rest = cs := by
  constructor
  · intro h
    obtain ⟨c, rest, hc, hrest, rfl⟩ := h
    have hclose : c = ']' := by simpa using hc
    exact ⟨rest, hrest, by rw [hclose]⟩
  · intro h
    obtain ⟨rest, hrest, rfl⟩ := h
    exact ⟨']', rest, rfl, hrest, rfl⟩

/-- What may follow a state, up to the end of the path. -/
def Rest : State → List Char → Prop
  | .start => fun cs => ∃ e : Expression, e.WellFormed ∧ e.render = cs
  | .name => Span isNameChar Accesses
  | .dot => Lead isNameStart (Span isNameChar Accesses)
  | .bracket => fun cs => Lead isDigit (Span isDigit Closing) cs ∨
      Lead isQuote (Lead isNameStart (Span isKeyChar (Lead isQuote Closing))) cs
  | .quote => Lead isNameStart (Span isKeyChar (Lead isQuote Closing))
  | .quoted => Span isKeyChar (Lead isQuote Closing)
  | .unquoted => Closing
  | .numeral => Span isDigit Closing
  | .closed => Accesses

theorem rest_nil (s : State) : Rest s [] ↔ due s = none := by
  cases s with
  | start => exact iff_of_true ⟨⟨[], []⟩, Expression.wellFormed_empty, rfl⟩ rfl
  | name => simp [Rest, due, span_nil, accesses_nil]
  | closed => simp [Rest, due, accesses_nil]
  | quoted | numeral => simp [Rest, due, span_nil, Closing, not_lead_nil]
  | dot | bracket | quote | unquoted => simp [Rest, due, Closing, not_lead_nil]

/-- After a dot stands the body of a named access. -/
theorem rest_dot_iff (cs : List Char) :
    Rest .dot cs ↔ ∃ a rest, Access.WellFormed a ∧ a.isNamed = true ∧ Accesses rest ∧
      a.body ++ rest = cs := by
  constructor
  · intro h
    obtain ⟨c, _, hc, ⟨word, rest, hword, hrest, rfl⟩, rfl⟩ := h
    have hwf := (Access.wellFormed_name_cons c word).mpr ⟨hc, hword⟩
    exact ⟨.name (c :: word), rest, hwf, rfl, hrest, rfl⟩
  · intro h
    obtain ⟨a, rest, ha, hnamed, hrest, rfl⟩ := h
    cases a with
    | index digits | quoted opening closing key => cases hnamed
    | name cs =>
      cases cs with
      | nil => cases ha
      | cons c word =>
        obtain ⟨hc, hword⟩ := (Access.wellFormed_name_cons c word).mp ha
        exact ⟨c, word ++ rest, hc, ⟨word, rest, hword, hrest, rfl⟩, rfl⟩

/-- After a bracket stands the body of any other access. -/
theorem rest_bracket_iff (cs : List Char) :
    Rest .bracket cs ↔ ∃ a rest, Access.WellFormed a ∧ a.isNamed = false ∧ Accesses rest ∧
      a.body ++ rest = cs := by
  constructor
  · intro h
    rcases h with hnumber | hkey
    · obtain ⟨c, _, hc, ⟨digits, _, hdigits, hclosing, rfl⟩, rfl⟩ := hnumber
      obtain ⟨rest, hrest, rfl⟩ := (closing_iff _).mp hclosing
      have hwf := (Access.wellFormed_index_cons c digits).mpr ⟨hc, hdigits⟩
      exact ⟨.index (c :: digits), rest, hwf, rfl, hrest, by simp [Access.body]⟩
    · obtain ⟨q, _, hq, ⟨c, _, hc, ⟨key, _, hkey, hend, rfl⟩, rfl⟩, rfl⟩ := hkey
      obtain ⟨q', _, hq', hclosing, rfl⟩ := hend
      obtain ⟨rest, hrest, rfl⟩ := (closing_iff _).mp hclosing
      have hwf := (Access.wellFormed_quoted_cons q q' c key).mpr ⟨hq, hq', hc, hkey⟩
      exact ⟨.quoted q q' (c :: key), rest, hwf, rfl, hrest, by simp [Access.body]⟩
  · intro h
    obtain ⟨a, rest, ha, hnamed, hrest, rfl⟩ := h
    have hclosing : Closing (']' :: rest) := (closing_iff _).mpr ⟨rest, hrest, rfl⟩
    cases a with
    | name cs => cases hnamed
    | index digits =>
      left
      cases digits with
      | nil => cases ha
      | cons c digits =>
        obtain ⟨hc, hdigits⟩ := (Access.wellFormed_index_cons c digits).mp ha
        have hspan : Span isDigit Closing (digits ++ ']' :: rest) :=
          ⟨digits, _, hdigits, hclosing, rfl⟩
        exact ⟨c, _, hc, hspan, by simp [Access.body]⟩
    | quoted opening closing key =>
      right
      cases key with
      | nil => cases ha.2.2
      | cons c key =>
        obtain ⟨hq, hq', hc, hkey⟩ := (Access.wellFormed_quoted_cons opening closing c key).mp ha
        have hend : Lead isQuote Closing (closing :: ']' :: rest) :=
          (lead_cons ..).mpr ⟨hq', hclosing⟩
        have hspan : Span isKeyChar (Lead isQuote Closing) (key ++ closing :: ']' :: rest) :=
          ⟨key, _, hkey, hend, rfl⟩
        exact ⟨opening, _, hq, (lead_cons ..).mpr ⟨hc, hspan⟩, by simp [Access.body]⟩

/-- Accesses begin with a dot or with a bracket. -/
theorem accesses_cons (c : Char) (cs : List Char) :
    Accesses (c :: cs) ↔ (c = '.' ∧ Rest .dot cs) ∨ (c = '[' ∧ Rest .bracket cs) := by
  rw [rest_dot_iff, rest_bracket_iff]
  constructor
  · intro h
    obtain ⟨a, rest, ha, hrest, rfl, rfl⟩ := accesses_split h
    cases hnamed : a.isNamed
    · exact .inr ⟨by simp [Access.opening, hnamed], a, rest, ha, hnamed, hrest, rfl⟩
    · exact .inl ⟨by simp [Access.opening, hnamed], a, rest, ha, hnamed, hrest, rfl⟩
  · intro h
    rcases h with ⟨rfl, a, rest, ha, hnamed, hrest, rfl⟩ | ⟨rfl, a, rest, ha, hnamed, hrest, rfl⟩
    · have := accesses_append ha hrest
      rwa [a.render_eq, Access.opening, hnamed] at this
    · have := accesses_append ha hrest
      rwa [a.render_eq, Access.opening, hnamed] at this

/-- A path begins with its head or, if that is empty, with a bracket. -/
theorem start_cons (c : Char) (cs : List Char) :
    Rest .start (c :: cs) ↔
      (isNameChar c = true ∧ Rest .name cs) ∨ (c = '[' ∧ Rest .bracket cs) := by
  rw [rest_bracket_iff]
  constructor
  · intro h
    obtain ⟨⟨head, as⟩, hwf, heq⟩ := h
    cases head with
    | nil =>
      right
      cases as with
      | nil => cases heq
      | cons a as =>
        have hnamed : a.isNamed = false := hwf.first rfl a rfl
        have heq' : a.opening :: (a.body ++ as.flatMap Access.render) = c :: cs := by
          rw [← heq, ← List.cons_append, ← a.render_eq]
          rfl
        obtain ⟨rfl, rfl⟩ := List.cons.inj heq'
        obtain ⟨ha, has⟩ := List.forall_mem_cons.mp hwf.accesses
        exact ⟨by simp [Access.opening, hnamed], a, _, ha, hnamed, ⟨as, has, rfl⟩, rfl⟩
    | cons d head =>
      left
      obtain ⟨rfl, rfl⟩ := List.cons.inj heq
      obtain ⟨hc, hhead⟩ := Bool.and_eq_true_iff.mp hwf.head
      exact ⟨hc, head, _, hhead, ⟨as, hwf.accesses, rfl⟩, rfl⟩
  · intro h
    rcases h with ⟨hc, head, _, hhead, ⟨as, has, rfl⟩, rfl⟩ |
      ⟨rfl, a, _, ha, hnamed, ⟨as, has, rfl⟩, rfl⟩
    · refine ⟨⟨c :: head, as⟩, ⟨?_, has, fun h => absurd h (by simp)⟩, rfl⟩
      show (isNameChar c && head.all isNameChar) = true
      rw [hc, hhead]
      rfl
    · refine ⟨⟨[], a :: as⟩, ⟨rfl, List.forall_mem_cons.mpr ⟨ha, has⟩, ?_⟩, ?_⟩
      · intro _ b hb
        cases hb
        exact hnamed
      · show a.render ++ as.flatMap Access.render = _
        rw [a.render_eq, Access.opening, hnamed]
        rfl

/-! ### The scan -/

/-- Where a step leads outside of brackets: the classes it asks for exclude each other. -/
theorem exists_bare_iff (dot : Except Expectation State) (c : Char) (P : State → Prop) :
    (∃ s, bare dot c = .ok s ∧ P s) ↔
      (isNameChar c = true ∧ P .name) ∨ (c = '.' ∧ ∃ s, dot = .ok s ∧ P s) ∨
        (c = '[' ∧ P .bracket) := by
  cases hname : isNameChar c
  · by_cases hdot : c = '.'
    · subst hdot
      simp [bare, hname]
    by_cases hbracket : c = '['
    · subst hbracket
      simp [bare, hname]
    -- any other character is refused, for one reason or another
    simp only [bare, hname, hdot, hbracket, Bool.false_eq_true, if_false]
    split
    · simp
    · split <;> simp
  · have hkey := (isKeyChar_iff c).mp (isKeyChar_of_isNameChar hname)
    have hdot : c ≠ '.' := hkey.1
    have hbracket : c ≠ '[' := hkey.2.1
    simp [bare, hname, hdot, hbracket]

/-- Taking a character off what may follow a state is a step of the scanner. -/
theorem rest_cons (s : State) (c : Char) (cs : List Char) :
    Rest s (c :: cs) ↔ ∃ s', step s c = .ok s' ∧ Rest s' cs := by
  cases s with
  | start =>
    rw [start_cons, step, exists_bare_iff]
    simp
  | name =>
    rw [Rest, span_cons, accesses_cons, step, exists_bare_iff]
    simp [Rest]
  | dot | quote =>
    rw [Rest, lead_cons, step]
    cases hstart : isNameStart c <;> simp [Rest]
  | bracket =>
    show Lead _ _ _ ∨ Lead _ _ _ ↔ _
    rw [lead_cons, lead_cons, step]
    cases hdigit : isDigit c
    · cases hquote : isQuote c <;> simp [Rest]
    · have hquote := not_isQuote (isNameChar_of_isDigit hdigit)
      simp [hquote, Rest]
  | quoted =>
    rw [Rest, span_cons, lead_cons, step]
    cases hquote : isQuote c
    · cases hsep : isSeparator c <;> simp [isKeyChar, hquote, hsep, Rest]
    · simp [isKeyChar, hquote, Rest]
  | unquoted =>
    rw [Rest, Closing, lead_cons, step]
    by_cases hclose : c = ']' <;> simp [hclose, Rest]
  | numeral =>
    rw [Rest, span_cons, Closing, lead_cons, step]
    cases hdigit : isDigit c
    · by_cases hclose : c = ']'
      · simp [hclose, Rest]
      · cases hpath : isPathChar c <;> simp [hclose]
    · have hkey := (isKeyChar_iff c).mp (isKeyChar_of_isNameChar (isNameChar_of_isDigit hdigit))
      have hclose : c ≠ ']' := hkey.2.2.1
      simp [hclose, Rest, Closing]
  | closed =>
    rw [Rest, accesses_cons, step]
    by_cases hdot : c = '.'
    · simp [hdot]
    · by_cases hbracket : c = '[' <;> simp [hbracket, hdot]

/-- A scan ends well exactly on what may follow its state. -/
theorem run_ok_iff (s : State) (index : Nat) (cs : List Char) :
    run s index cs = .ok () ↔ Rest s cs := by
  induction cs generalizing s index with
  | nil =>
    rw [rest_nil, run]
    cases due s <;> simp
  | cons c cs ih =>
    rw [rest_cons, run]
    cases step s c with
    | error e => simp
    | ok s' => simp [ih]

end Scan

theorem accepted_iff_run (path : String) :
    Accepted path ↔ Scan.run .start 0 path.toList = .ok () := by
  rw [Accepted, scan]
  cases Scan.run .start 0 path.toList <;> simp

theorem accepted_iff (path : String) : Accepted path ↔ ∃ e : Expression, e.Derives path := by
  rw [accepted_iff_run, Scan.run_ok_iff]
  rfl

theorem validate_ok_iff (path : String) : (validate path).outcome = .ok () ↔ Accepted path := by
  rw [Accepted, validate]
  cases scan path <;> simp [Trace.pure]

theorem validate_error_iff (path : String) (r : Rejection) :
    (validate path).outcome = .error r ↔ scan path = .error r := by
  rw [validate]
  cases scan path <;> simp [Trace.pure]

/-- A refusal says where the scan of the path stopped. -/
theorem refused_iff_run (path : String) (r : Rejection) :
    (validate path).outcome = .error r ↔
      r.path = path ∧ Scan.run .start 0 path.toList = .error ⟨r.index, r.found, r.expected⟩ := by
  rw [validate_error_iff, scan]
  cases Scan.run .start 0 path.toList with
  | ok _ => simp
  | error stop =>
    constructor
    · intro h
      cases h
      exact ⟨rfl, rfl⟩
    · intro h
      obtain ⟨rfl, hstop⟩ := h
      cases hstop
      rfl

/-- What is not accepted is refused. -/
theorem not_accepted_iff (path : String) :
    ¬ Accepted path ↔ ∃ r, (validate path).outcome = .error r := by
  simp only [validate_error_iff, Accepted]
  cases scan path <;> simp

/-- **Validation accepts exactly the paths of the grammar** and refuses every other text. -/
theorem validate_ok_iff_isPath (path : String) :
    ((validate path).outcome = .ok () ↔ Grammar.IsPath path.toList) ∧
      ((∃ r, (validate path).outcome = .error r) ↔ ¬ Grammar.IsPath path.toList) := by
  have h : Accepted path ↔ Grammar.IsPath path.toList := by
    rw [accepted_iff, Expression.isPath_iff]
    rfl
  rw [validate_ok_iff, ← not_accepted_iff, h]
  exact ⟨Iff.rfl, Iff.rfl⟩

end DocPath.Path
