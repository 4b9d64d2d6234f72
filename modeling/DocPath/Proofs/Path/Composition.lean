import DocPath.Proofs.Path.Keys
import DocPath.Proofs.Path.Viability

/-! Paths compose.

A path may be cut before any of its dots and opening brackets: what stands before the cut is a path,
and so is what stands after it, but for the dot. The scanner shows why. It reads a dot or an opening
bracket only where the path may end (`rest_cons_dot`, `rest_cons_bracket`), so what comes before the
cut is accepted; and it goes on from there as it would from the start (`rest_dot_iff_start`), so
what comes after the cut is accepted on its own. Parsing cuts at these very characters, and the keys
of the whole are those of the parts (`keysOf_append_cons`). -/
namespace DocPath.Path

namespace Scan

/-! ### A text in two parts -/

/-- The first part leads to a state, and the second may follow that state. -/
theorem rest_append (s : State) (a b : List Char) :
    Rest s (a ++ b) ↔ ∃ s', reach s a = some s' ∧ Rest s' b := by
  induction a generalizing s with
  | nil => simp [reach]
  | cons c a ih =>
    rw [List.cons_append, rest_cons, reach]
    cases step s c with
    | error e => simp
    | ok t => simp [ih]

/-- What may follow a state leads to one in which a path may end. -/
theorem rest_iff_reach (s : State) (cs : List Char) :
    Rest s cs ↔ ∃ s', reach s cs = some s' ∧ Rest s' [] := by
  have h := rest_append s cs []
  rwa [List.append_nil] at h

theorem step_ne_start (s : State) (c : Char) : step s c ≠ .ok .start := by
  intro h
  cases s <;> simp only [step, bare] at h <;> repeat' split at h
  all_goals cases h

/-- The start is left with the first character, and nothing leads back to it. -/
theorem reach_eq_start {s : State} {cs : List Char} (h : reach s cs = some .start) : cs = [] := by
  induction cs generalizing s with
  | nil => rfl
  | cons c cs ih =>
    rw [reach] at h
    cases hstep : step s c with
    | error e =>
      rw [hstep] at h
      cases h
    | ok t =>
      rw [hstep] at h
      obtain rfl := ih h
      cases h
      exact absurd hstep (step_ne_start s c)

/-! ### Openings -/

/-- A bracket is opened where the path may end, and nowhere else. -/
theorem step_bracket (s s' : State) : step s '[' = .ok s' ↔ due s = none ∧ s' = .bracket := by
  cases s with
  | start | name | closed =>
    show Except.ok State.bracket = Except.ok s' ↔ _
    simp [due, eq_comm]
  | _ =>
    refine iff_of_false (fun h => ?_) (by simp [due])
    cases h

/-- A dot is read there too, but not at the start. -/
theorem step_dot (s s' : State) :
    step s '.' = .ok s' ↔ (due s = none ∧ s ≠ .start) ∧ s' = .dot := by
  cases s with
  | name | closed =>
    show Except.ok State.dot = Except.ok s' ↔ _
    simp [due, eq_comm]
  | _ =>
    refine iff_of_false (fun h => ?_) (by simp [due])
    cases h

theorem rest_cons_bracket (s : State) (cs : List Char) :
    Rest s ('[' :: cs) ↔ Rest s [] ∧ Rest .bracket cs := by
  simp [rest_cons, rest_nil, step_bracket, and_assoc]

theorem rest_cons_dot (s : State) (cs : List Char) :
    Rest s ('.' :: cs) ↔ (Rest s [] ∧ s ≠ .start) ∧ Rest .dot cs := by
  simp [rest_cons, rest_nil, step_dot, and_assoc]

/-- What comes before a bracket is a path of its own, and what the bracket opens does not depend on
it. -/
theorem rest_append_bracket (s : State) (cs ds : List Char) :
    Rest s (cs ++ '[' :: ds) ↔ Rest s cs ∧ Rest .bracket ds := by
  rw [rest_append, rest_iff_reach s cs]
  constructor
  · intro h
    obtain ⟨s', hreach, h⟩ := h
    rw [rest_cons_bracket] at h
    exact ⟨⟨s', hreach, h.1⟩, h.2⟩
  · intro h
    obtain ⟨⟨s', hreach, hend⟩, h⟩ := h
    exact ⟨s', hreach, (rest_cons_bracket s' ds).mpr ⟨hend, h⟩⟩

theorem rest_append_dot (cs ds : List Char) :
    Rest .start (cs ++ '.' :: ds) ↔ (Rest .start cs ∧ cs ≠ []) ∧ Rest .dot ds := by
  rw [rest_append, rest_iff_reach .start cs]
  constructor
  · intro h
    obtain ⟨s', hreach, h⟩ := h
    obtain ⟨⟨hend, hstart⟩, h⟩ := (rest_cons_dot s' ds).mp h
    refine ⟨⟨⟨s', hreach, hend⟩, ?_⟩, h⟩
    rintro rfl
    cases hreach
    exact hstart rfl
  · intro h
    obtain ⟨⟨⟨s', hreach, hend⟩, hne⟩, h⟩ := h
    refine ⟨s', hreach, (rest_cons_dot s' ds).mpr ⟨⟨hend, ?_⟩, h⟩⟩
    rintro rfl
    exact hne (reach_eq_start hreach)

/-- A bracket opens the same at the start of a path. -/
theorem rest_bracket_iff_start (cs : List Char) : Rest .bracket cs ↔ Rest .start ('[' :: cs) := by
  rw [rest_cons_bracket, rest_nil]
  simp [due]

/-- What may follow a dot is a path that starts with a name. -/
theorem rest_dot_iff_start (cs : List Char) :
    Rest .dot cs ↔ Rest .start cs ∧ ∃ c ∈ cs.head?, isNameStart c = true := by
  cases cs with
  | nil => simp [rest_nil, due]
  | cons c cs =>
    have hdot : Rest .dot (c :: cs) ↔ isNameStart c = true ∧ Rest .name cs := lead_cons ..
    rw [hdot, start_cons]
    constructor
    · intro h
      exact ⟨.inl ⟨isNameChar_of_isNameStart h.1, h.2⟩, c, rfl, h.1⟩
    · intro h
      obtain ⟨hstart, _, hhead, hc⟩ := h
      cases hhead
      rcases hstart with hname | ⟨rfl, _⟩
      · exact ⟨hc, hname.2⟩
      · cases hc

end Scan

/-! ### Acceptance -/

theorem accepted_iff_rest (path : String) : Accepted path ↔ Scan.Rest .start path.toList := by
  rw [accepted_iff_run, Scan.run_ok_iff]

theorem accepted_append_dot (p q : String) :
    Accepted (p ++ "." ++ q) ↔
      (Accepted p ∧ p ≠ "") ∧ Accepted q ∧ ∃ c ∈ q.toList.head?, Grammar.NameStart c := by
  have htext : (p ++ "." ++ q).toList = p.toList ++ '.' :: q.toList := by simp
  simp only [accepted_iff_rest, htext, Scan.rest_append_dot, Scan.rest_dot_iff_start,
    isNameStart_iff, Ne, String.toList_eq_nil_iff]

theorem accepted_append_bracket {p q : String} (hq : q.toList.head? = some '[') :
    Accepted (p ++ q) ↔ Accepted p ∧ Accepted q := by
  obtain ⟨cs, hcs⟩ : ∃ cs, q.toList = '[' :: cs := List.head?_eq_some_iff.mp hq
  rw [accepted_iff_rest, accepted_iff_rest, accepted_iff_rest, String.toList_append, hcs,
    Scan.rest_append_bracket, Scan.rest_bracket_iff_start]

/-! ### Keys -/

/-- The keys of a text that is cut at an opening are those of its parts. -/
theorem keysOf_append_cons {c : Char} (hc : isOpening c = true) (cs ds : List Char) :
    keysOf (canonicalChars (cs ++ c :: ds)) =
      keysOf (canonicalChars cs) ++ keysOf (canonicalChars ds) := by
  have hopening : isOpening (canonical c) = true := by rw [isOpening_canonical, hc]
  rw [canonicalChars, List.map_append, List.map_cons, keysOf, flatMap_pieces,
    List.splitOnP_append_cons _ _ hopening, List.map_append, ← flatMap_pieces, ← flatMap_pieces]
  rfl

theorem parse_append_dot {p q : String} (hp : Accepted p) (hq : Accepted q)
    (h : Accepted (p ++ "." ++ q)) :
    ∃ ks ls, (parse p).outcome = .ok ks ∧ (parse q).outcome = .ok ls ∧
      (parse (p ++ "." ++ q)).outcome = .ok (ks ++ ls) := by
  have htext : (p ++ "." ++ q).toList = p.toList ++ '.' :: q.toList := by simp
  rw [parse_of_accepted hp, parse_of_accepted hq, parse_of_accepted h, htext,
    keysOf_append_cons rfl, List.map_append]
  exact ⟨_, _, rfl, rfl, rfl⟩

/-- A path that opens with a bracket has an empty key first, which is gone after another path. -/
theorem parse_append_bracket {p q : String} (hp : Accepted p) (hq : Accepted q)
    (hbracket : q.toList.head? = some '[') (h : Accepted (p ++ q)) :
    ∃ ks ls, (parse p).outcome = .ok ks ∧ (parse q).outcome = .ok ("" :: ls) ∧
      (parse (p ++ q)).outcome = .ok (ks ++ ls) := by
  obtain ⟨cs, hcs⟩ : ∃ cs, q.toList = '[' :: cs := List.head?_eq_some_iff.mp hbracket
  have hkeys : keysOf (canonicalChars q.toList) = [] :: keysOf (canonicalChars cs) := by
    rw [hcs]
    exact keysOf_append_cons rfl [] cs
  rw [parse_of_accepted hp, parse_of_accepted hq, parse_of_accepted h, hkeys,
    String.toList_append, hcs, keysOf_append_cons rfl, List.map_append]
  exact ⟨_, _, rfl, rfl, rfl⟩

/-- **Paths compose.** Two texts with a dot between them are accepted exactly if both are, the first
is not empty and the second starts with a letter or an underscore; the keys of the whole are those
of the first and then those of the second. A text that opens with a bracket makes an accepted whole
with another exactly if both are accepted, and of its keys only the first, which is empty, is left
out. -/
theorem accepted_append (p q : String) :
    ((Accepted (p ++ "." ++ q) ↔
        (Accepted p ∧ p ≠ "") ∧ Accepted q ∧ ∃ c ∈ q.toList.head?, Grammar.NameStart c) ∧
      (Accepted (p ++ "." ++ q) →
        ∃ ks ls, (parse p).outcome = .ok ks ∧ (parse q).outcome = .ok ls ∧
          (parse (p ++ "." ++ q)).outcome = .ok (ks ++ ls))) ∧
    (q.toList.head? = some '[' →
      (Accepted (p ++ q) ↔ Accepted p ∧ Accepted q) ∧
      (Accepted (p ++ q) →
        ∃ ks ls, (parse p).outcome = .ok ks ∧ (parse q).outcome = .ok ("" :: ls) ∧
          (parse (p ++ q)).outcome = .ok (ks ++ ls))) := by
  refine ⟨⟨accepted_append_dot p q, fun h => ?_⟩, fun hbracket => ?_⟩
  · obtain ⟨⟨hp, _⟩, hq, _⟩ := (accepted_append_dot p q).mp h
    exact parse_append_dot hp hq h
  · refine ⟨accepted_append_bracket hbracket, fun h => ?_⟩
    obtain ⟨hp, hq⟩ := (accepted_append_bracket hbracket).mp h
    exact parse_append_bracket hp hq hbracket h

theorem accepted_append_after_bracket :
    (Accepted "a['x-y']" ∧ Accepted "b[007]" ∧ (∃ c ∈ "b[007]".toList.head?, Grammar.NameStart c) ∧
      ∃ ks ls, (parse "a['x-y']").outcome = .ok ks ∧ (parse "b[007]").outcome = .ok ls ∧
        (parse ("a['x-y']" ++ "." ++ "b[007]")).outcome = .ok (ks ++ ls)) ∧
    ("[0].c".toList.head? = some '[' ∧ Accepted ("a['x-y']" ++ "[0].c") ∧
      ∃ ks ls, (parse "a['x-y']").outcome = .ok ks ∧ (parse "[0].c").outcome = .ok ("" :: ls) ∧
        (parse ("a['x-y']" ++ "[0].c")).outcome = .ok (ks ++ ls)) ∧
    ¬ Accepted ("a['x" ++ "." ++ "y']") := by
  obtain ⟨hdot, hkeys⟩ := (accepted_append "a['x-y']" "b[007]").1
  obtain ⟨hp, hq, hstart⟩ := hdot.mp (by rfl)
  obtain ⟨hbracket, hkeys'⟩ := (accepted_append "a['x-y']" "[0].c").2 (by rfl)
  refine ⟨⟨hp.1, hq, hstart, hkeys (by rfl)⟩, ⟨by rfl, by rfl, hkeys' (by rfl)⟩, ?_⟩
  rw [(accepted_append "a['x" "y']").1.1]
  intro h
  cases h.1.1

end DocPath.Path
