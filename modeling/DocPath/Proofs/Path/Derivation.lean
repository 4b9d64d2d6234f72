import DocPath.Proofs.Path.Grammar

/-! A path has one derivation.

No access is written with a dot or an opening bracket except at its start. So a text that an
expression is written as, cut at every dot and every opening bracket, falls apart into the head
and the bodies of the accesses (`splitOnP_render`), and a body tells which access it belongs to
(`body_inj`). This is also what makes it right to take a path apart by cutting it. -/
namespace DocPath.Path

/-- What the accesses of a path start with. -/
def isOpening (c : Char) : Bool := c == '.' || c == '['

theorem isOpening_of_isKeyChar {c : Char} (h : isKeyChar c = true) : isOpening c = false := by
  have hc := (isKeyChar_iff c).mp h
  simp [isOpening, hc.1, hc.2.1]

theorem isOpening_of_isQuote {c : Char} (h : isQuote c = true) : isOpening c = false := by
  rcases (isQuote_iff c).mp h with rfl | rfl <;> rfl

/-! ### What names, numbers and quoted keys consist of -/

theorem all_isNameChar_of_isName {cs : List Char} (h : isName cs = true) :
    ∀ c ∈ cs, isNameChar c = true := by
  cases cs with
  | nil => cases h
  | cons c cs =>
    rw [isName, Bool.and_eq_true] at h
    exact List.forall_mem_cons.mpr ⟨isNameChar_of_isNameStart h.1, List.all_eq_true.mp h.2⟩

theorem all_isDigit_of_isNumeral {cs : List Char} (h : isNumeral cs = true) :
    ∀ c ∈ cs, isDigit c = true := by
  rw [isNumeral, Bool.and_eq_true] at h
  exact List.all_eq_true.mp h.2

theorem all_isKeyChar_of_isQuotable {cs : List Char} (h : isQuotable cs = true) :
    ∀ c ∈ cs, isKeyChar c = true := by
  cases cs with
  | nil => cases h
  | cons c cs =>
    rw [isQuotable_cons, Bool.and_eq_true] at h
    exact List.forall_mem_cons.mpr
      ⟨isKeyChar_of_isNameChar (isNameChar_of_isNameStart h.1), List.all_eq_true.mp h.2⟩

theorem not_isName_of_isNumeral {cs : List Char} (h : isNumeral cs = true) : isName cs = false := by
  cases cs with
  | nil => rfl
  | cons c cs =>
    have hdigit := all_isDigit_of_isNumeral h c (List.mem_cons_self ..)
    rw [isName, not_isNameStart_of_isDigit hdigit]
    rfl

theorem not_isNumeral_of_isQuotable {cs : List Char} (h : isQuotable cs = true) :
    isNumeral cs = false := by
  cases cs with
  | nil => rfl
  | cons c cs =>
    rw [isQuotable_cons, Bool.and_eq_true] at h
    cases hnumeral : isNumeral (c :: cs)
    · rfl
    · have hdigit := all_isDigit_of_isNumeral hnumeral c (List.mem_cons_self ..)
      rw [not_isNameStart_of_isDigit hdigit] at h
      cases h.1

theorem isQuotable_of_isName {cs : List Char} (h : isName cs = true) : isQuotable cs = true := by
  cases cs with
  | nil => cases h
  | cons c cs =>
    rw [isName, Bool.and_eq_true] at h
    rw [isQuotable_cons, h.1, Bool.true_and]
    exact List.all_eq_true.mpr fun d hd => isKeyChar_of_isNameChar (List.all_eq_true.mp h.2 d hd)

namespace Access

theorem isOpening_opening (a : Access) : isOpening a.opening = true := by
  rw [opening]
  split <;> rfl

theorem body_no_opening {a : Access} (h : a.WellFormed) : ∀ c ∈ a.body, isOpening c = false := by
  cases a with
  | name cs =>
    intro c hc
    exact isOpening_of_isKeyChar (isKeyChar_of_isNameChar (all_isNameChar_of_isName h c hc))
  | index digits =>
    intro c hc
    rcases List.mem_append.mp hc with hc | hc
    · exact isOpening_of_isKeyChar
        (isKeyChar_of_isNameChar (isNameChar_of_isDigit (all_isDigit_of_isNumeral h c hc)))
    · rw [List.mem_singleton.mp hc]
      rfl
  | quoted opening closing key =>
    obtain ⟨hopening, hclosing, hkey⟩ := h
    intro c hc
    simp only [body, List.cons_append, List.mem_cons, List.mem_append, List.not_mem_nil,
      or_false] at hc
    rcases hc with rfl | hc | rfl | rfl
    · exact isOpening_of_isQuote hopening
    · exact isOpening_of_isKeyChar (all_isKeyChar_of_isQuotable hkey c hc)
    · exact isOpening_of_isQuote hclosing
    · rfl

/-- A name has no closing bracket in its body, and every other access has. -/
theorem closing_mem_body_iff {a : Access} (h : a.WellFormed) :
    ']' ∈ a.body ↔ a.isNamed = false := by
  cases a with
  | name cs =>
    refine iff_of_false ?_ (by simp [isNamed])
    intro hmem
    exact absurd (all_isNameChar_of_isName h _ hmem) (by decide)
  | index digits => simp [body, isNamed]
  | quoted opening closing key => simp [body, isNamed]

/-- Different accesses have different bodies. -/
theorem body_inj {a b : Access} (ha : a.WellFormed) (hb : b.WellFormed) (h : a.body = b.body) :
    a = b := by
  have hnamed : a.isNamed = b.isNamed := by
    have := closing_mem_body_iff ha
    rw [h, closing_mem_body_iff hb] at this
    cases hx : a.isNamed <;> cases hy : b.isNamed <;> simp_all
  -- a number starts with a digit and a quoted key with a quote
  have hstart {digits key : List Char} {q q' : Char} (hd : isNumeral digits = true)
      (hq : isQuote q = true) : digits ++ [']'] ≠ q :: key ++ [q', ']'] := by
    intro heq
    cases digits with
    | nil => cases hd
    | cons d digits =>
      obtain ⟨rfl, -⟩ := List.cons.inj heq
      have hdigit := all_isDigit_of_isNumeral hd d (List.mem_cons_self ..)
      rw [not_isQuote (isNameChar_of_isDigit hdigit)] at hq
      cases hq
  cases a with
  | name cs =>
    cases b with
    | name cs' => exact congrArg name h
    | index _ | quoted _ _ _ => cases hnamed
  | index digits =>
    cases b with
    | name _ => cases hnamed
    | index digits' => exact congrArg index (List.append_cancel_right h)
    | quoted q q' key => exact absurd h (hstart ha hb.1)
  | quoted q q' key =>
    cases b with
    | name _ => cases hnamed
    | index digits' => exact absurd h.symm (hstart hb ha.1)
    | quoted p p' key' =>
      obtain ⟨rfl, htail⟩ := List.cons.inj h
      obtain ⟨rfl, hends⟩ := List.append_inj' htail rfl
      cases hends
      rfl

end Access

/-! ### Expressions cut at their openings -/

/-- Text without openings, and accesses after it, cut at every opening. -/
theorem splitOnP_accesses (cs : List Char) (as : List Access) (hcs : ∀ c ∈ cs, isOpening c = false)
    (has : ∀ a ∈ as, a.WellFormed) :
    (cs ++ as.flatMap Access.render).splitOnP isOpening = cs :: as.map Access.body := by
  induction as generalizing cs with
  | nil =>
    rw [List.flatMap_nil, List.append_nil]
    exact List.splitOnP_eq_singleton hcs
  | cons a as ih =>
    obtain ⟨ha, has⟩ := List.forall_mem_cons.mp has
    rw [List.flatMap_cons, a.render_eq, List.cons_append,
      List.splitOnP_append_cons_of_forall_mem hcs a.opening a.isOpening_opening,
      ih _ (a.body_no_opening ha) has]
    rfl

theorem accesses_inj {as bs : List Access} (has : ∀ a ∈ as, a.WellFormed)
    (hbs : ∀ b ∈ bs, b.WellFormed) (h : as.map Access.body = bs.map Access.body) : as = bs := by
  induction as generalizing bs with
  | nil => exact (List.map_eq_nil_iff.mp h.symm).symm
  | cons a as ih =>
    cases bs with
    | nil => cases h
    | cons b bs =>
      obtain ⟨ha, has⟩ := List.forall_mem_cons.mp has
      obtain ⟨hb, hbs⟩ := List.forall_mem_cons.mp hbs
      obtain ⟨hbody, hbodies⟩ := List.cons.inj h
      rw [Access.body_inj ha hb hbody, ih has hbs hbodies]

namespace Expression

theorem splitOnP_render {e : Expression} (h : e.WellFormed) :
    e.render.splitOnP isOpening = e.head :: e.accesses.map Access.body := by
  refine splitOnP_accesses e.head e.accesses ?_ h.accesses
  intro c hc
  exact isOpening_of_isKeyChar (isKeyChar_of_isNameChar (List.all_eq_true.mp h.head c hc))

/-- **Expressions that are written alike are the same.** -/
theorem render_inj {e e' : Expression} (h : e.WellFormed) (h' : e'.WellFormed)
    (heq : e.render = e'.render) : e = e' := by
  have hsplit := splitOnP_render h
  rw [heq, splitOnP_render h'] at hsplit
  obtain ⟨hhead, hbodies⟩ := List.cons.inj hsplit
  have haccesses := accesses_inj h'.accesses h.accesses hbodies
  cases e
  cases e'
  cases hhead
  cases haccesses
  rfl

end Expression

end DocPath.Path
