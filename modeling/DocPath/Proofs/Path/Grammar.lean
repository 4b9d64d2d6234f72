import DocPath.Proofs.Path.Characters

/-! The grammar of paths.

`Suffix` and `IsPath` spell the grammar out in characters: a head of name characters, and after
it names that follow a dot, numbers in brackets and quoted keys in brackets, with no dot at the
very beginning. A well-formed `Expression` is a derivation in this grammar, and `render` is what
it derives (`isPath_iff`). -/
namespace DocPath.Path

namespace Grammar

inductive Suffix : List Char → Prop where
  | name {c : Char} {cs : List Char} : NameStart c → (∀ d ∈ cs, NameChar d) →
      Suffix ('.' :: c :: cs)
  | index {c : Char} {cs : List Char} : Digit c → (∀ d ∈ cs, Digit d) →
      Suffix ('[' :: c :: cs ++ [']'])
  /-- The two quotes need not be the same. -/
  | quoted {q c q' : Char} {cs : List Char} : Quote q → NameStart c → (∀ d ∈ cs, KeyChar d) →
      Quote q' → Suffix ('[' :: q :: c :: cs ++ [q', ']'])

/-- A head and the suffixes after it. The head may be empty, but then no dot comes first. -/
def IsPath (cs : List Char) : Prop :=
  ∃ (head : List Char) (suffixes : List (List Char)), (∀ c ∈ head, NameChar c) ∧
    (∀ s ∈ suffixes, Suffix s) ∧ (head = [] → ∀ s ∈ suffixes.head?, s.head? ≠ some '.') ∧
    head ++ suffixes.flatten = cs

end Grammar

/-! ### Accesses -/

namespace Access

/-- The character that an access starts with. -/
def opening (a : Access) : Char := if a.isNamed then '.' else '['

/-- What an access is written as after its first character. -/
def body : Access → List Char
  | .name cs => cs
  | .index digits => digits ++ [']']
  | .quoted opening closing key => opening :: key ++ [closing, ']']

theorem render_eq (a : Access) : a.render = a.opening :: a.body := by
  cases a <;> rfl

theorem isNamed_eq_false_iff (a : Access) : a.isNamed = false ↔ a.render.head? ≠ some '.' := by
  rw [render_eq, opening]
  cases a.isNamed <;> simp

theorem wellFormed_name_cons (c : Char) (cs : List Char) :
    (name (c :: cs)).WellFormed ↔ isNameStart c = true ∧ cs.all isNameChar = true := by
  rw [WellFormed, isName, Bool.and_eq_true]

theorem wellFormed_index_cons (c : Char) (cs : List Char) :
    (index (c :: cs)).WellFormed ↔ isDigit c = true ∧ cs.all isDigit = true := by
  rw [WellFormed, isNumeral, List.all_cons]
  simp

theorem wellFormed_quoted_cons (q q' c : Char) (cs : List Char) :
    (quoted q q' (c :: cs)).WellFormed ↔
      isQuote q = true ∧ isQuote q' = true ∧ isNameStart c = true ∧ cs.all isKeyChar = true := by
  rw [WellFormed, isQuotable_cons, Bool.and_eq_true]

/-- The suffixes of the grammar are what well-formed accesses are written as. -/
theorem suffix_iff (cs : List Char) :
    Grammar.Suffix cs ↔ ∃ a : Access, a.WellFormed ∧ a.render = cs := by
  constructor
  · intro h
    cases h with
    | @name c cs hc hcs =>
      refine ⟨.name (c :: cs), (wellFormed_name_cons c cs).mpr ⟨?_, ?_⟩, rfl⟩
      · exact (isNameStart_iff c).mpr hc
      · exact List.all_eq_true.mpr fun d hd => (isNameChar_iff d).mpr (hcs d hd)
    | @index c cs hc hcs =>
      refine ⟨.index (c :: cs), (wellFormed_index_cons c cs).mpr ⟨?_, ?_⟩, rfl⟩
      · exact (isDigit_iff c).mpr hc
      · exact List.all_eq_true.mpr fun d hd => (isDigit_iff d).mpr (hcs d hd)
    | @quoted q c q' cs hq hc hcs hq' =>
      refine ⟨.quoted q q' (c :: cs), (wellFormed_quoted_cons q q' c cs).mpr ⟨?_, ?_, ?_, ?_⟩, rfl⟩
      · exact (isQuote_iff q).mpr hq
      · exact (isQuote_iff q').mpr hq'
      · exact (isNameStart_iff c).mpr hc
      · exact List.all_eq_true.mpr fun d hd => (isKeyChar_iff d).mpr (hcs d hd)
  · intro h
    obtain ⟨a, ha, rfl⟩ := h
    cases a with
    | name cs =>
      cases cs with
      | nil => cases ha
      | cons c cs =>
        obtain ⟨hc, hcs⟩ := (wellFormed_name_cons c cs).mp ha
        exact .name ((isNameStart_iff c).mp hc) fun d hd =>
          (isNameChar_iff d).mp (List.all_eq_true.mp hcs d hd)
    | index cs =>
      cases cs with
      | nil => cases ha
      | cons c cs =>
        obtain ⟨hc, hcs⟩ := (wellFormed_index_cons c cs).mp ha
        exact .index ((isDigit_iff c).mp hc) fun d hd =>
          (isDigit_iff d).mp (List.all_eq_true.mp hcs d hd)
    | quoted q q' cs =>
      cases cs with
      | nil => cases ha.2.2
      | cons c cs =>
        obtain ⟨hq, hq', hc, hcs⟩ := (wellFormed_quoted_cons q q' c cs).mp ha
        exact .quoted ((isQuote_iff q).mp hq) ((isNameStart_iff c).mp hc)
          (fun d hd => (isKeyChar_iff d).mp (List.all_eq_true.mp hcs d hd))
          ((isQuote_iff q').mp hq')

end Access

/-! ### Expressions -/

/-- Suffixes one after the other are accesses one after the other. -/
theorem suffixes_iff (suffixes : List (List Char)) :
    (∀ s ∈ suffixes, Grammar.Suffix s) ↔
      ∃ as : List Access, (∀ a ∈ as, a.WellFormed) ∧ as.map Access.render = suffixes := by
  constructor
  · intro h
    induction suffixes with
    | nil => exact ⟨[], by simp, rfl⟩
    | cons s suffixes ih =>
      obtain ⟨hs, hsuffixes⟩ := List.forall_mem_cons.mp h
      obtain ⟨a, ha, rfl⟩ := (Access.suffix_iff s).mp hs
      obtain ⟨as, has, rfl⟩ := ih hsuffixes
      exact ⟨a :: as, List.forall_mem_cons.mpr ⟨ha, has⟩, rfl⟩
  · intro h s hs
    obtain ⟨as, has, rfl⟩ := h
    obtain ⟨a, ha, rfl⟩ := List.mem_map.mp hs
    exact (Access.suffix_iff _).mpr ⟨a, has a ha, rfl⟩

namespace Expression

/-- The expression is a derivation of the path. -/
def Derives (e : Expression) (path : String) : Prop := e.WellFormed ∧ e.render = path.toList

theorem wellFormed_empty : WellFormed ⟨[], []⟩ := by
  refine ⟨rfl, ?_, ?_⟩
  · intro a ha
    cases ha
  · intro _ a ha
    cases ha

/-- Only the empty path and those that open with a bracket have an empty head. -/
theorem head_eq_nil_iff {e : Expression} {path : String} (h : e.Derives path) :
    e.head = [] ↔ path = "" ∨ path.toList.head? = some '[' := by
  obtain ⟨head, accesses⟩ := e
  obtain ⟨hwf, hrender⟩ := h
  rw [← String.toList_inj, ← hrender, render]
  cases head with
  | nil =>
    cases accesses with
    | nil => simp
    | cons a accesses =>
      have hnamed : a.isNamed = false := hwf.first rfl a rfl
      simp [a.render_eq, Access.opening, hnamed]
  | cons c head =>
    have hc : isNameChar c = true := List.all_eq_true.mp hwf.head c (List.mem_cons_self ..)
    have hbracket : c ≠ '[' := ((isKeyChar_iff c).mp (isKeyChar_of_isNameChar hc)).2.1
    simp [hbracket]

theorem accesses_eq_nil_of_head {e : Expression} {path : String} (h : e.Derives path)
    (hbracket : path.toList.head? ≠ some '[') (hhead : e.head = []) : e.accesses = [] := by
  obtain rfl : path = "" := ((head_eq_nil_iff h).mp hhead).resolve_right hbracket
  have hrender : e.render = [] := h.2
  rw [render, hhead, List.nil_append] at hrender
  cases haccesses : e.accesses with
  | nil => rfl
  | cons a accesses =>
    rw [haccesses, List.flatMap_cons, a.render_eq] at hrender
    cases hrender

/-- What is a path is what some well-formed expression is written as. -/
theorem isPath_iff (cs : List Char) :
    Grammar.IsPath cs ↔ ∃ e : Expression, e.WellFormed ∧ e.render = cs := by
  constructor
  · intro h
    obtain ⟨head, suffixes, hhead, hsuffixes, hfirst, rfl⟩ := h
    obtain ⟨as, has, rfl⟩ := (suffixes_iff suffixes).mp hsuffixes
    refine ⟨⟨head, as⟩, ⟨?_, has, ?_⟩, ?_⟩
    · exact List.all_eq_true.mpr fun c hc => (isNameChar_iff c).mpr (hhead c hc)
    · intro hempty a ha
      apply a.isNamed_eq_false_iff.mpr
      apply hfirst hempty
      rw [List.head?_map, Option.mem_def.mp ha]
      rfl
    · rw [render, List.flatMap_def]
  · intro h
    obtain ⟨⟨head, as⟩, hwf, rfl⟩ := h
    refine ⟨head, as.map Access.render, ?_, ?_, ?_, ?_⟩
    · exact fun c hc => (isNameChar_iff c).mp (List.all_eq_true.mp hwf.head c hc)
    · exact (suffixes_iff _).mpr ⟨as, hwf.accesses, rfl⟩
    · intro hempty s hs
      rw [List.head?_map, Option.mem_def, Option.map_eq_some_iff] at hs
      obtain ⟨a, ha, rfl⟩ := hs
      exact a.isNamed_eq_false_iff.mp (hwf.first hempty a ha)
    · rw [render, List.flatMap_def]

end Expression

end DocPath.Path
