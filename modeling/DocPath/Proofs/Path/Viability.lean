import DocPath.Proofs.Path.Acceptance

/-! A refusal names the first point of no return.

Some beginnings of a text can still become a path and others cannot, whatever follows. The scanner
keeps them apart: it can read a text to its end exactly if the text is `Viable` (`viable_iff`),
since every state it can be in has a `completion`, and what it refuses no state allows. So the
index of a refusal is the length of the longest viable beginning (`Rejection.Marks`), and nothing
that comes after the refused character has a part in the refusal (`run_of_refused`). -/
namespace DocPath.Path

namespace Scan

/-- The state after some characters, if the scanner can read them. -/
def reach (s : State) : List Char → Option State
  | [] => some s
  | c :: rest => match step s c with
    | .ok s' => reach s' rest
    | .error _ => none

theorem reach_append (s : State) (a b : List Char) :
    reach s (a ++ b) = (reach s a).bind fun s' => reach s' b := by
  induction a generalizing s with
  | nil => rfl
  | cons c a ih =>
    simp only [List.cons_append, reach]
    cases step s c with
    | error e => rfl
    | ok s' => exact ih s'

/-- What is read so far matters to the rest of a scan by its state and its length only. -/
theorem run_of_reach {s s' : State} {read : List Char} (h : reach s read = some s') (index : Nat)
    (rest : List Char) : run s index (read ++ rest) = run s' (index + read.length) rest := by
  induction read generalizing s index with
  | nil =>
    cases h
    rfl
  | cons c read ih =>
    rw [reach] at h
    rw [List.cons_append, run]
    cases hstep : step s c with
    | error e =>
      rw [hstep] at h
      cases h
    | ok t =>
      rw [hstep] at h
      show run t (index + 1) (read ++ rest) = _
      rw [ih h, List.length_cons, Nat.add_assoc, Nat.add_comm 1]

/-- Nothing that follows mends what cannot be read. -/
theorem run_of_stuck {s : State} {read : List Char} (h : reach s read = none) (index : Nat)
    (rest : List Char) : run s index (read ++ rest) ≠ .ok () := by
  induction read generalizing s index with
  | nil => cases h
  | cons c read ih =>
    rw [reach] at h
    rw [List.cons_append, run]
    cases hstep : step s c with
    | error e => simp
    | ok t =>
      rw [hstep] at h
      exact ih h (index + 1)

/-- A way to end a path from each state. -/
def State.completion : State → List Char
  | .start | .name | .closed => []
  | .dot => ['a']
  | .bracket => ['0', ']']
  | .quote => ['a', '"', ']']
  | .quoted => ['"', ']']
  | .unquoted | .numeral => [']']

theorem run_completion (s : State) (index : Nat) : run s index s.completion = .ok () := by
  cases s <;> rfl

/-- What is wrong with the next character, or with the end if there is none. -/
def refusal (s : State) : Option Char → Option Expectation
  | none => due s
  | some c => match step s c with
    | .ok _ => none
    | .error e => some e

theorem refusal_some (s : State) (c : Char) (e : Expectation) :
    refusal s (some c) = some e ↔ step s c = .error e := by
  rw [refusal]
  cases step s c <;> simp

/-- A character that the state refuses stops the scan, whatever comes after it. -/
theorem run_of_refused {s s' : State} {read : List Char} {c : Char} {e : Expectation}
    (hreach : reach s read = some s') (hstep : step s' c = .error e) (index : Nat)
    (rest : List Char) :
    run s index (read ++ c :: rest) = .error ⟨index + read.length, some c, e⟩ := by
  rw [run_of_reach hreach, run, hstep]

/-- A scan that fails has read some characters, and the state after them refuses what is next. -/
theorem run_error {s : State} {index : Nat} {cs : List Char} {stop : Stop}
    (h : run s index cs = .error stop) :
    ∃ read rest s', read ++ rest = cs ∧ reach s read = some s' ∧
      refusal s' rest.head? = some stop.expected ∧ stop.index = index + read.length ∧
      stop.found = rest.head? := by
  induction cs generalizing s index with
  | nil =>
    rw [run] at h
    cases hdue : due s with
    | none =>
      rw [hdue] at h
      cases h
    | some e =>
      rw [hdue] at h
      cases h
      exact ⟨[], [], s, rfl, rfl, hdue, rfl, rfl⟩
  | cons c cs ih =>
    rw [run] at h
    cases hstep : step s c with
    | error e =>
      rw [hstep] at h
      cases h
      exact ⟨[], c :: cs, s, rfl, rfl, by simp [refusal, hstep], rfl, rfl⟩
    | ok t =>
      rw [hstep] at h
      obtain ⟨read, rest, s', rfl, hreach, hrefusal, hindex, hfound⟩ := ih h
      refine ⟨c :: read, rest, s', rfl, ?_, hrefusal, ?_, hfound⟩
      · rw [reach, hstep]
        exact hreach
      · rw [hindex, List.length_cons]
        omega

end Scan

/-! ### Viable beginnings -/

/-- Some path starts with these characters. -/
def Viable (cs : List Char) : Prop := ∃ rest, Accepted (String.ofList (cs ++ rest))

/-- What can become a path is what the scanner can read. -/
theorem viable_iff (cs : List Char) : Viable cs ↔ ∃ s, Scan.reach .start cs = some s := by
  constructor
  · intro h
    obtain ⟨rest, h⟩ := h
    rw [accepted_iff_run, String.toList_ofList] at h
    cases hreach : Scan.reach .start cs with
    | none => exact absurd h (Scan.run_of_stuck hreach 0 rest)
    | some s => exact ⟨s, rfl⟩
  · intro h
    obtain ⟨s, hreach⟩ := h
    refine ⟨s.completion, ?_⟩
    rw [accepted_iff_run, String.toList_ofList, Scan.run_of_reach hreach]
    exact Scan.run_completion s _

theorem Viable.of_append {cs rest : List Char} (h : Viable (cs ++ rest)) : Viable cs := by
  obtain ⟨more, h⟩ := h
  exact ⟨rest ++ more, by rwa [← List.append_assoc]⟩

/-- A character that is refused where it stands ends all hope. -/
theorem not_viable_of_refusal {read : List Char} {s : Scan.State} {c : Char} {e : Expectation}
    (hreach : Scan.reach .start read = some s) (hrefusal : Scan.refusal s (some c) = some e) :
    ¬ Viable (read ++ [c]) := by
  have hstep := (Scan.refusal_some s c e).mp hrefusal
  rw [viable_iff, Scan.reach_append, hreach]
  simp [Scan.reach, hstep]

/-- The refusal marks the first point of no return: what comes before its index can still become a
path, and with one more character, as written, no longer. -/
structure Rejection.Marks (r : Rejection) (path : String) : Prop where
  path_eq : r.path = path
  index_le : r.index ≤ path.length
  viable : Viable (path.toList.take r.index)
  dead : r.index < path.length → ¬ Viable (path.toList.take (r.index + 1))
  found : r.index < path.length → r.found = path.toList[r.index]?
  found_none : r.found = none ↔ r.index = path.length
  /-- The end itself is refused exactly if the path could have gone on. -/
  unfinished : r.index = path.length ↔ ¬ Accepted path ∧ Viable path.toList

/-- Where a refused path stops being viable. -/
theorem refused_split {path : String} {r : Rejection} (h : (validate path).outcome = .error r) :
    r.path = path ∧ ∃ read rest s, read ++ rest = path.toList ∧
      Scan.reach .start read = some s ∧ Scan.refusal s rest.head? = some r.expected ∧
      r.index = read.length ∧ r.found = rest.head? := by
  obtain ⟨hpath, hrun⟩ := (refused_iff_run path r).mp h
  obtain ⟨read, rest, s, hsplit, hreach, hrefusal, hindex, hfound⟩ := Scan.run_error hrun
  exact ⟨hpath, read, rest, s, hsplit, hreach, hrefusal, by simpa using hindex, hfound⟩

/-- The character of a refusal is the one that the path has at its index, as written. -/
theorem found_of_refused {path : String} {r : Rejection} (h : (validate path).outcome = .error r) :
    r.found = path.toList[r.index]? := by
  obtain ⟨_, read, rest, _, hsplit, _, _, hindex, hfound⟩ := refused_split h
  rw [hfound, ← hsplit, hindex]
  cases rest <;> simp

/-- **A refusal names the first character that no path has there**, or the end of a text that could
still have become a path. -/
theorem refusal_marks (path : String) (r : Rejection) (h : (validate path).outcome = .error r) :
    r.Marks path := by
  obtain ⟨hpath, read, rest, s, hsplit, hreach, hrefusal, hindex, hfound⟩ := refused_split h
  have hlength : path.length = read.length + rest.length := by
    rw [← String.length_toList, ← hsplit, List.length_append]
  have hread : path.toList.take r.index = read := by
    rw [← hsplit, hindex, List.take_left]
  have hviable : Viable read := (viable_iff read).mpr ⟨s, hreach⟩
  have hrejected : ¬ Accepted path := (not_accepted_iff path).mpr ⟨r, h⟩
  cases rest with
  | nil =>
    have hend : r.index = path.length := by rw [hlength, hindex]; rfl
    have hall : path.toList = read := by rw [← hsplit, List.append_nil]
    refine ⟨hpath, Nat.le_of_eq hend, hread ▸ hviable, fun hlt => ?_, fun hlt => ?_, ?_, ?_⟩
    · omega
    · omega
    · exact iff_of_true hfound hend
    · exact iff_of_true hend ⟨hrejected, hall ▸ hviable⟩
  | cons c rest =>
    have hlt : r.index < path.length := by rw [hlength, hindex, List.length_cons]; omega
    have hdead : ¬ Viable (read ++ [c]) := not_viable_of_refusal hreach hrefusal
    have hnext : path.toList.take (r.index + 1) = read ++ [c] := by
      rw [← hsplit, hindex, List.take_length_add_append]
      rfl
    refine ⟨hpath, Nat.le_of_lt hlt, hread ▸ hviable, fun _ => hnext ▸ hdead, fun _ => ?_, ?_, ?_⟩
    · rw [hfound, ← hsplit, hindex]
      simp
    · rw [hfound]
      exact iff_of_false (by simp) (Nat.ne_of_lt hlt)
    · refine iff_of_false (Nat.ne_of_lt hlt) ?_
      intro hopen
      have hall : path.toList = (read ++ [c]) ++ rest := by rw [← hsplit, List.append_assoc]; rfl
      exact hdead (Viable.of_append (hall ▸ hopen.2))

theorem refusal_marks_single_quote :
    (validate "a['']").outcome = .error ⟨"a['']", 3, some '\x27', .nameAfterQuote⟩ ∧
      Rejection.Marks ⟨"a['']", 3, some '\x27', .nameAfterQuote⟩ "a['']" :=
  ⟨by rfl, refusal_marks _ _ (by rfl)⟩

/-! ### What comes after the refused character -/

/-- **A refusal is decided by the shortest beginning that is no longer viable.** Every text that
starts with the same characters, up to and including the refused one, is refused at the same index,
for the same character and the same reason, whatever follows. -/
theorem refusal_of_same_beginning (p q : String) (r : Rejection)
    (h : (validate p).outcome = .error r) (hindex : r.index < p.length)
    (hsame : q.toList.take (r.index + 1) = p.toList.take (r.index + 1)) :
    (validate q).outcome = .error { r with path := q } := by
  obtain ⟨_, read, rest, s, hsplit, hreach, hrefusal, hlength, hfound⟩ := refused_split h
  cases rest with
  | nil =>
    rw [← String.length_toList, ← hsplit, List.append_nil, hlength] at hindex
    exact absurd hindex (Nat.lt_irrefl _)
  | cons c rest =>
    have hstep : Scan.step s c = .error r.expected := (Scan.refusal_some s c _).mp hrefusal
    have htake : q.toList.take (r.index + 1) = read ++ [c] := by
      rw [hsame, ← hsplit, hlength, List.take_length_add_append]
      rfl
    have hq : q.toList = read ++ c :: q.toList.drop (r.index + 1) := by
      calc q.toList
        _ = q.toList.take (r.index + 1) ++ q.toList.drop (r.index + 1) :=
          (List.take_append_drop ..).symm
        _ = read ++ c :: q.toList.drop (r.index + 1) := by
          rw [htake, List.append_assoc]
          rfl
    rw [refused_iff_run]
    refine ⟨rfl, ?_⟩
    rw [hq, Scan.run_of_refused hreach hstep, hlength, hfound, Nat.zero_add]
    rfl

theorem refusal_of_same_beginning_after_close :
    (validate "a[0]x").outcome = .error ⟨"a[0]x", 4, some 'x', .separatorAfterBracket⟩ ∧
      (4 : Nat) < "a[0]x".length ∧
      "a[0]x['unclosed".toList.take 5 = "a[0]x".toList.take 5 ∧
      (validate "a[0]x['unclosed").outcome =
        .error ⟨"a[0]x['unclosed", 4, some 'x', .separatorAfterBracket⟩ :=
  ⟨by rfl, by decide, by rfl,
    refusal_of_same_beginning "a[0]x" "a[0]x['unclosed" _ (by rfl) (by decide) (by rfl)⟩

end DocPath.Path
