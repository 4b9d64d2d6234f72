import DocPath.Proofs.Walk.Failures
import DocPath.Proofs.Walk.Parent

/-! What a walk reports.

A lookup reports something in one case only, when a getter fails in a way that it holds back
(`Noted`); it then finds nothing (`Noted.lookup_eq`). From there on the walk stands at the marker
for what is missing, so it looks up no further key, and if another key is due it reports that one
and ends. Hence a walk reports at most one failed getter, and after it at most one key that was left
(`exists_walkReport`); which ones these are is settled by where the walk comes to (`ComesTo`).

Finding the parent of a path makes the same lookups as walking along the path, but it never asks
whether a key is left before it looks up the last one. So it reports the same, except for the last
key where that is what the walk was left with (`events_walk_concat`). -/
namespace DocPath

variable (adapters : List Adapter)

/-! ### One lookup -/

/-- What a public name stands for fails without ending the run, and not for want of the attribute,
so the attribute counts as missing and the failure is noted. -/
inductive Noted (key : String) : Value → Event → Prop where
  | getter {className : String} {getters own shared : List (String × Member)}
      {fallback : Option Member} {r : Raised} :
      adapters.find? (·.supports (.object className getters own shared fallback)) =
        some .attribute →
      key ≠ "" → isPrivate key = false →
      GetterFails (getters ++ own ++ shared) fallback key r → r.family = .ordinary →
      Noted key (.object className getters own shared fallback) (.getterFailed key className r)

variable {adapters} {key : String} {v : Value} {e : Event}

/-- What is noted is all that the lookup reports, and it finds nothing. -/
theorem Noted.lookup_eq (h : Noted adapters key v e) :
    lookup adapters v key = ⟨[e], .ok .missing⟩ := by
  cases h with
  | getter hfirst hempty hpublic hfails hordinary =>
    have hmember := (memberOf_eq_failing_iff (by simp [hordinary])).mpr hfails
    rw [lookup_of_supports hfirst, Adapter.lookup_attribute]
    simp [hempty, hpublic, attributeOf, hmember, dataOf, hordinary]

theorem not_noted_missing : ¬ Noted adapters key .missing e := nofun

/-- An attribute reports nothing but the failure of its getter. -/
theorem attributeOf_quiet_or_noted (hfirst : adapters.find? (·.supports v) = some .attribute)
    (hempty : key ≠ "") (hpublic : isPrivate key = false) :
    (attributeOf key v).events = [] ∨ ∃ e, Noted adapters key v e := by
  cases v with
  | object className getters own shared fallback =>
    rw [attributeOf]
    cases hmember : memberOf getters own shared fallback key with
    | none => exact .inl rfl
    | some m =>
      cases m with
      | data w => exact .inl rfl
      | routine => exact .inl rfl
      | failing r =>
        cases hfamily : r.family with
        | absence => exact .inl (by simp [dataOf, hfamily, Trace.pure])
        | fatal => exact .inl (by simp [dataOf, hfamily, Trace.fail])
        | ordinary =>
          have hfails := (memberOf_eq_failing_iff (by simp [hfamily])).mp hmember
          exact .inr ⟨_, .getter hfirst hempty hpublic hfails hfamily⟩
  | sequence kind items => cases kind <;> exact .inl rfl
  | _ => exact .inl rfl

variable (adapters key v) in
/-- A lookup reports nothing, unless it notes the failure of a getter. -/
theorem lookup_quiet_or_noted :
    (lookup adapters v key).events = [] ∨ ∃ e, Noted adapters key v e := by
  cases hfirst : adapters.find? (·.supports v) with
  | none => exact .inl (by rw [lookup_of_unsupported hfirst]; rfl)
  | some a =>
    rw [lookup_of_supports hfirst]
    cases a with
    | mapping => cases v <;> exact .inl rfl
    | sequence => exact .inl rfl
    | «attribute» =>
      rw [Adapter.lookup_attribute]
      by_cases hskipped : (key = "" || isPrivate key) = true
      · left
        rw [if_pos hskipped]
        rfl
      · obtain ⟨hempty, hpublic⟩ : key ≠ "" ∧ isPrivate key = false := by simpa using hskipped
        rw [if_neg hskipped]
        exact attributeOf_quiet_or_noted hfirst hempty hpublic

/-! ### Where a walk comes to -/

variable (adapters)

/-- A walk along the keys comes to one of them, no key up to it being empty, and there stands at a
value. -/
structure ComesTo (t : Value) (keys before : List String) (key : String) (v : Value) : Prop where
  split : before ++ [key] <+: keys
  nonempty : "" ∉ before ++ [key]
  stands : (walk adapters before t).outcome = .ok v

/-- The failure of a getter is noted somewhere on the way. -/
def NotedOn (t : Value) (keys : List String) (e : Event) : Prop :=
  ∃ before key v, ComesTo adapters t keys before key v ∧ Noted adapters key v e

/-- The first key that a walk comes to when it has already found nothing. -/
def LostBefore (t : Value) (keys : List String) (key : String) : Prop :=
  ∃ before, ComesTo adapters t keys before key .missing ∧
    ∀ earlier other, ComesTo adapters t keys earlier other .missing →
      before.length ≤ earlier.length

variable {adapters} {t w : Value} {keys before : List String} {first : String}

theorem not_comesTo_nil : ¬ ComesTo adapters t [] before key v := by
  intro h
  simpa using h.split.length_le

/-- Nothing behind an empty key is ever come to. -/
theorem not_comesTo_empty : ¬ ComesTo adapters t ("" :: keys) before key v := by
  intro h
  obtain ⟨rest, hsplit⟩ := h.split
  apply h.nonempty
  cases before with
  | nil =>
    cases hsplit
    exact List.mem_singleton_self ""
  | cons _ before =>
    cases hsplit
    exact List.mem_cons_self ..

/-- From the marker for what is missing a walk comes to nothing else. -/
theorem ComesTo.eq_missing (h : ComesTo adapters .missing keys before key v) : v = .missing := by
  have hstands := h.stands
  rw [outcome_walk, descend_missing] at hstands
  exact (Except.ok.inj hstands).symm

theorem outcome_walk_cons (hfirst : first ≠ "") (t : Value) (keys : List String) :
    (walk adapters (first :: keys) t).outcome =
      (lookup adapters t first).outcome >>= fun w => (walk adapters keys w).outcome := by
  rw [outcome_walk, List.takeWhile_cons_of_pos (by simpa using hfirst), descend_cons]
  simp only [outcome_walk]

/-- A walk stands at the first key where it began, and comes to the others by looking it up. -/
theorem comesTo_cons (hfirst : first ≠ "") :
    ComesTo adapters t (first :: keys) before key v ↔
      before = [] ∧ key = first ∧ v = t ∨
      ∃ before' w, before = first :: before' ∧ (lookup adapters t first).outcome = .ok w ∧
        ComesTo adapters w keys before' key v := by
  constructor
  · intro h
    obtain ⟨hsplit, hnonempty, hstands⟩ := h
    cases before with
    | nil =>
      obtain ⟨rfl, _⟩ := List.cons_prefix_cons.mp hsplit
      exact .inl ⟨rfl, rfl, (Except.ok.inj hstands).symm⟩
    | cons b before' =>
      obtain ⟨rfl, hsplit'⟩ := List.cons_prefix_cons.mp hsplit
      rw [outcome_walk_cons hfirst, bind_ok_iff] at hstands
      obtain ⟨w, hlookup, hstands'⟩ := hstands
      have hnonempty' : "" ∉ before' ++ [key] := fun hmem =>
        hnonempty (List.mem_cons_of_mem _ hmem)
      exact .inr ⟨before', w, rfl, hlookup, hsplit', hnonempty', hstands'⟩
  · intro h
    obtain ⟨rfl, rfl, rfl⟩ | ⟨before', w, rfl, hlookup, hsplit, hnonempty, hstands⟩ := h
    · refine ⟨List.cons_prefix_cons.mpr ⟨rfl, List.nil_prefix⟩, ?_, rfl⟩
      simpa using hfirst.symm
    · refine ⟨List.cons_prefix_cons.mpr ⟨rfl, hsplit⟩, ?_, ?_⟩
      · exact List.not_mem_cons_of_ne_of_not_mem hfirst.symm hnonempty
      · rw [outcome_walk_cons hfirst, hlookup]
        exact hstands

/-! ### What there is to report -/

theorem not_notedOn_missing : ¬ NotedOn adapters .missing keys e := by
  intro h
  obtain ⟨before, key, v, hcomes, hnoted⟩ := h
  obtain rfl := hcomes.eq_missing
  exact not_noted_missing hnoted

theorem notedOn_cons (hfirst : first ≠ "") :
    NotedOn adapters t (first :: keys) e ↔
      Noted adapters first t e ∨
      ∃ w, (lookup adapters t first).outcome = .ok w ∧ NotedOn adapters w keys e := by
  constructor
  · intro h
    obtain ⟨before, key, v, hcomes, hnoted⟩ := h
    obtain ⟨rfl, rfl, rfl⟩ | ⟨before', w, rfl, hlookup, hcomes'⟩ := (comesTo_cons hfirst).mp hcomes
    · exact .inl hnoted
    · exact .inr ⟨w, hlookup, before', key, v, hcomes', hnoted⟩
  · intro h
    obtain hnoted | ⟨w, hlookup, before, key, v, hcomes, hnoted⟩ := h
    · exact ⟨[], first, t, (comesTo_cons hfirst).mpr (.inl ⟨rfl, rfl, rfl⟩), hnoted⟩
    · refine ⟨first :: before, key, v, (comesTo_cons hfirst).mpr (.inr ?_), hnoted⟩
      exact ⟨before, w, rfl, hlookup, hcomes⟩

theorem lostBefore_missing_cons (hfirst : first ≠ "") :
    LostBefore adapters .missing (first :: keys) key ↔ key = first := by
  have hhere : ComesTo adapters .missing (first :: keys) [] first .missing :=
    (comesTo_cons hfirst).mpr (.inl ⟨rfl, rfl, rfl⟩)
  constructor
  · intro h
    obtain ⟨before, hcomes, hleast⟩ := h
    obtain rfl := List.eq_nil_of_length_eq_zero (Nat.le_zero.mp (hleast [] first hhere))
    exact (List.cons_prefix_cons.mp hcomes.split).1
  · intro h
    subst h
    exact ⟨[], hhere, fun _ _ _ => Nat.zero_le _⟩

theorem lostBefore_cons (hfirst : first ≠ "") (ht : t ≠ .missing) :
    LostBefore adapters t (first :: keys) key ↔
      ∃ w, (lookup adapters t first).outcome = .ok w ∧ LostBefore adapters w keys key := by
  constructor
  · intro h
    obtain ⟨before, hcomes, hleast⟩ := h
    obtain ⟨_, _, hv⟩ | ⟨before', w, rfl, hlookup, hcomes'⟩ := (comesTo_cons hfirst).mp hcomes
    · exact absurd hv.symm ht
    · refine ⟨w, hlookup, before', hcomes', fun earlier other hearlier => ?_⟩
      apply Nat.le_of_succ_le_succ
      apply hleast (first :: earlier) other
      exact (comesTo_cons hfirst).mpr (.inr ⟨earlier, w, rfl, hlookup, hearlier⟩)
  · intro h
    obtain ⟨w, hlookup, before, hcomes, hleast⟩ := h
    refine ⟨first :: before, ?_, fun earlier other hearlier => ?_⟩
    · exact (comesTo_cons hfirst).mpr (.inr ⟨before, w, rfl, hlookup, hcomes⟩)
    · obtain ⟨_, _, hv⟩ | ⟨earlier', w', rfl, hlookup', hearlier'⟩ :=
        (comesTo_cons hfirst).mp hearlier
      · exact absurd hv.symm ht
      · obtain rfl : w = w' := Except.ok.inj (hlookup.symm.trans hlookup')
        exact Nat.succ_le_succ (hleast earlier' other hearlier')

/-! ### What a walk reports -/

variable (adapters) in
/-- A walk reports a failed getter, if any, and then a key that was left, if any; these are the ones
that there are, and with a key left the walk has found nothing. -/
structure WalkReport (t : Value) (keys : List String) (failed : Option Event)
    (left : Option String) : Prop where
  events : (walk adapters keys t).events = failed.toList ++ (left.map Event.missingBefore).toList
  noted : ∀ e, failed = some e ↔ NotedOn adapters t keys e
  lost : ∀ key, left = some key ↔ LostBefore adapters t keys key
  missing : left ≠ none → (walk adapters keys t).outcome = .ok .missing

/-- A walk that comes to no key reports nothing. -/
theorem WalkReport.of_not_comesTo (hevents : (walk adapters keys t).events = [])
    (h : ∀ before key v, ¬ ComesTo adapters t keys before key v) :
    WalkReport adapters t keys none none where
  events := hevents
  noted _ := iff_of_false nofun fun ⟨before, key, v, hcomes, _⟩ => h before key v hcomes
  lost key := iff_of_false nofun fun ⟨before, hcomes, _⟩ => h before key .missing hcomes
  missing hnone := absurd rfl hnone

theorem walk_missing_cons (hfirst : first ≠ "") :
    walk adapters (first :: keys) .missing = ⟨[.missingBefore first], .ok .missing⟩ := by
  rw [walk_cons, if_neg hfirst]
  rfl

theorem WalkReport.of_missing (hfirst : first ≠ "") :
    WalkReport adapters .missing (first :: keys) none (some first) where
  events := by
    rw [walk_missing_cons hfirst]
    rfl
  noted _ := iff_of_false nofun not_notedOn_missing
  lost key := by
    rw [lostBefore_missing_cons hfirst, Option.some_inj, eq_comm]
  missing _ := by rw [walk_missing_cons hfirst]

theorem walk_cons_of_ne_missing (hfirst : first ≠ "") (ht : t ≠ .missing) :
    walk adapters (first :: keys) t = lookup adapters t first >>= walk adapters keys := by
  rw [walk_cons, if_neg hfirst]
  cases t with
  | missing => exact absurd rfl ht
  | _ => rfl

/-- A failure that ends the walk is no event of it. -/
theorem WalkReport.of_error (hfirst : first ≠ "") (ht : t ≠ .missing) {f : Fault}
    (hquiet : (lookup adapters t first).events = [])
    (hlookup : (lookup adapters t first).outcome = .error f) :
    WalkReport adapters t (first :: keys) none none where
  events := by
    rw [walk_cons_of_ne_missing hfirst ht, Trace.bind_of_error hlookup, hquiet]
    rfl
  noted e := by
    refine iff_of_false nofun fun hnoted => ?_
    obtain hnow | ⟨w, hok, _⟩ := (notedOn_cons hfirst).mp hnoted
    · rw [hnow.lookup_eq] at hlookup
      cases hlookup
    · rw [hlookup] at hok
      cases hok
  lost key := by
    refine iff_of_false nofun fun hlost => ?_
    obtain ⟨w, hok, _⟩ := (lostBefore_cons hfirst ht).mp hlost
    rw [hlookup] at hok
    cases hok
  missing hnone := absurd rfl hnone

section

variable (hfirst : first ≠ "") (ht : t ≠ .missing) {failed : Option Event} {left : Option String}

include hfirst ht

/-- A lookup that reports nothing leaves the report to the rest of the walk. -/
theorem WalkReport.of_quiet (hquiet : (lookup adapters t first).events = [])
    (hlookup : (lookup adapters t first).outcome = .ok w)
    (h : WalkReport adapters w keys failed left) :
    WalkReport adapters t (first :: keys) failed left where
  events := by
    rw [walk_cons_of_ne_missing hfirst ht, Trace.events_bind_of_ok hlookup, hquiet, h.events]
    rfl
  noted e := by
    have hnow : ¬ Noted adapters first t e := by
      intro hnoted
      rw [hnoted.lookup_eq] at hquiet
      cases hquiet
    rw [notedOn_cons hfirst, h.noted e]
    simp [hnow, hlookup]
  lost key := by
    rw [lostBefore_cons hfirst ht, h.lost key]
    simp [hlookup]
  missing hleft := by
    rw [outcome_walk_cons hfirst, hlookup]
    exact h.missing hleft

/-- Once a failure is noted there is no second one, since the walk has found nothing. -/
theorem WalkReport.of_noted (hnoted : Noted adapters first t e)
    (h : WalkReport adapters .missing keys failed left) :
    WalkReport adapters t (first :: keys) (some e) left where
  events := by
    have hnone : failed = none := by
      cases failed with
      | none => rfl
      | some e' => exact absurd ((h.noted e').mp rfl) not_notedOn_missing
    have hevents := h.events
    rw [hnone] at hevents
    rw [walk_cons_of_ne_missing hfirst ht, hnoted.lookup_eq, Trace.events_bind_of_ok rfl, hevents]
    rfl
  noted e' := by
    rw [notedOn_cons hfirst, Option.some_inj]
    constructor
    · intro heq
      subst heq
      exact .inl hnoted
    · intro hother
      obtain hnow | ⟨w, hok, hlater⟩ := hother
      · have hsame := hnoted.lookup_eq.symm.trans hnow.lookup_eq
        simpa using congrArg Trace.events hsame
      · rw [hnoted.lookup_eq] at hok
        cases hok
        exact absurd hlater not_notedOn_missing
  lost key := by
    rw [lostBefore_cons hfirst ht, h.lost key, hnoted.lookup_eq]
    simp
  missing hleft := by
    rw [outcome_walk_cons hfirst, hnoted.lookup_eq]
    exact h.missing hleft

end

/-- Every walk has its report. -/
theorem exists_walkReport (t : Value) (keys : List String) :
    ∃ failed left, WalkReport adapters t keys failed left := by
  induction keys generalizing t with
  | nil => exact ⟨none, none, .of_not_comesTo rfl fun _ _ _ => not_comesTo_nil⟩
  | cons first keys ih =>
    by_cases hfirst : first = ""
    · subst hfirst
      exact ⟨none, none, .of_not_comesTo rfl fun _ _ _ => not_comesTo_empty⟩
    by_cases ht : t = .missing
    · subst ht
      exact ⟨none, some first, .of_missing hfirst⟩
    rcases lookup_quiet_or_noted adapters first t with hquiet | ⟨e, hnoted⟩
    · cases hlookup : (lookup adapters t first).outcome with
      | error f => exact ⟨none, none, .of_error hfirst ht hquiet hlookup⟩
      | ok w =>
        obtain ⟨failed, left, h⟩ := ih w
        exact ⟨failed, left, .of_quiet hfirst ht hquiet hlookup h⟩
    · obtain ⟨failed, left, h⟩ := ih .missing
      exact ⟨some e, left, .of_noted hfirst ht hnoted h⟩

/-- The events of a walk settle its report, since no failed getter is reported as a key that was
left. -/
theorem WalkReport.of_events {failed failed' : Option Event} {left left' : Option String}
    (h : WalkReport adapters t keys failed left)
    (hfailed : ∀ key, failed' ≠ some (.missingBefore key))
    (hevents : (walk adapters keys t).events =
      failed'.toList ++ (left'.map Event.missingBefore).toList) :
    WalkReport adapters t keys failed' left' := by
  have hgetter : ∀ key, failed ≠ some (.missingBefore key) := by
    rintro key rfl
    obtain ⟨_, _, _, _, hnoted⟩ := (h.noted _).mp rfl
    cases hnoted
  have hsame := h.events.symm.trans hevents
  suffices failed = failed' ∧ left = left' by
    obtain ⟨rfl, rfl⟩ := this
    exact h
  cases failed with
  | none =>
    cases failed' with
    | none => cases left <;> cases left' <;> simp_all
    | some e =>
      cases left with
      | none => cases hsame
      | some key =>
        obtain ⟨rfl, _⟩ := List.cons_eq_cons.mp hsame
        exact absurd rfl (hfailed key)
  | some e =>
    cases failed' with
    | none =>
      cases left' with
      | none => cases hsame
      | some key =>
        obtain ⟨rfl, _⟩ := List.cons_eq_cons.mp hsame
        exact absurd rfl (hgetter key)
    | some e' => cases left <;> cases left' <;> simp_all

/-! ### The parent of a path -/

/-- The last key is looked up without asking whether it is left. -/
theorem events_walk_concat {last : String} (h : ∀ key ∈ keys ++ [last], key ≠ "") (t : Value) :
    (walk adapters (keys ++ [last]) t).events =
      (walk adapters keys t >>= fun v => lookup adapters v last).events ∨
    (walk adapters (keys ++ [last]) t).events =
      (walk adapters keys t >>= fun v => lookup adapters v last).events ++
        [.missingBefore last] := by
  induction keys generalizing t with
  | nil =>
    have hlast : last ≠ "" := h last (List.mem_singleton_self last)
    by_cases ht : t = .missing
    · subst ht
      right
      rw [List.nil_append, walk_missing_cons hlast]
      show _ = [] ++ (lookup adapters .missing last).events ++ _
      rw [lookup_missing]
      rfl
    · left
      rw [List.nil_append, walk_cons_of_ne_missing hlast ht]
      show (lookup adapters t last >>= pure).events =
        (pure t >>= fun v => lookup adapters v last).events
      rw [bind_pure, pure_bind]
  | cons first keys ih =>
    have hfirst : first ≠ "" := h first (List.mem_cons_self ..)
    by_cases ht : t = .missing
    · subst ht
      left
      rw [List.cons_append, walk_missing_cons hfirst, walk_missing_cons hfirst,
        Trace.events_bind_of_ok rfl, lookup_missing]
      rfl
    · rw [List.cons_append, walk_cons_of_ne_missing hfirst ht, walk_cons_of_ne_missing hfirst ht,
        bind_assoc]
      cases hlookup : (lookup adapters t first).outcome with
      | error f =>
        left
        rw [Trace.bind_of_error hlookup, Trace.bind_of_error hlookup]
      | ok w =>
        rw [Trace.events_bind_of_ok hlookup, Trace.events_bind_of_ok hlookup, List.append_assoc]
        have hkeys : ∀ key ∈ keys ++ [last], key ≠ "" := fun key hmem =>
          h key (List.mem_cons_of_mem _ hmem)
        exact (ih hkeys w).imp (congrArg _) (congrArg _)

section

variable {path last : String} (hparse : (Path.parse path).outcome = .ok (keys ++ [last]))
  (hkeys : ∀ key ∈ keys ++ [last], key ≠ "")

include hparse

theorem events_traverse (t : Value) :
    (traverse adapters path t).events =
      (keysFor path).events ++ (walk adapters (keys ++ [last]) t).events := by
  rw [traverse_eq, Trace.events_bind_of_ok (outcome_keysFor hparse)]

include hkeys

theorem events_find (t : Value) :
    (Parent.find adapters path t).events = (keysFor path).events ++
      (walk adapters keys t >>= fun v => lookup adapters v last).events := by
  have hfirst : ¬ (keys ++ [last]).head? = some "" := by
    intro hempty
    exact hkeys "" (List.mem_of_head? hempty) rfl
  rw [Parent.find, Trace.events_bind_of_ok (outcome_keysFor hparse), if_neg hfirst]
  simp only [List.dropLast_concat, List.getLastD_concat, bind_pure_comp]
  cases hwalk : (walk adapters keys t).outcome with
  | error f => rw [Trace.bind_of_error hwalk, Trace.bind_of_error hwalk]
  | ok v => rw [Trace.events_bind_of_ok hwalk, Trace.events_bind_of_ok hwalk, Trace.events_map]

end

/-! ### Refused paths -/

theorem keysFor_of_refused {path : String} {r : Path.Rejection}
    (h : Path.parse path = ⟨[.rejected path r.index], .error r⟩) :
    keysFor path = ⟨[.rejected path r.index], .error (.malformed r)⟩ := by
  rw [keysFor, h]
  rfl

/-- A path that is not accepted is refused, and that is all there is to report. -/
theorem Path.parse_of_not_accepted {path : String} (h : ¬ Accepted path) :
    ∃ r, validate path = ⟨[.rejected path r.index], .error r⟩ ∧
      parse path = ⟨[.rejected path r.index], .error r⟩ := by
  obtain ⟨r, hrefused⟩ := (not_accepted_iff path).mp h
  have hvalidate : validate path = ⟨[.rejected path r.index], .error r⟩ := by
    rw [validate, (validate_error_iff path r).mp hrefused]
  refine ⟨r, hvalidate, ?_⟩
  rw [parse, hvalidate]
  rfl

/-! ### All reports -/

variable (adapters) in
/-- **What walks and paths report.** A walk reports nothing, a failed getter, a key that was left,
or both in this order. A failed getter is reported exactly if a lookup on the way notes it, and that
lookup finds nothing. A key is reported exactly if it is the first one that the walk comes to with
nothing in hand, no key up to it being empty, and then the walk has found nothing. A path that is
not accepted is reported once, with the index at which it is refused, whatever it was meant for. For
any other path that is no self-reference, finding the parent reports what walking along it does,
except perhaps for the last key being left. -/
theorem walk_reports (t : Value) :
    (∀ keys, ∃ failed left, WalkReport adapters t keys failed left) ∧
    (∀ key v e, Noted adapters key v e → lookup adapters v key = ⟨[e], .ok .missing⟩) ∧
    (∀ path, ¬ Path.Accepted path → ∃ r : Path.Rejection,
      Path.validate path = ⟨[.rejected path r.index], .error r⟩ ∧
      Path.parse path = ⟨[.rejected path r.index], .error r⟩ ∧
      traverse adapters path t = ⟨[.rejected path r.index], .error (.malformed r)⟩ ∧
      Parent.find adapters path t = ⟨[.rejected path r.index], .error (.malformed r)⟩) ∧
    (∀ path, Path.Accepted path → ¬ Path.SelfReference path →
      ∃ keys last, (Path.parse path).outcome = .ok (keys ++ [last]) ∧
        ((traverse adapters path t).events = (Parent.find adapters path t).events ∨
          (traverse adapters path t).events =
            (Parent.find adapters path t).events ++ [.missingBefore last])) := by
  refine ⟨exists_walkReport t, fun _ _ _ h => h.lookup_eq, ?_, ?_⟩
  · intro path h
    obtain ⟨r, hvalidate, hparse⟩ := Path.parse_of_not_accepted h
    have hkeys := keysFor_of_refused hparse
    refine ⟨r, hvalidate, hparse, ?_, ?_⟩
    · rw [traverse_eq, hkeys]
      rfl
    · rw [Parent.find, hkeys]
      rfl
  · intro path h hself
    obtain ⟨hne, hbracket⟩ := not_or.mp hself
    obtain ⟨keys, last, hparse, hkeys⟩ := Path.parse_concat h hne hbracket
    refine ⟨keys, last, hparse, ?_⟩
    rw [events_traverse hparse, events_find hparse hkeys, List.append_assoc]
    exact (events_walk_concat hkeys t).imp (congrArg _) (congrArg _)

/-- A getter that fails with two keys to go, one that ends the run, and one that finds no such
attribute; a path with two dots, and a last key that is left. -/
theorem walk_reports_failing_getter :
    WalkReport (Adapter.defaults true)
      (.object "Invoice" [("total", .failing (.builtIn "ValueError" "no items"))] [] [] none)
      ["total", "net", "currency"]
      (some (.getterFailed "total" "Invoice" (.builtIn "ValueError" "no items"))) (some "net") ∧
    WalkReport (Adapter.defaults true)
      (.object "Invoice" [("total", .failing ⟨"CancelledError", "", .fatal⟩)] [] [] none)
      ["total", "net", "currency"] none none ∧
    WalkReport (Adapter.defaults true)
      (.object "Invoice" [("total", .failing ⟨"FrozenInstanceError", "", .absence⟩)] [] [] none)
      ["total", "net", "currency"] none (some "net") ∧
    ¬ Path.Accepted "a..b" ∧
    (∃ r : Path.Rejection, traverse [] "a..b" .null =
      ⟨[.rejected "a..b" r.index], .error (.malformed r)⟩) ∧
    Path.Accepted "a.b" ∧ ¬ Path.SelfReference "a.b" ∧
    ∃ keys last, (Path.parse "a.b").outcome = .ok (keys ++ [last]) ∧
      ((traverse [] "a.b" .null).events = (Parent.find [] "a.b" .null).events ∨
        (traverse [] "a.b" .null).events =
          (Parent.find [] "a.b" .null).events ++ [.missingBefore last]) := by
  have hrefused : ¬ Path.Accepted "a..b" := fun h => by cases h
  have haccepted : Path.Accepted "a.b" := by rfl
  have hself : ¬ Path.SelfReference "a.b" := by
    rw [Path.SelfReference]
    decide
  refine ⟨?_, ?_, ?_, hrefused, ?_, haccepted, hself, ?_⟩
  · obtain ⟨_, _, h⟩ := (walk_reports (Adapter.defaults true)
      (.object "Invoice" [("total", .failing (.builtIn "ValueError" "no items"))] [] [] none)).1
      ["total", "net", "currency"]
    exact h.of_events nofun rfl
  · obtain ⟨_, _, h⟩ := (walk_reports (Adapter.defaults true)
      (.object "Invoice" [("total", .failing ⟨"CancelledError", "", .fatal⟩)] [] [] none)).1
      ["total", "net", "currency"]
    exact h.of_events nofun rfl
  · obtain ⟨_, _, h⟩ := (walk_reports (Adapter.defaults true)
      (.object "Invoice" [("total", .failing ⟨"FrozenInstanceError", "", .absence⟩)] [] [] none)).1
      ["total", "net", "currency"]
    exact h.of_events nofun rfl
  · obtain ⟨r, _, _, htraverse, _⟩ := (walk_reports [] .null).2.2.1 _ hrefused
    exact ⟨r, htraverse⟩
  · exact (walk_reports [] .null).2.2.2 _ haccepted hself

end DocPath
