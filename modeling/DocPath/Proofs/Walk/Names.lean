import DocPath.Proofs.Log.Lines
import DocPath.Proofs.Walk.Adapters
import DocPath.Walk.Assign

/-! Names that messages show without quotes.

When a getter fails, the message about it names the type of the object and the kind of the failure
as they are. In a document in which these names are plain, at every depth (`PlainNames`), so is
everything that a walk comes to, and so are the names in all that it reports (`walk_plain`). An
assignment of such a value keeps the document plain (`assign_plain`). -/
namespace DocPath

open Text (Clean)

/-! ### What a trace reports and ends with -/

/-- A trace reports only events of one kind, and ends, if it succeeds, with a result of another. -/
structure Trace.All {ε α : Type} (P : Event → Prop) (Q : α → Prop) (t : Trace ε α) : Prop where
  events : ∀ e ∈ t.events, P e
  outcome : ∀ a, t.outcome = .ok a → Q a

namespace Trace.All

variable {ε ε' α β : Type} {P : Event → Prop} {Q : α → Prop} {R : β → Prop}

theorem lift {r : Except ε α} (h : ∀ a, r = .ok a → Q a) : All P Q (.lift r) :=
  ⟨fun _ he => absurd he List.not_mem_nil, h⟩

theorem pure {a : α} (h : Q a) : All P Q (.pure a : Trace ε α) :=
  lift (r := .ok a) fun b hb => by
    cases hb
    exact h

theorem single {e : Event} {r : Except ε α} (he : P e) (h : ∀ a, r = .ok a → Q a) :
    All P Q ⟨[e], r⟩ := ⟨List.forall_mem_singleton.mpr he, h⟩

theorem mapError {t : Trace ε α} (h : All P Q t) (f : ε → ε') : All P Q (t.mapError f) := by
  obtain ⟨events, outcome⟩ := t
  refine ⟨h.events, fun a ha => ?_⟩
  cases outcome with
  | error e => cases ha
  | ok b =>
    cases ha
    exact h.outcome a rfl

theorem bind {t : Trace ε α} {f : α → Trace ε β} (h : All P Q t) (hf : ∀ a, Q a → All P R (f a)) :
    All P R (t >>= f) := by
  obtain ⟨events, outcome⟩ := t
  cases outcome with
  | error e => exact ⟨h.events, fun b hb => by cases hb⟩
  | ok a =>
    have hnext := hf a (h.outcome a rfl)
    exact ⟨List.forall_mem_append.mpr ⟨h.events, hnext.events⟩, hnext.outcome⟩

end Trace.All

/-! ### Documents with plain names -/

mutual

/-- The types of objects, and the kinds of failures of their getters, have names without control
characters, at every depth that a walk can come to. -/
inductive PlainNames : Value → Prop where
  | missing : PlainNames .missing
  | atom (a : Atom) : PlainNames (.atom a)
  | buffer (octets : List UInt8) : PlainNames (.buffer octets)
  | range (r : Range) : PlainNames (.range r)
  | set (frozen : Bool) (members : List Value) : PlainNames (.set frozen members)
  | sequence {kind : SequenceKind} {items : List Value} :
      (∀ v ∈ items, PlainNames v) → PlainNames (.sequence kind items)
  | record {className : String} {fields : List (String × Value)} :
      (∀ v ∈ fields.map Prod.snd, PlainNames v) → PlainNames (.record className fields)
  | mapping {kind : MappingKind} {entries : List (Value × Value)}
      {attributes : List (String × Value)} : (∀ v ∈ entries.map Prod.snd, PlainNames v) →
      (∀ v ∈ attributes.map Prod.snd, PlainNames v) → PlainNames (.mapping kind entries attributes)
  | object {className : String} {getters own shared : List (String × Member)}
      {fallback : Option Member} : Clean className → (∀ m ∈ getters.map Prod.snd, PlainMember m) →
      (∀ m ∈ own.map Prod.snd, PlainMember m) → (∀ m ∈ shared.map Prod.snd, PlainMember m) →
      (∀ m ∈ fallback, PlainMember m) → PlainNames (.object className getters own shared fallback)

inductive PlainMember : Member → Prop where
  | data {v : Value} : PlainNames v → PlainMember (.data v)
  | routine : PlainMember .routine
  | failing {r : Raised} : Clean r.kind → PlainMember (.failing r)

end

theorem PlainNames.part {v w : Value} (h : PlainNames v) (hpart : Part w v) : PlainNames w := by
  cases hpart with
  | item hmem => cases h with | sequence hitems => exact hitems w hmem
  | field hmem => cases h with | record hfields => exact hfields w hmem
  | integer => exact .atom _
  | entry hmem => cases h with | mapping hentries _ => exact hentries w hmem

theorem mem_of_lookup_eq_some {α : Type} {fields : List (String × α)} {name : String} {a : α}
    (h : fields.lookup name = some a) : a ∈ fields.map Prod.snd := by
  obtain ⟨before, after, hfields, _⟩ := List.lookup_eq_some_iff.mp h
  rw [hfields]
  simp

theorem plainNames_getD {found : Option Value} {d : Value} (h : ∀ v ∈ found, PlainNames v)
    (hd : PlainNames d) : PlainNames (found.getD d) := by
  cases found with
  | none => exact hd
  | some v => exact h v rfl

/-! ### Lookups -/

theorem memberOf_plain {getters own shared : List (String × Member)} {fallback : Option Member}
    (hgetters : ∀ m ∈ getters.map Prod.snd, PlainMember m)
    (hown : ∀ m ∈ own.map Prod.snd, PlainMember m)
    (hshared : ∀ m ∈ shared.map Prod.snd, PlainMember m) (hfallback : ∀ m ∈ fallback, PlainMember m)
    {name : String} {m : Member} (h : memberOf getters own shared fallback name = some m) :
    PlainMember m := by
  have hmembers : ∀ m ∈ (getters ++ own ++ shared).map Prod.snd, PlainMember m := by
    simpa only [List.map_append, List.forall_mem_append] using ⟨⟨hgetters, hown⟩, hshared⟩
  rw [memberOf] at h
  split at h
  · next hlookup =>
    split at h
    · exact hfallback m h
    · cases h
      exact hmembers _ (mem_of_lookup_eq_some hlookup)
  · next hlookup =>
    cases h
    exact hmembers _ (mem_of_lookup_eq_some hlookup)
  · exact hfallback m h

theorem dataOf_plain {className : String} (h : Clean className) {m : Member} (hm : PlainMember m)
    (name : String) : Trace.All Event.PlainNames PlainNames (dataOf className name m) := by
  cases hm with
  | data hv => exact .pure hv
  | routine => exact .pure .missing
  | @failing r hkind =>
    rw [dataOf]
    split
    · exact .pure .missing
    · refine .single ⟨h, hkind⟩ fun v hv => ?_
      cases hv
      exact .missing
    · exact .lift fun v hv => by cases hv

theorem attributeOf_plain {v : Value} (h : PlainNames v) (name : String) :
    Trace.All Event.PlainNames PlainNames (attributeOf name v) := by
  cases h with
  | @object className getters own shared fallback hclass hgetters hown hshared hfallback =>
    rw [attributeOf]
    cases hmember : memberOf getters own shared fallback name with
    | none => exact .pure .missing
    | some m =>
      exact dataOf_plain hclass (memberOf_plain hgetters hown hshared hfallback hmember) name
  | record hfields =>
    exact .pure (plainNames_getD (fun v hv => hfields v (mem_of_lookup_eq_some hv)) .missing)
  | mapping _ hattributes =>
    exact .pure (plainNames_getD (fun v hv => hattributes v (mem_of_lookup_eq_some hv)) .missing)
  | @sequence kind items _ =>
    cases kind with
    | queue limit =>
      refine .pure ?_
      split
      · cases limit <;> exact .atom _
      · exact .missing
    | _ => exact .pure .missing
  | range r =>
    refine .pure ?_
    split
    · exact .atom _
    split
    · exact .atom _
    split
    · exact .atom _
    · exact .missing
  | _ => exact .pure .missing

theorem Adapter.lookup_plain (a : Adapter) {v : Value} (h : PlainNames v) (key : String) :
    Trace.All Event.PlainNames PlainNames (a.lookup v key) := by
  cases a with
  | mapping =>
    cases v with
    | mapping kind entries attributes =>
      refine .lift fun w hw => ?_
      rcases entryOf_part hw with rfl | hmem
      · exact .missing
      · exact h.part (.entry hmem)
    | _ => exact .pure .missing
  | sequence =>
    refine .lift fun w hw => ?_
    obtain ⟨number, _, hfound⟩ := (bind_ok_iff ..).mp hw
    cases number with
    | none =>
      cases hfound
      exact .missing
    | some n =>
      rcases itemOf_part hfound with rfl | hpart
      · exact .missing
      · exact h.part hpart
  | «attribute» =>
    rw [Adapter.lookup_attribute]
    split
    · exact .pure .missing
    · exact attributeOf_plain h key

theorem lookup_plain (adapters : List Adapter) {v : Value} (h : PlainNames v) (key : String) :
    Trace.All Event.PlainNames PlainNames (lookup adapters v key) := by
  cases hfirst : adapters.find? (·.supports v) with
  | none =>
    rw [lookup_of_unsupported hfirst]
    exact .pure .missing
  | some a =>
    rw [lookup_of_supports hfirst]
    exact a.lookup_plain h key

/-! ### Walks -/

theorem walk_plain (adapters : List Adapter) (keys : List String) {v : Value} (h : PlainNames v) :
    Trace.All Event.PlainNames PlainNames (walk adapters keys v) := by
  induction keys generalizing v with
  | nil => exact .pure h
  | cons key keys ih =>
    rw [walk_cons]
    split
    · exact .pure h
    split
    · have hreport : Trace.All Event.PlainNames (fun _ => True)
          (Trace.report (.missingBefore key) : Trace Fault Unit) :=
        .single trivial fun _ _ => trivial
      exact hreport.bind fun _ _ => .pure .missing
    · exact (lookup_plain adapters h key).bind fun w hw => ih hw

theorem validate_plain (path : String) :
    Trace.All Event.PlainNames (fun _ => True) (Path.validate path) := by
  rw [Path.validate]
  split
  · exact .pure trivial
  · exact .single trivial fun _ _ => trivial

theorem keysFor_plain (path : String) :
    Trace.All Event.PlainNames (fun _ => True) (keysFor path) := by
  refine Trace.All.mapError ?_ _
  refine (validate_plain path).bind fun _ _ => ?_
  exact .single trivial fun _ _ => trivial

theorem traverse_plain (adapters : List Adapter) (path : String) {target : Value}
    (h : PlainNames target) :
    Trace.All Event.PlainNames PlainNames (traverse adapters path target) :=
  (keysFor_plain path).bind fun keys _ => walk_plain adapters keys h

theorem find_plain (adapters : List Adapter) (path : String) {target : Value}
    (h : PlainNames target) :
    Trace.All Event.PlainNames (fun _ => True) (Parent.find adapters path target) := by
  refine (keysFor_plain path).bind fun keys _ => ?_
  split
  · exact .lift fun _ _ => trivial
  · refine (walk_plain adapters keys.dropLast h).bind fun value hvalue => ?_
    exact (lookup_plain adapters hvalue _).bind fun _ _ => .pure trivial

/-! ### Assignments -/

theorem forall_mem_insert {α : Type} {P : α → Prop} {a : α} (ha : P a)
    {entries : List (Value × α)} (h : ∀ b ∈ entries.map Prod.snd, P b) (key : Value) :
    ∀ b ∈ (Entries.insert key a entries).map Prod.snd, P b := by
  induction entries with
  | nil => exact List.forall_mem_singleton.mpr ha
  | cons entry entries ih =>
    obtain ⟨hentry, hrest⟩ := List.forall_mem_cons.mp h
    rw [Entries.insert]
    split
    · exact List.forall_mem_cons.mpr ⟨ha, hrest⟩
    · exact List.forall_mem_cons.mpr ⟨hentry, ih hrest⟩

section

variable {α : Type} {P : α → Prop} {f : α → α} (hf : ∀ a, P a → P (f a))

include hf

theorem forall_mem_modify {items : List α} (h : ∀ a ∈ items, P a) (n : Nat) :
    ∀ a ∈ items.modify n f, P a := by
  intro a ha
  obtain ⟨i, hi⟩ := List.mem_iff_getElem?.mp ha
  rw [List.getElem?_modify] at hi
  obtain ⟨b, hb, rfl⟩ := Option.map_eq_some_iff.mp hi
  have hmem := h b (List.mem_of_getElem? hb)
  split
  · exact hf b hmem
  · exact hmem

theorem forall_mem_modifyField {fields : List (String × α)} (h : ∀ a ∈ fields.map Prod.snd, P a)
    (name : String) : ∀ a ∈ (modifyField name f fields).map Prod.snd, P a := by
  induction fields with
  | nil => exact h
  | cons field fields ih =>
    obtain ⟨hfield, hrest⟩ := List.forall_mem_cons.mp h
    rw [modifyField]
    split
    · exact List.forall_mem_cons.mpr ⟨hf _ hfield, hrest⟩
    · exact List.forall_mem_cons.mpr ⟨hfield, ih hrest⟩

theorem forall_mem_modifyEntries {entries : List (Value × α)}
    (h : ∀ a ∈ entries.map Prod.snd, P a) (key : Value) :
    ∀ a ∈ (Entries.modify key f entries).map Prod.snd, P a := by
  induction entries with
  | nil => exact h
  | cons entry entries ih =>
    obtain ⟨hentry, hrest⟩ := List.forall_mem_cons.mp h
    rw [Entries.modify]
    split
    · exact List.forall_mem_cons.mpr ⟨hf _ hentry, hrest⟩
    · exact List.forall_mem_cons.mpr ⟨hentry, ih hrest⟩

end

section

variable {f : Value → Value} (hf : ∀ v, PlainNames v → PlainNames (f v))

include hf

theorem modifyMember_plain {m : Member} (h : PlainMember m) : PlainMember (modifyMember f m) := by
  cases h with
  | data hv => exact .data (hf _ hv)
  | routine => exact .routine
  | failing hkind => exact .failing hkind

theorem modifyItem_plain {v : Value} (h : PlainNames v) (n : Nat) :
    PlainNames (modifyItem n f v) := by
  cases h with
  | sequence hitems => exact .sequence (forall_mem_modify hf hitems n)
  | record hfields =>
    refine .record (List.forall_mem_map.mpr ?_)
    exact forall_mem_modify (P := fun field : String × Value => PlainNames field.2)
      (fun field hfield => hf field.2 hfield) (List.forall_mem_map.mp hfields) n
  | object hclass hgetters hown hshared hfallback =>
    exact .object hclass hgetters hown hshared hfallback
  | mapping hentries hattributes => exact .mapping hentries hattributes
  | missing | atom _ | buffer _ | range _ | set _ _ => constructor

theorem modifyAttribute_plain {v : Value} (h : PlainNames v) (name : String) :
    PlainNames (modifyAttribute name f v) := by
  cases h with
  | @object className getters own shared fallback hclass hgetters hown hshared hfallback =>
    have hmembers {members : List (String × Member)}
        (hm : ∀ m ∈ members.map Prod.snd, PlainMember m) :
        ∀ m ∈ (modifyField name (modifyMember f) members).map Prod.snd, PlainMember m :=
      forall_mem_modifyField (fun _ hmember => modifyMember_plain hf hmember) hm name
    have hanswer : ∀ m ∈ fallback.map (modifyMember f), PlainMember m := by
      intro m hm
      obtain ⟨m', hm', rfl⟩ := Option.map_eq_some_iff.mp hm
      exact modifyMember_plain hf (hfallback m' hm')
    simp only [modifyAttribute]
    split
    · exact .object hclass hgetters hown hshared hanswer
    · exact .object hclass hgetters hown hshared hanswer
    split
    · exact .object hclass (hmembers hgetters) hown hshared hfallback
    split
    · exact .object hclass hgetters (hmembers hown) hshared hfallback
    · exact .object hclass hgetters hown (hmembers hshared) hfallback
  | record hfields => exact .record (forall_mem_modifyField hf hfields name)
  | mapping hentries hattributes =>
    exact .mapping hentries (forall_mem_modifyField hf hattributes name)
  | sequence hitems => exact .sequence hitems
  | missing | atom _ | buffer _ | range _ | set _ _ => constructor

theorem modifyKey_plain (adapters : List Adapter) (key : String) {v : Value} (h : PlainNames v) :
    PlainNames (modifyKey adapters key f v) := by
  unfold modifyKey
  split
  · cases h with
    | mapping hentries hattributes =>
      refine .mapping ?_ hattributes
      unfold modifyEntry
      split
      · exact forall_mem_modifyEntries hf hentries _
      split
      · exact forall_mem_modifyEntries hf hentries _
      · exact hentries
  · split
    · exact modifyItem_plain hf h _
    · exact h
  · exact modifyAttribute_plain hf h key
  · exact h

theorem modifyAt_plain (adapters : List Adapter) (keys : List String) {v : Value}
    (h : PlainNames v) : PlainNames (modifyAt adapters keys f v) := by
  induction keys generalizing v with
  | nil => exact hf v h
  | cons key keys ih => exact modifyKey_plain (fun w hw => ih hw) adapters key h

end

theorem putEntry_plain {a : Value} (ha : PlainNames a) (key : String) {v : Value}
    (h : PlainNames v) : PlainNames (putEntry key a v) := by
  unfold putEntry
  split
  · cases h with
    | mapping hentries hattributes => exact .mapping (forall_mem_insert ha hentries _) hattributes
  · exact h

/-- Assigning a plain value in a plain document leaves it plain. -/
theorem assign_plain (adapters : List Adapter) (path : String) {a document : Value}
    (ha : PlainNames a) (h : PlainNames document) :
    Trace.All Event.PlainNames (fun assigned => ∀ r ∈ assigned, PlainNames r.document)
      (assign adapters path a document) := by
  refine (find_plain adapters path h).bind fun parent _ => ?_
  split
  · refine .pure fun r hr => ?_
    cases hr
    exact modifyAt_plain (fun v hv => putEntry_plain ha parent.childKey hv) adapters parent.keys h
  · exact .pure fun r hr => by cases hr

end DocPath
