import DocPath.Log.Logger
import DocPath.Proofs.Path.Characters

/-! Every event is one line of the console.

A message shows paths, keys and the texts of failures in quotes, and in quotes no control character
stands for itself (`clean_quoted`). So a message has none at all, as long as the names that it shows
without quotes have none (`Event.clean_message`). A console changes nothing in such a text
(`messageLine_debug`): nothing is dropped from it, no tab is filled up, and it ends where its line
does. -/
namespace DocPath

namespace Text

/-! ### Control characters -/

/-- The control characters of ASCII. -/
def isControl (c : Char) : Bool := c.toNat < 0x20 || c.toNat == 0x7F

def CleanChars (cs : List Char) : Prop := ∀ c ∈ cs, isControl c = false

/-- A text without control characters. -/
def Clean (s : String) : Prop := CleanChars s.toList

theorem clean_iff_all (s : String) : (s.toList.all fun c => !isControl c) = true ↔ Clean s := by
  simp [Clean, CleanChars]

instance (s : String) : Decidable (Clean s) := decidable_of_decidable_of_iff (clean_iff_all s)

theorem cleanChars_nil : CleanChars [] := fun _ hc => absurd hc List.not_mem_nil

theorem cleanChars_cons (c : Char) (cs : List Char) :
    CleanChars (c :: cs) ↔ isControl c = false ∧ CleanChars cs := List.forall_mem_cons

theorem cleanChars_append (cs ds : List Char) :
    CleanChars (cs ++ ds) ↔ CleanChars cs ∧ CleanChars ds := List.forall_mem_append

theorem clean_append (s t : String) : Clean (s ++ t) ↔ Clean s ∧ Clean t := by
  rw [Clean, String.toList_append]
  exact cleanChars_append ..

/-! ### Quoted texts -/

theorem not_isControl_of_isPrintable {c : Char} (h : isPrintable c = true) :
    isControl c = false := by
  cases hcontrol : isControl c with
  | false => rfl
  | true =>
    have hunprintable := isPrintable_of_control c (by simpa [isControl] using hcontrol)
    rw [hunprintable] at h
    cases h

theorem cleanChars_hexDigits (width n : Nat) : CleanChars (hexDigits width n) := by
  induction width generalizing n with
  | zero => exact cleanChars_nil
  | succ width ih =>
    have hdigit : ∀ d < 16, isControl (Nat.digitChar d) = false := by decide
    rw [hexDigits, cleanChars_append, cleanChars_cons]
    exact ⟨ih _, hdigit _ (Nat.mod_lt n (by decide)), cleanChars_nil⟩

theorem cleanChars_escapeCode (c : Char) : CleanChars (escapeCode c) := by
  have hcode (letter : Char) (hletter : isControl letter = false) (width : Nat) :
      CleanChars ('\\' :: letter :: hexDigits width c.toNat) := by
    rw [cleanChars_cons, cleanChars_cons]
    exact ⟨by decide, hletter, cleanChars_hexDigits width _⟩
  unfold escapeCode
  split
  · exact hcode 'x' (by decide) 2
  split
  · exact hcode 'u' (by decide) 4
  · exact hcode 'U' (by decide) 8

/-- Whatever character is escaped, what stands for it is clean. -/
theorem cleanChars_escape {quote : Char} (h : isControl quote = false) (c : Char) :
    CleanChars (escape quote c) := by
  have hpair (d : Char) (hd : isControl d = false) : CleanChars ['\\', d] := by
    rw [cleanChars_cons, cleanChars_cons]
    exact ⟨by decide, hd, cleanChars_nil⟩
  unfold escape
  split
  · next hquote =>
    apply hpair
    rcases (Bool.or_eq_true ..).mp hquote with hc | hc
    · rw [of_decide_eq_true hc]
      exact h
    · rw [of_decide_eq_true hc]
      decide
  split
  · exact hpair 'n' (by decide)
  split
  · exact hpair 'r' (by decide)
  split
  · exact hpair 't' (by decide)
  split
  · next hprintable =>
    rw [cleanChars_cons]
    exact ⟨not_isControl_of_isPrintable hprintable, cleanChars_nil⟩
  · exact cleanChars_escapeCode c

theorem not_isControl_quoteFor (cs : List Char) : isControl (quoteFor cs) = false := by
  unfold quoteFor
  split <;> decide

/-- A quoted text has no control characters, whatever is in the quotes. -/
theorem clean_quoted (s : String) : Clean (quoted s) := by
  have hquote := not_isControl_quoteFor s.toList
  rw [Clean, quoted, String.toList_ofList, quotedChars, cleanChars_append, cleanChars_cons,
    cleanChars_cons]
  refine ⟨⟨hquote, ?_⟩, hquote, cleanChars_nil⟩
  intro c hc
  obtain ⟨d, _, hd⟩ := List.mem_flatMap.mp hc
  exact cleanChars_escape hquote d c hd

theorem clean_intercalate {separator : String} (h : Clean separator) {items : List String}
    (hitems : ∀ item ∈ items, Clean item) : Clean (separator.intercalate items) := by
  induction items with
  | nil =>
    rw [String.intercalate_nil]
    decide
  | cons item items ih =>
    obtain ⟨hitem, hrest⟩ := List.forall_mem_cons.mp hitems
    cases items with
    | nil =>
      rw [String.intercalate_singleton]
      exact hitem
    | cons next items =>
      rw [String.intercalate_cons_cons, clean_append, clean_append]
      exact ⟨⟨hitem, h⟩, ih hrest⟩

theorem clean_quotedList (texts : List String) : Clean (quotedList texts) := by
  have hitems : ∀ item ∈ texts.map quoted, Clean item := by
    intro item hitem
    obtain ⟨s, _, rfl⟩ := List.mem_map.mp hitem
    exact clean_quoted s
  simp only [quotedList, bracketed, clean_append]
  exact ⟨⟨by decide, clean_intercalate (by decide) hitems⟩, by decide⟩

theorem clean_toString (n : Nat) : Clean (toString n) := by
  intro c hc
  rw [Nat.toString_eq_repr, Nat.toList_repr] at hc
  have hdigit : c.isDigit = true := Nat.isDigit_of_mem_toDigits (by decide) (by decide) hc
  obtain ⟨hlow, hhigh⟩ := (Path.isDigit_iff c).mp hdigit
  have hlow : 48 ≤ c.toNat := hlow
  have hhigh : c.toNat ≤ 57 := hhigh
  simp only [isControl, Bool.or_eq_false_iff, decide_eq_false_iff_not, beq_eq_false_iff_ne]
  omega

end Text

open Text (Clean clean_append clean_quoted)

/-! ### Messages -/

/-- The names that a message shows without quotes have no control characters, as no identifier
has. -/
def Event.PlainNames : Event → Prop
  | .getterFailed _ className raised => Clean className ∧ Clean raised.kind
  | .rejected _ _ | .parsed _ _ | .missingBefore _ => True

theorem Raised.clean_display {r : Raised} (h : Clean r.kind) : Clean r.display := by
  simp only [display, clean_append]
  exact ⟨⟨⟨h, by decide⟩, clean_quoted _⟩, by decide⟩

/-- **A message has no control characters**, whatever characters are in the paths, the keys and the
texts of failures that it shows. -/
theorem Event.clean_message {e : Event} (h : e.PlainNames) : Clean e.message := by
  cases e with
  | rejected path index =>
    show Clean ("grammar: rejected " ++ Text.quoted path ++ " at " ++ toString index)
    simp only [clean_append]
    exact ⟨⟨⟨by decide, clean_quoted path⟩, by decide⟩, Text.clean_toString index⟩
  | parsed path keys =>
    show Clean ("parse: " ++ Text.quoted path ++ " -> " ++ Text.quotedList keys)
    simp only [clean_append]
    exact ⟨⟨⟨by decide, clean_quoted path⟩, by decide⟩, Text.clean_quotedList keys⟩
  | getterFailed key className raised =>
    show Clean ("adapter: attribute " ++ Text.quoted key ++ " of " ++ className ++ " raised " ++
      raised.display)
    simp only [clean_append]
    exact ⟨⟨⟨⟨⟨by decide, clean_quoted key⟩, by decide⟩, h.1⟩, by decide⟩, Raised.clean_display h.2⟩
  | missingBefore key =>
    show Clean ("traverse: missing before key " ++ Text.quoted key)
    rw [clean_append]
    exact ⟨by decide, clean_quoted key⟩

/-! ### Lines -/

namespace Log

theorem isControl_of_isDropped {c : Char} (h : isDropped c = true) : Text.isControl c = true := by
  have hcodes : ∀ code ∈ [0x07, 0x08, 0x0B, 0x0C, 0x0D], code < 0x20 := by decide
  have hcode := hcodes c.toNat (List.contains_iff_mem.mp h)
  simp [Text.isControl, hcode]

/-- Nothing is dropped from a clean text. -/
theorem printed_of_clean {s : String} (h : Clean s) : printed s = s := by
  have hkept : s.toList.filter (!isDropped ·) = s.toList := by
    rw [List.filter_eq_self]
    intro c hc
    cases hdropped : isDropped c with
    | false => rfl
    | true =>
      have hcontrol := isControl_of_isDropped hdropped
      rw [h c hc] at hcontrol
      cases hcontrol
  rw [printed, hkept, String.ofList_toList]

/-- Nor is anything filled up in it, wherever the line has been measured to. -/
theorem expandTabs_of_clean (stop : Nat) (p : Text.Cursor) {cs : List Char}
    (h : Text.CleanChars cs) : Text.expandTabs stop p cs = cs := by
  induction cs generalizing p with
  | nil => rfl
  | cons c cs ih =>
    obtain ⟨hc, hcs⟩ := (Text.cleanChars_cons ..).mp h
    have hbreak : c ≠ '\n' := by
      rintro rfl
      cases hc
    have htab : c ≠ '\t' := by
      rintro rfl
      cases hc
    rw [Text.expandTabs, if_neg hbreak, if_neg htab, ih _ hcs]

/-- The line of a message of this library: the name of the level in eight columns, a blank, and the
message. -/
def debugLine (message : String) : String := "DEBUG   " ++ " " ++ message ++ "\n"

theorem heading_debug : heading debug = "DEBUG   " := by rfl

/-- A console writes a clean message as it is. -/
theorem messageLine_debug {message : String} (h : Clean message) :
    messageLine debug message = debugLine message := by
  have hplain : plainLine debug message = "DEBUG   " ++ " " ++ message := by
    rw [plainLine, heading_debug, printed_of_clean h]
  have hclean : Clean ("DEBUG   " ++ " " ++ message) := by
    simp only [clean_append]
    exact ⟨⟨by decide, by decide⟩, h⟩
  rw [messageLine, hplain, consoleLine, expandTabs_of_clean _ _ hclean, String.ofList_toList,
    debugLine]

/-- There is one line break in it, the last character. -/
theorem count_break_debugLine {message : String} (h : Clean message) :
    (debugLine message).toList.count '\n' = 1 := by
  have hmessage : message.toList.count '\n' = 0 := by
    apply List.count_eq_zero_of_not_mem
    intro hbreak
    have hcontrol := h _ hbreak
    cases hcontrol
  have hheading : ("DEBUG   " ++ " ").toList.count '\n' = 0 := by decide
  rw [debugLine, String.toList_append, String.toList_append, List.count_append, List.count_append,
    hheading, hmessage]
  rfl

namespace Logger

/-- A logger lets the events of this library through if it has a level of its own, and that is not
above theirs. -/
theorem isEnabled_debug_iff (l : Logger) :
    l.isEnabled debug = true ↔ l.level ≠ 0 ∧ l.level ≤ debug := by
  have hpositive : 0 < debug := by decide
  have hquiet : ¬ warning ≤ debug := by decide
  rw [isEnabled, effectiveLevel, Bool.and_eq_true, decide_eq_true_iff, decide_eq_true_iff]
  by_cases hlevel : l.level = 0
  · simp [hlevel, hquiet]
  · simp [hlevel, hpositive]

/-- Without a console, or with a level that holds events back, nothing is written. -/
theorem writeEvents_of_silent {l : Logger} (h : l.consoles = 0 ∨ l.isEnabled debug = false)
    (events : List Event) : l.writeEvents events = "" := by
  have hwrite (message : String) : l.write debug message = "" := by
    rw [write]
    rcases h with hnone | hsilent
    · rw [hnone]
      split <;> rfl
    · rw [hsilent]
      rfl
  rw [writeEvents]
  induction events with
  | nil => rfl
  | cons e events ih => rw [List.map_cons, String.join_cons, hwrite, ih, String.empty_append]

/-- One console writes a line for each event, in order. -/
theorem writeEvents_of_enabled {l : Logger} (hconsole : l.consoles = 1)
    (henabled : l.isEnabled debug = true) {events : List Event}
    (h : ∀ e ∈ events, Clean e.message) :
    l.writeEvents events = String.join (events.map fun e => debugLine e.message) := by
  rw [writeEvents]
  congr 1
  apply List.map_congr_left
  intro e he
  rw [write, if_pos henabled, hconsole, messageLine_debug (h e he), List.replicate_one,
    String.join_cons, String.join_nil, String.append_empty]

end Logger

end Log

end DocPath
