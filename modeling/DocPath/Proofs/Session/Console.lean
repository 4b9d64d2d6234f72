import DocPath.Proofs.Session.Logger
import DocPath.Proofs.Walk.Names

/-! The console shows exactly the events.

What a step writes is what it reports (`console_perform`), and whether anything is written depends
on the logger alone, which has one console at most. The names in what a step reports are plain as
long as they are in the document (`events_plain`), and they stay so when a session assigns in it
(`document_after`). So each event is one line, and nothing that a path, a key or a failure holds can
make it two. -/
namespace DocPath

/-! ### Operations -/

/-- The document that an operation brings along to look into. -/
def Operation.target? : Operation → Option Value
  | .traverse _ s | .walk _ s | .parent _ s | .lookup _ s => s.target
  | .consult _ _ target => target
  | _ => none

/-- An answer that is made of a result reports what the result took. -/
theorem Trace.All.answer {ε α : Type} {P : Event → Prop} {Q : α → Prop} {t : Trace ε α}
    (h : All P Q t) (failure : ε → Failure) (reply : α → Answer) :
    All P (fun _ => True) (do return reply (← t.mapError failure)) :=
  (h.mapError failure).bind fun _ _ => .pure trivial

theorem Trace.All.answer_lift {ε α : Type} {P : Event → Prop} (r : Except ε α)
    (failure : ε → Failure) (reply : α → Answer) :
    All P (fun _ => True) (do return reply (← (Trace.lift r).mapError failure)) :=
  answer (Q := fun _ => True) (.lift fun _ _ => trivial) failure reply

/-- An operation reports events with plain names only. -/
theorem Operation.run_plain (op : Operation) (c : Context)
    (htarget : ∀ v ∈ op.target?, PlainNames v) (hdocument : PlainNames c.document) :
    Trace.All Event.PlainNames (fun _ => True) (op.run c) := by
  cases op with
  | validate path => exact (validate_plain path).answer _ _
  | parse path | reformat path => exact (keysFor_plain path).answer _ _
  | traverse path s =>
    exact (traverse_plain (s.adaptersIn c) path (plainNames_getD htarget hdocument)).answer _ _
  | walk keys s =>
    exact (walk_plain (s.adaptersIn c) keys (plainNames_getD htarget hdocument)).answer _ _
  | parent path s =>
    exact (find_plain (s.adaptersIn c) path (plainNames_getD htarget hdocument)).answer _ _
  | lookup key s =>
    exact (lookup_plain (s.adaptersIn c) (plainNames_getD htarget hdocument) key).answer _ _
  | consult a key target =>
    rw [run]
    split
    · exact (a.lookup_plain (plainNames_getD htarget hdocument) key).answer _ _
    · exact .pure trivial
  | format keys => exact .answer_lift (KeyList.format keys) _ _
  | settings level flag => exact .answer_lift (Settings.ofEnvironment level flag) _ _
  | pair keyType valueType fields change =>
    exact .answer_lift (Pair.ofFields keyType valueType fields) _ _
  | roundtrip keys =>
    have hformat : Trace.All Event.PlainNames (fun _ => True) (.lift (KeyList.format keys)) :=
      .lift fun _ _ => trivial
    exact (hformat.mapError _).bind fun path _ => (keysFor_plain path).answer _ _
  | normalize _ | restore _ | marker | manifest | record _ => exact .pure trivial

namespace Session

/-- The values that a step brings into a session: a document to look into, or a value to assign. -/
def Step.values : Step → List Value
  | .operation op => op.target?.toList
  | .assign _ value => [value]
  | _ => []

namespace State

/-- What a step reports, if it runs an operation. -/
def events? (s : State) : Step → Option (List Event)
  | .operation op => some (op.run s.context).events
  | .assign path value => some (DocPath.assign s.adapters path value s.document).events
  | .defaultAdapters => some []
  | _ => none

/-! ### One step -/

theorem console_perform {s : State} {step : Step} {events : List Event}
    (h : s.events? step = some events) :
    (s.perform step).console = s.logger.writeEvents events := by
  cases step with
  | operation op =>
    cases h
    rfl
  | assign path value =>
    cases h
    simp only [perform]
    split <;> rfl
  | defaultAdapters =>
    cases h
    rfl
  | _ => cases h

theorem events_plain {s : State} (hdocument : PlainNames s.document) {step : Step}
    (hvalues : ∀ v ∈ step.values, PlainNames v) {events : List Event}
    (h : s.events? step = some events) : ∀ e ∈ events, e.PlainNames := by
  cases step with
  | operation op =>
    cases h
    refine (op.run_plain s.context (fun v hv => hvalues v ?_) hdocument).events
    exact Option.mem_toList.mpr hv
  | assign path value =>
    cases h
    have hvalue := hvalues value (List.mem_singleton_self value)
    exact (assign_plain s.adapters path hvalue hdocument).events
  | defaultAdapters =>
    cases h
    exact fun e he => absurd he List.not_mem_nil
  | _ => cases h

theorem document_perform {s : State} (hdocument : PlainNames s.document) {step : Step}
    (hvalues : ∀ v ∈ step.values, PlainNames v) :
    PlainNames (s.perform step).state.document := by
  cases step with
  | assign path value =>
    have hvalue := hvalues value (List.mem_singleton_self value)
    have hassign := assign_plain s.adapters path hvalue hdocument
    simp only [perform]
    split
    · next a houtcome => exact hassign.outcome _ houtcome a rfl
    · exact hdocument
    · exact hdocument
  | leave position =>
    simp only [perform]
    cases takeScope position s.scopes <;> exact hdocument
  | configureLogging level =>
    simp only [perform]
    cases s.logger.configure s.settings level <;> exact hdocument
  | _ => exact hdocument

/-! ### Whole sessions -/

theorem document_after {s : State} (hdocument : PlainNames s.document) {steps : List Step}
    (hvalues : ∀ step ∈ steps, ∀ v ∈ step.values, PlainNames v) :
    PlainNames (s.after steps).document := by
  induction steps generalizing s with
  | nil => exact hdocument
  | cons step steps ih =>
    obtain ⟨hstep, hrest⟩ := List.forall_mem_cons.mp hvalues
    exact ih (document_perform hdocument hstep) hrest

/-- The lines of clean messages have as many line breaks as there are messages. -/
theorem count_break_lines {events : List Event} (h : ∀ e ∈ events, Text.Clean e.message) :
    (String.join (events.map fun e => Log.debugLine e.message)).toList.count '\n' =
      events.length := by
  induction events with
  | nil => rfl
  | cons e events ih =>
    obtain ⟨he, hrest⟩ := List.forall_mem_cons.mp h
    rw [List.map_cons, String.join_cons, String.toList_append, List.count_append, ih hrest,
      Log.count_break_debugLine he, List.length_cons, Nat.add_comm]

/-- **The console shows exactly the events, one line each.** In every session that began without a
level and without a console, a step that runs an operation writes a line for each event that it
reports, in order, if there is a console and the logger has a level that lets them through; else it
writes nothing. No message has a control character in it, so no path, key or failure can add a
line. -/
theorem console_shows_events (s : State) (hlogger : s.logger = .initial)
    (hdocument : PlainNames s.document) (steps : List Step) (step : Step)
    (hvalues : ∀ given ∈ steps ++ [step], ∀ v ∈ given.values, PlainNames v) (events : List Event)
    (hevents : (s.after steps).events? step = some events) :
    (∀ e ∈ events, Text.Clean e.message) ∧
    ((s.after steps).logger.consoles = 1 ∧ (s.after steps).logger.level ≠ 0 ∧
        (s.after steps).logger.level ≤ 10 →
      ((s.after steps).perform step).console =
          String.join (events.map fun e => Log.debugLine e.message) ∧
        ((s.after steps).perform step).console.toList.count '\n' = events.length) ∧
    (¬ ((s.after steps).logger.consoles = 1 ∧ (s.after steps).logger.level ≠ 0 ∧
        (s.after steps).logger.level ≤ 10) →
      ((s.after steps).perform step).console = "") := by
  obtain ⟨hbefore, hstep⟩ := List.forall_mem_append.mp hvalues
  have hplain := events_plain (document_after hdocument hbefore)
    (List.forall_mem_singleton.mp hstep) hevents
  have hclean : ∀ e ∈ events, Text.Clean e.message := fun e he => Event.clean_message (hplain e he)
  have henabled := Log.Logger.isEnabled_debug_iff (s.after steps).logger
  rw [console_perform hevents]
  refine ⟨hclean, ?_, ?_⟩
  · rintro ⟨hconsole, hlevel⟩
    rw [Log.Logger.writeEvents_of_enabled hconsole (henabled.mpr hlevel) hclean]
    exact ⟨rfl, count_break_lines hclean⟩
  · intro hsilent
    apply Log.Logger.writeEvents_of_silent
    -- In a run there is never more than one console, so not one console means none.
    rcases (loggerOf_after hlogger steps).consoles with hnone | hconsole
    · exact .inl hnone
    · right
      rw [Bool.eq_false_iff]
      exact fun htrue => hsilent ⟨hconsole, henabled.mp htrue⟩

/-- A failure whose text looks like a line of the console. -/
theorem console_shows_events_forged_line :
    PlainNames (.object "Box" [("x", .failing (.builtIn "ValueError" "a\nDEBUG    b"))] [] []
      none) ∧
    (((initial (.object "Box" [("x", .failing (.builtIn "ValueError" "a\nDEBUG    b"))] [] []
        none)).after [.configureLogging (some (.text "debug"))]).perform
          (.operation (.walk ["x", "y"] ⟨none, none⟩))).console =
      "DEBUG    adapter: attribute 'x' of Box raised ValueError('a\\nDEBUG    b')\n" ++
        "DEBUG    traverse: missing before key 'y'\n" := by
  have hplain : PlainNames
      (.object "Box" [("x", .failing (.builtIn "ValueError" "a\nDEBUG    b"))] [] [] none) := by
    refine .object (by decide) ?_ ?_ ?_ ?_
    · exact List.forall_mem_singleton.mpr (.failing (by decide))
    · exact fun m hm => absurd hm List.not_mem_nil
    · exact fun m hm => absurd hm List.not_mem_nil
    · exact fun v hv => by cases hv
  obtain ⟨_, hshown, _⟩ := console_shows_events (initial _) rfl hplain
    [.configureLogging (some (.text "debug"))] (.operation (.walk ["x", "y"] ⟨none, none⟩))
    (by simp [Step.values, Operation.target?])
    [.getterFailed "x" "Box" (.builtIn "ValueError" "a\nDEBUG    b"), .missingBefore "y"] rfl
  refine ⟨hplain, ?_⟩
  rw [(hshown ⟨rfl, by decide, by decide⟩).1]
  decide

end State

end Session

end DocPath
