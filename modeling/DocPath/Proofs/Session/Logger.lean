import DocPath.Session

/-! The logger over whole runs.

A call to configure the logger sets a level and sees to a console, or it changes nothing at all
(`configure_eq`). No other step touches the logger, so it is after a run what the last call that
succeeded made of it (`logger_after`): that call's level, and the one console that the first of them
installed. Settings can hold any text as a level, so calls may fail at any point of a run; those
that an environment chose cannot make one fail (`levelNumber?_of_environment`). -/
namespace DocPath

/-! ### Levels that can be set -/

namespace Log

/-- The names of levels are in upper case. -/
theorem upper_of_levelNumber? {name : String} {n : Int} (h : levelNumber? name = some n) :
    Text.upper name = name := by
  have hupper : ∀ known ∈ levels.map Prod.fst, Text.upper known = known := by decide
  obtain ⟨before, after, hlevels, _⟩ := List.lookup_eq_some_iff.mp h
  apply hupper
  rw [hlevels]
  simp

/-- What a call asks for: an integer as it is, or a level by its name in any case; by default the
level that the settings name. -/
inductive Asks (settings : Settings) : Option Value → Int → Prop where
  | number (n : Int) : Asks settings (some (.int n)) n
  | truth (b : Bool) : Asks settings (some (.bool b)) b.toInt
  | named {name : String} {n : Int} :
      levelNumber? (Text.upper name) = some n → Asks settings (some (.text name)) n
  | byDefault {n : Int} :
      levelNumber? (Text.upper settings.logLevel) = some n → Asks settings none n

theorem levelOf_text_ok_iff (name : String) (n : Int) :
    levelOf (.text name) = .ok n ↔ levelNumber? (Text.upper name) = some n := by
  rw [Value.text, levelOf]
  cases levelNumber? (Text.upper name) <;> simp

theorem levelOf_text_of_unknown {name : String} (h : levelNumber? (Text.upper name) = none) :
    levelOf (.text name) = .error (.unknown (Text.upper name)) := by
  rw [Value.text, levelOf, h]

theorem levelOf_ok_iff (settings : Settings) (level : Option Value) (n : Int) :
    levelOf (level.getD (.text settings.logLevel)) = .ok n ↔ Asks settings level n := by
  constructor
  · intro h
    cases level with
    | none => exact .byDefault ((levelOf_text_ok_iff ..).mp h)
    | some v =>
      cases v with
      | atom a =>
        cases a with
        | text name => exact .named ((levelOf_text_ok_iff ..).mp h)
        | int m =>
          obtain rfl : m = n := Except.ok.inj h
          exact .number m
        | bool b =>
          cases h
          exact .truth b
        | _ => cases h
      | _ => cases h
  · intro h
    cases h with
    | number | truth => rfl
    | named hname => exact (levelOf_text_ok_iff ..).mpr hname
    | byDefault hname => exact (levelOf_text_ok_iff ..).mpr hname

/-- The logger with a level, and with a console if it had none. -/
def Logger.configured (l : Logger) (n : Int) : Logger :=
  ⟨n, if l.consoles = 0 then 1 else l.consoles⟩

/-- A console that is there stays the only one. -/
theorem Logger.configured_configured (l : Logger) (m n : Int) :
    (l.configured m).configured n = l.configured n := by
  by_cases h : l.consoles = 0 <;> simp [configured, h]

theorem Logger.consoles_le_configured (l : Logger) (n : Int) :
    l.consoles ≤ (l.configured n).consoles := by
  by_cases h : l.consoles = 0 <;> simp [configured, h]

theorem Logger.configure_eq (l : Logger) (settings : Settings) (level : Option Value) :
    l.configure settings level =
      (levelOf (level.getD (.text settings.logLevel))).map l.configured := by
  rw [configure]
  cases levelOf (level.getD (.text settings.logLevel)) <;> rfl

end Log

theorem Settings.levelNumber?_of_readLevel {given : Option String} {name : String}
    (h : readLevel given = .ok name) : ∃ n, Log.levelNumber? name = some n := by
  unfold readLevel at h
  extract_lets raw level at h
  split at h
  · next hknown =>
    obtain rfl : level = name := Except.ok.inj h
    exact Option.isSome_iff_exists.mp hknown
  · cases h

/-- The level that an environment chose is known by its name in upper case, which is its own. -/
theorem Settings.levelNumber?_of_environment {level flag : Option String} {settings : Settings}
    (h : ofEnvironment level flag = .ok settings) :
    ∃ n, Log.levelNumber? (Text.upper settings.logLevel) = some n := by
  have hlevel : readLevel level = .ok settings.logLevel := by
    rw [ofEnvironment] at h
    cases hread : readLevel level with
    | error e =>
      rw [hread] at h
      cases h
    | ok name =>
      cases hflag : readFlag flag with
      | error e =>
        rw [hread, hflag] at h
        cases h
      | ok access =>
        rw [hread, hflag] at h
        cases h
        rfl
  obtain ⟨n, hn⟩ := levelNumber?_of_readLevel hlevel
  exact ⟨n, by rw [Log.upper_of_levelNumber? hn, hn]⟩

namespace Session.State

open Log (Asks)

/-! ### Calls -/

/-- A call to configure the logger succeeds in a state. -/
def Succeeds (s : State) (level : Option Value) : Prop :=
  ∃ answer, (s.perform (.configureLogging level)).result = .ok answer

/-- A call to configure the logger succeeds in the course of a run. -/
def Configures (s : State) (steps : List Step) : Prop :=
  ∃ before level rest, steps = before ++ .configureLogging level :: rest ∧
    (s.after before).Succeeds level

/-- A call sets the level it asks for. -/
theorem perform_configureLogging_of_asks {s : State} {level : Option Value} {n : Int}
    (h : Asks s.settings level n) :
    s.perform (.configureLogging level) =
      ⟨{ s with logger := s.logger.configured n }, .ok (.logger Log.Logger.name), ""⟩ := by
  rw [perform, Log.Logger.configure_eq, (Log.levelOf_ok_iff ..).mpr h]
  rfl

/-- A call that asks for no level changes nothing. -/
theorem perform_configureLogging_of_error {s : State} {level : Option Value} {e : Log.LevelError}
    (h : Log.levelOf (level.getD (.text s.settings.logLevel)) = .error e) :
    s.perform (.configureLogging level) = ⟨s, .error (.level e), ""⟩ := by
  rw [perform, Log.Logger.configure_eq, h]
  rfl

theorem succeeds_iff (s : State) (level : Option Value) :
    s.Succeeds level ↔ ∃ n, Asks s.settings level n := by
  constructor
  · rintro ⟨answer, h⟩
    cases hlevel : Log.levelOf (level.getD (.text s.settings.logLevel)) with
    | ok n => exact ⟨n, (Log.levelOf_ok_iff ..).mp hlevel⟩
    | error e =>
      rw [perform_configureLogging_of_error hlevel] at h
      cases h
  · rintro ⟨n, h⟩
    exact ⟨_, by rw [perform_configureLogging_of_asks h]⟩

/-! ### One step -/

/-- A step either is a call that succeeds, or leaves the logger as it is. -/
theorem logger_perform (s : State) (step : Step) :
    (∃ level n, step = .configureLogging level ∧ Asks s.settings level n ∧
      (s.perform step).state.logger = s.logger.configured n) ∨
    ((s.perform step).state.logger = s.logger ∧
      ∀ level, step = .configureLogging level → ¬ s.Succeeds level) := by
  cases step with
  | configureLogging level =>
    cases hlevel : Log.levelOf (level.getD (.text s.settings.logLevel)) with
    | ok n =>
      have hasks := (Log.levelOf_ok_iff ..).mp hlevel
      exact .inl ⟨level, n, rfl, hasks, by rw [perform_configureLogging_of_asks hasks]⟩
    | error e =>
      have hperform := perform_configureLogging_of_error hlevel
      refine .inr ⟨by rw [hperform], ?_⟩
      intro level' hcall hsucceeds
      obtain rfl := Step.configureLogging.inj hcall
      obtain ⟨answer, hanswer⟩ := hsucceeds
      rw [hperform] at hanswer
      cases hanswer
  | leave position =>
    refine .inr ⟨?_, fun level h => by cases h⟩
    simp only [perform]
    cases takeScope position s.scopes <;> rfl
  | assign path value =>
    refine .inr ⟨?_, fun level h => by cases h⟩
    simp only [perform]
    split <;> rfl
  | _ => exact .inr ⟨rfl, fun level h => by cases h⟩

theorem configures_cons (s : State) (step : Step) (rest : List Step) :
    s.Configures (step :: rest) ↔
      (∃ level, step = .configureLogging level ∧ s.Succeeds level) ∨
        (s.perform step).state.Configures rest := by
  constructor
  · rintro ⟨before, level, rest', hsteps, hlevel⟩
    cases before with
    | nil =>
      obtain ⟨rfl, rfl⟩ := List.cons.inj hsteps
      exact .inl ⟨level, rfl, hlevel⟩
    | cons first before =>
      obtain ⟨rfl, rfl⟩ := List.cons.inj hsteps
      exact .inr ⟨before, level, rest', rfl, hlevel⟩
  · rintro (⟨level, rfl, hlevel⟩ | ⟨before, level, rest', rfl, hlevel⟩)
    · exact ⟨[], level, rest, rfl, hlevel⟩
    · exact ⟨step :: before, level, rest', rfl, hlevel⟩

/-! ### Whole runs -/

/-- The last call of a run that succeeds, and the level it asks for. -/
def LastCall (s : State) (steps : List Step) (n : Int) : Prop :=
  ∃ before level rest, steps = before ++ .configureLogging level :: rest ∧
    Asks (s.after before).settings level n ∧
    ¬ (s.after (before ++ [.configureLogging level])).Configures rest

theorem LastCall.cons {s : State} {step : Step} {rest : List Step} {n : Int}
    (h : (s.perform step).state.LastCall rest n) : s.LastCall (step :: rest) n := by
  obtain ⟨before, level, rest', rfl, hasks, hrest⟩ := h
  exact ⟨step :: before, level, rest', rfl, hasks, hrest⟩

/-- After a run the logger is as before it, or as the last call that succeeded left it. -/
theorem logger_after (s : State) (steps : List Step) :
    (¬ s.Configures steps ∧ (s.after steps).logger = s.logger) ∨
    (s.Configures steps ∧ ∃ n, s.LastCall steps n ∧
      (s.after steps).logger = s.logger.configured n) := by
  induction steps generalizing s with
  | nil =>
    refine .inl ⟨?_, rfl⟩
    rintro ⟨before, level, rest, hsteps, _⟩
    simp at hsteps
  | cons step rest ih =>
    rw [configures_cons]
    rcases ih (s.perform step).state with ⟨hnone, hlogger⟩ | ⟨hsome, n, hlast, hlogger⟩
    · -- No later call succeeds, so this step is the last one that may have.
      rcases s.logger_perform step with ⟨level, n, rfl, hasks, hstep⟩ | ⟨hstep, hfails⟩
      · refine .inr ⟨.inl ⟨level, rfl, (succeeds_iff ..).mpr ⟨n, hasks⟩⟩, n, ?_, ?_⟩
        · exact ⟨[], level, rest, rfl, hasks, hnone⟩
        · rw [after, hlogger, hstep]
      · refine .inl ⟨?_, by rw [after, hlogger, hstep]⟩
        rintro (⟨level, hcall, hlevel⟩ | hrest)
        · exact hfails level hcall hlevel
        · exact hnone hrest
    · -- A later call sets the level anew, and finds the console that this step may have installed.
      refine .inr ⟨.inr hsome, n, hlast.cons, ?_⟩
      rw [after, hlogger]
      rcases s.logger_perform step with ⟨level, m, _, _, hstep⟩ | ⟨hstep, _⟩
      · rw [hstep, Log.Logger.configured_configured]
      · rw [hstep]

/-- Consoles stay. -/
theorem consoles_le_after (s : State) (steps : List Step) :
    s.logger.consoles ≤ (s.after steps).logger.consoles := by
  rcases s.logger_after steps with ⟨_, hlogger⟩ | ⟨_, n, _, hlogger⟩
  · exact Nat.le_of_eq (by rw [hlogger])
  · rw [hlogger]
    exact s.logger.consoles_le_configured n

/-- The logger after a run that began without a level and without a console. -/
structure LoggerOf (s : State) (steps : List Step) (l : Log.Logger) : Prop where
  consoles : l.consoles = 0 ∨ l.consoles = 1
  /-- There is a console exactly if a call has succeeded. -/
  installed : l.consoles = 1 ↔ s.Configures steps
  /-- The level is that of the last call that succeeded. -/
  level : ¬ s.Configures steps ∧ l.level = 0 ∨ s.LastCall steps l.level

theorem loggerOf_after {s : State} (h : s.logger = .initial) (steps : List Step) :
    LoggerOf s steps (s.after steps).logger := by
  rcases s.logger_after steps with ⟨hnone, hlogger⟩ | ⟨hsome, n, hlast, hlogger⟩
  · rw [hlogger, h]
    exact ⟨.inl rfl, iff_of_false (by decide) hnone, .inl ⟨hnone, rfl⟩⟩
  · rw [hlogger, h]
    exact ⟨.inr rfl, iff_of_true rfl hsome, .inr hlast⟩

/-- **Configuring keeps the logger consistent over whole runs.** After any steps from a logger
without a level and without a console there is at most one console, and there is one exactly if a
call has succeeded; consoles stay; and the level is that which the last call that succeeded asked
for, an integer or a known name, its own or that of the settings at the time. Calls that ask for
neither fail, those with an unknown name for that name, and change nothing. Under settings that an
environment chose, a call without a level succeeds. -/
theorem logger_consistent (s : State) (h : s.logger = .initial) (steps : List Step) :
    LoggerOf s steps (s.after steps).logger ∧
    (∀ more, (s.after steps).logger.consoles ≤ (s.after (steps ++ more)).logger.consoles) ∧
    (∀ level, (s.after steps).Succeeds level ↔ ∃ n, Asks (s.after steps).settings level n) ∧
    (∀ level name, level.getD (.text (s.after steps).settings.logLevel) = .text name →
      Log.levelNumber? (Text.upper name) = none →
      (s.after steps).perform (.configureLogging level) =
        ⟨s.after steps, .error (.level (.unknown (Text.upper name))), ""⟩) ∧
    (∀ level flag, Settings.ofEnvironment level flag = .ok (s.after steps).settings →
      (s.after steps).Succeeds none) := by
  refine ⟨loggerOf_after h steps, ?_, (s.after steps).succeeds_iff, ?_, ?_⟩
  · intro more
    rw [after_append]
    exact (s.after steps).consoles_le_after more
  · intro level name hname hunknown
    apply perform_configureLogging_of_error
    rw [hname, Log.levelOf_text_of_unknown hunknown]
  · intro level flag henvironment
    obtain ⟨n, hn⟩ := Settings.levelNumber?_of_environment henvironment
    exact (succeeds_iff ..).mpr ⟨n, .byDefault hn⟩

/-- A scope with a level in lower case, and after it a level that is none: the call inside the scope
is the last one that succeeds. -/
theorem logger_consistent_failed_last :
    (initial .null).logger = .initial ∧
    LoggerOf (initial .null) [.set (some "loud") none, .enter (some "debug") none,
      .configureLogging none, .leave none, .configureLogging none] ⟨10, 1⟩ ∧
    ((initial .null).after [.set (some "loud") none]).perform (.configureLogging none) =
      ⟨(initial .null).after [.set (some "loud") none],
        .error (.level (.unknown (Text.upper "loud"))), ""⟩ ∧
    Settings.ofEnvironment (some " warn\n") none = .ok ⟨"WARN", true⟩ ∧
    ((initial .null).after [.set (some "WARN") none]).Succeeds none := by
  have henvironment : Settings.ofEnvironment (some " warn\n") none = .ok ⟨"WARN", true⟩ := by rfl
  obtain ⟨_, _, _, hunknown, _⟩ :=
    logger_consistent (initial .null) rfl [.set (some "loud") none]
  obtain ⟨_, _, _, _, hchosen⟩ :=
    logger_consistent (initial .null) rfl [.set (some "WARN") none]
  exact ⟨rfl, (logger_consistent (initial .null) rfl _).1, hunknown none "loud" rfl (by decide),
    henvironment, hchosen _ _ henvironment⟩

end Session.State

end DocPath
