import DocPath.Session

/-! Settings are properly scoped.

A scope saves the settings when it is entered. As long as the scopes inside it are left in the order
of a stack (`Nested`), it is the first of the open ones again when it is left (`scopes_after`), so
it brings back exactly what it saved (`restored_of_nested`). That is one and the same step after
steps that succeeded, after steps that failed, and with an error on its way out. The logger and the
document are not part of this, they stay as the steps inside left them.

Only some steps concern the settings at all. The others can change nothing but the logger and the
document (`perform_other`), which those never read (`SameScoping.perform`). So the settings that a
run goes through are those that these steps alone go through (`trajectory_filter`). -/
namespace DocPath.Session

/-! ### Kinds of steps -/

namespace Step

def opens : Step → Bool
  | .enter _ _ | .enterFixture => true
  | _ => false

def leaves : Step → Bool
  | .leave _ => true
  | _ => false

/-- Assigning settings, entering a scope, and leaving one. -/
def concernsSettings : Step → Bool
  | .set _ _ | .enter _ _ | .enterFixture | .leave _ => true
  | _ => false

end Step

/-- Steps in which every scope that is entered is left again, the last one entered first. The number
is that of the scopes that are open before them, since a position may be counted from the first. -/
inductive Nested : Nat → List Step → Prop where
  | nil {count : Nat} : Nested count []
  | step {count : Nat} {step : Step} {rest : List Step} : step.opens = false →
      step.leaves = false → Nested count rest → Nested count (step :: rest)
  | scope {count : Nat} {entry : Step} {body : List Step} {position : Option Int}
      {rest : List Step} : entry.opens = true → Nested (count + 1) body →
      placeOf position (count + 1) = 0 → Nested count rest →
      Nested count (entry :: body ++ .leave position :: rest)

namespace State

/-! ### One step -/

/-- A step that does not concern the settings changes the logger and the document at most. -/
theorem perform_other (s : State) {step : Step} (h : step.concernsSettings = false) :
    ∃ logger document, (s.perform step).state = { s with logger, document } := by
  cases step with
  | set _ _ | enter _ _ | enterFixture | leave _ => cases h
  | operation _ | log _ _ _ | defaultAdapters | document => exact ⟨s.logger, s.document, rfl⟩
  | configureLogging level =>
    rw [perform]
    cases s.logger.configure s.settings level with
    | ok logger => exact ⟨logger, s.document, rfl⟩
    | error e => exact ⟨s.logger, s.document, rfl⟩
  | assign path value =>
    simp only [perform]
    split
    case h_1 a _ => exact ⟨s.logger, a.document, rfl⟩
    all_goals exact ⟨s.logger, s.document, rfl⟩

theorem perform_opens (s : State) {entry : Step} (h : entry.opens = true) :
    ∃ kind, (s.perform entry).state.scopes = ⟨kind, s.settings⟩ :: s.scopes := by
  cases entry with
  | enter logLevel attributeAccess => exact ⟨.environment, rfl⟩
  | enterFixture => exact ⟨.fixture, rfl⟩
  | _ => cases h

/-- Leaving the first of the open scopes brings its settings back. -/
theorem perform_leave {s : State} {scope : Scope} {scopes : List Scope} {position : Option Int}
    (hscopes : s.scopes = scope :: scopes) (hplace : placeOf position (scopes.length + 1) = 0) :
    s.perform (.leave position) =
      quietly { s with settings := scope.saved, scopes } (.ok scope.answer) := by
  have htake : takeScope position s.scopes = .ok (scope, scopes) := by
    rw [hscopes, takeScope, List.length_cons, hplace]
    rfl
  rw [perform, htake]

theorem scopes_perform (s : State) {step : Step} (hopens : step.opens = false)
    (hleaves : step.leaves = false) : (s.perform step).state.scopes = s.scopes := by
  cases hconcerns : step.concernsSettings with
  | false =>
    obtain ⟨logger, document, hstate⟩ := s.perform_other hconcerns
    rw [hstate]
  | true =>
    cases step with
    | set logLevel attributeAccess => rfl
    | enter _ _ | enterFixture => cases hopens
    | leave _ => cases hleaves
    | _ => cases hconcerns

/-! ### Runs in which scopes are nested -/

/-- Such a run leaves open what was open before it. -/
theorem scopes_after {count : Nat} {steps : List Step} (h : Nested count steps) (s : State)
    (hcount : s.scopes.length = count) : (s.after steps).scopes = s.scopes := by
  induction h generalizing s with
  | nil => rfl
  | @step count step rest hopens hleaves _ ih =>
    have hstep := s.scopes_perform hopens hleaves
    rw [after, ih _ (by rw [hstep, hcount]), hstep]
  | @scope count entry body position rest hopens _ hplace _ ihbody ihrest =>
    obtain ⟨kind, hentry⟩ := s.perform_opens hopens
    -- The body starts with this scope in front of the others, and so it ends.
    have hbody := ihbody (s.perform entry).state (by rw [hentry, List.length_cons, hcount])
    rw [hentry] at hbody
    have hleave := perform_leave hbody (by rw [hcount]; exact hplace)
    rw [List.cons_append, after, after_append, after, hleave]
    exact ihrest _ hcount

/-- What is the case when a scope is left: the settings and the open scopes are those from before it
was entered, and all else is as it was inside. -/
structure Restored (before inside : State) (exit : Outcome) : Prop where
  settings : exit.state.settings = before.settings
  scopes : exit.state.scopes = before.scopes
  logger : exit.state.logger = inside.logger
  document : exit.state.document = inside.document
  succeeds : ∃ answer, exit.result = .ok answer

theorem restored_of_nested (s : State) {entry : Step} {body : List Step} {position : Option Int}
    (hopens : entry.opens = true) (hbody : Nested (s.scopes.length + 1) body)
    (hplace : placeOf position (s.scopes.length + 1) = 0) :
    Restored s ((s.perform entry).state.after body)
      (((s.perform entry).state.after body).perform (.leave position)) := by
  obtain ⟨kind, hentry⟩ := s.perform_opens hopens
  have hscopes := scopes_after hbody (s.perform entry).state (by rw [hentry, List.length_cons])
  rw [hentry] at hscopes
  rw [perform_leave hscopes hplace]
  exact ⟨rfl, rfl, rfl, rfl, _, rfl⟩

/-! ### What the settings depend on -/

/-- Two states with the same settings, now and in the scopes that are open. -/
structure SameScoping (s s' : State) : Prop where
  settings : s.settings = s'.settings
  scopes : s.scopes = s'.scopes

theorem SameScoping.perform {s s' : State} (h : SameScoping s s') {step : Step}
    (hconcerns : step.concernsSettings = true) :
    SameScoping (s.perform step).state (s'.perform step).state := by
  obtain ⟨settings, logger, scopes, document⟩ := s
  obtain ⟨settings', logger', scopes', document'⟩ := s'
  obtain rfl : settings = settings' := h.settings
  obtain rfl : scopes = scopes' := h.scopes
  cases step with
  | set _ _ | enter _ _ | enterFixture => exact ⟨rfl, rfl⟩
  | leave position =>
    simp only [State.perform]
    cases takeScope position scopes <;> exact ⟨rfl, rfl⟩
  | _ => cases hconcerns

theorem SameScoping.perform_other {s s' : State} (h : SameScoping s s') {step : Step}
    (hconcerns : step.concernsSettings = false) : SameScoping (s.perform step).state s' := by
  obtain ⟨logger, document, hstate⟩ := s.perform_other hconcerns
  rw [hstate]
  exact ⟨h.settings, h.scopes⟩

/-- Each step of a run with the settings after it. -/
def trajectory (s : State) : List Step → List (Step × Settings)
  | [] => []
  | step :: rest =>
    let next := (s.perform step).state
    (step, next.settings) :: next.trajectory rest

theorem SameScoping.after_filter {s s' : State} (h : SameScoping s s') (steps : List Step) :
    SameScoping (s.after steps) (s'.after (steps.filter Step.concernsSettings)) := by
  induction steps generalizing s s' with
  | nil => exact h
  | cons step rest ih =>
    cases hconcerns : step.concernsSettings with
    | true =>
      rw [List.filter_cons_of_pos hconcerns]
      exact ih (h.perform hconcerns)
    | false =>
      rw [List.filter_cons_of_neg (by simp [hconcerns])]
      exact ih (h.perform_other hconcerns)

theorem SameScoping.trajectory_filter {s s' : State} (h : SameScoping s s') (steps : List Step) :
    s'.trajectory (steps.filter Step.concernsSettings) =
      (s.trajectory steps).filter fun point => point.1.concernsSettings := by
  induction steps generalizing s s' with
  | nil => rfl
  | cons step rest ih =>
    simp only [trajectory, List.filter_cons]
    cases hconcerns : step.concernsSettings with
    | true =>
      have hstep := h.perform hconcerns
      simp only [if_true, trajectory]
      rw [ih hstep, hstep.settings]
    | false => exact ih (h.perform_other hconcerns)

/-- **Settings are properly scoped in every run.** When a scope is left, and those inside it were
left in the order of a stack, the settings are exactly those from just before it was entered,
whatever steps were taken in between and whichever of them failed, while the logger and the document
are as these steps left them. And the settings that a run goes through depend on nothing but its
assignments, entries and exits: without the other steps it has the same settings after each of these
and at its end. -/
theorem settings_scoped (s : State) :
    (∀ (entry : Step) (body : List Step) (position : Option Int), entry.opens = true →
      Nested (s.scopes.length + 1) body → placeOf position (s.scopes.length + 1) = 0 →
      Restored s ((s.perform entry).state.after body)
        (((s.perform entry).state.after body).perform (.leave position))) ∧
    (∀ steps : List Step,
      s.trajectory (steps.filter Step.concernsSettings) =
        (s.trajectory steps).filter (fun point => point.1.concernsSettings)) ∧
    (∀ steps : List Step,
      (s.after steps).settings = (s.after (steps.filter Step.concernsSettings)).settings) := by
  have hself : SameScoping s s := ⟨rfl, rfl⟩
  refine ⟨?_, hself.trajectory_filter, fun steps => (hself.after_filter steps).settings⟩
  intro entry body position hopens hbody hplace
  exact s.restored_of_nested hopens hbody hplace

/-- A fixture in an environment, with an assignment in it of a level that then cannot be set; the
environment is left by its position among all scopes. -/
theorem settings_scoped_fixture_inside :
    Nested 1 [.configureLogging none, .enterFixture, .set (some "no level") (some true),
      .configureLogging none, .leave none] ∧
    Restored (.initial .null)
      (((initial .null).perform (.enter (some "debug") (some false))).state.after
        [.configureLogging none, .enterFixture, .set (some "no level") (some true),
          .configureLogging none, .leave none])
      ((((initial .null).perform (.enter (some "debug") (some false))).state.after
        [.configureLogging none, .enterFixture, .set (some "no level") (some true),
          .configureLogging none, .leave none]).perform (.leave (some 0))) := by
  have hfixture : Nested 2 [.set (some "no level") (some true), .configureLogging none] :=
    .step rfl rfl (.step rfl rfl .nil)
  have hnested : Nested 1 [.configureLogging none, .enterFixture,
      .set (some "no level") (some true), .configureLogging none, .leave none] :=
    .step rfl rfl (@Nested.scope 1 .enterFixture _ none [] rfl hfixture rfl .nil)
  exact ⟨hnested, (settings_scoped (.initial .null)).1 _ _ _ rfl hnested rfl⟩

end State

end DocPath.Session
