import DocPath.Operation

/-! Sessions: operations that follow one another on one document.

A session holds the settings, the logger and the document, and the scopes that were entered and
not left. A scope remembers the settings from just before it was entered and brings them back
when it is left, in whatever order that happens. -/
namespace DocPath.Session

/-- How a scope was entered. -/
inductive ScopeKind where
  | environment
  | fixture
  deriving DecidableEq

structure Scope where
  kind : ScopeKind
  saved : Settings
  deriving DecidableEq

structure State where
  settings : Settings
  logger : Log.Logger
  /-- The scopes that are open, the last one entered first. -/
  scopes : List Scope
  document : Value

def State.initial (document : Value) : State := ⟨.initial, .initial, [], document⟩

inductive Step where
  | operation (op : Operation)
  /-- Replaces settings as they are given. -/
  | set (logLevel : Option String) (attributeAccess : Option Bool)
  /-- Enters a scope and replaces settings in it, the level in upper case. -/
  | enter (logLevel : Option String) (attributeAccess : Option Bool)
  | enterFixture
  /-- Leaves a scope, counted from the first one entered; by default the last one. -/
  | leave (position : Option Int)
  | configureLogging (level : Option Value)
  | log (level : Int) (template : String) (args : List Value)
  | defaultAdapters
  | assign (path : String) (value : Value)
  | document

/-- What a step leads to: the state, its result, and what the consoles received. -/
structure Outcome where
  state : State
  result : Except Failure Answer
  console : String

/-! ### Scopes -/

/-- Where a scope stands among the open ones. A negative position counts from the last. -/
def placeOf (position : Option Int) (count : Nat) : Int :=
  match position with
  | none => 0
  | some i => if i < 0 then -i - 1 else count - 1 - i

/-- Takes a scope out of the open ones. -/
def takeScope (position : Option Int) (scopes : List Scope) :
    Except Failure (Scope × List Scope) :=
  let place := placeOf position scopes.length
  if scopes.isEmpty then .error .noScope
  else if place < 0 then .error .scopeOutOfRange
  else match scopes[place.toNat]? with
    | some scope => .ok (scope, scopes.eraseIdx place.toNat)
    | none => .error .scopeOutOfRange

def Scope.answer (scope : Scope) : Answer :=
  match scope.kind with
  | .environment => .left false
  | .fixture => .finished

/-! ### Steps -/

namespace State

def context (s : State) : Context := ⟨s.settings, s.document⟩

def adapters (s : State) : List Adapter := Adapter.defaults s.settings.attributeAccess

/-- Opens a scope and replaces settings in it. -/
def openScope (s : State) (kind : ScopeKind) (logLevel : Option String)
    (attributeAccess : Option Bool) : State :=
  { s with
    settings := s.settings.override logLevel attributeAccess
    scopes := ⟨kind, s.settings⟩ :: s.scopes }

/-- A step that says nothing. -/
def quietly (s : State) (result : Except Failure Answer) : Outcome := ⟨s, result, ""⟩

def perform (s : State) : Step → Outcome
  | .operation op =>
    let trace := op.run s.context
    ⟨s, trace.outcome, s.logger.writeEvents trace.events⟩
  | .set logLevel attributeAccess =>
    quietly { s with settings := s.settings.override logLevel attributeAccess } (.ok .done)
  | .enter logLevel attributeAccess =>
    quietly (s.openScope .environment (logLevel.map Text.upper) attributeAccess) (.ok .done)
  | .enterFixture => quietly (s.openScope .fixture none none) (.ok .done)
  | .leave position => match takeScope position s.scopes with
    | .ok (scope, rest) =>
      quietly { s with settings := scope.saved, scopes := rest } (.ok scope.answer)
    | .error e => quietly s (.error e)
  | .configureLogging level => match s.logger.configure s.settings level with
    | .ok logger => quietly { s with logger } (.ok (.logger Log.Logger.name))
    | .error e => quietly s (.error (.level e))
  | .log level template args => ⟨s, .ok .done, s.logger.log level template args⟩
  | .defaultAdapters => quietly s (.ok (.adapters s.adapters))
  | .assign path value =>
    let trace := DocPath.assign s.adapters path value s.document
    let console := s.logger.writeEvents trace.events
    match trace.outcome with
    | .ok (some a) => ⟨{ s with document := a.document }, .ok (.assigned (some a)), console⟩
    | .ok none => ⟨s, .ok (.assigned none), console⟩
    | .error e => ⟨s, .error (.fault e), console⟩
  | .document => quietly s (.ok (.value s.document))

/-- The state after a list of steps. -/
def after (s : State) : List Step → State
  | [] => s
  | step :: rest => after (s.perform step).state rest

/-- What each step of a list leads to, in order. -/
def outcomes (s : State) : List Step → List Outcome
  | [] => []
  | step :: rest =>
    let outcome := s.perform step
    outcome :: outcomes outcome.state rest

theorem after_append (s : State) (a b : List Step) : s.after (a ++ b) = (s.after a).after b := by
  induction a generalizing s with
  | nil => rfl
  | cons step rest ih => exact ih _

end State

end DocPath.Session
