import DocPath.Raised

/-! What an operation does: the events it reports, in order, and how it ends.

Events are kept whether or not anyone listens, and those before a failure survive it. -/
namespace DocPath

/-- Something worth a line in the debug log. -/
inductive Event where
  | rejected (path : String) (index : Nat)
  | parsed (path : String) (keys : List String)
  /-- A getter failed, and its attribute counts as missing. -/
  | getterFailed (key className : String) (raised : Raised)
  /-- Keys were left when the walk had already lost its way. -/
  | missingBefore (key : String)
  deriving DecidableEq

def Event.message : Event → String
  | .rejected path index => "grammar: rejected " ++ Text.quoted path ++ " at " ++ toString index
  | .parsed path keys => "parse: " ++ Text.quoted path ++ " -> " ++ Text.quotedList keys
  | .getterFailed key className raised =>
    "adapter: attribute " ++ Text.quoted key ++ " of " ++ className ++ " raised " ++ raised.display
  | .missingBefore key => "traverse: missing before key " ++ Text.quoted key

structure Trace (ε α : Type) where
  events : List Event
  outcome : Except ε α

namespace Trace

variable {ε ε' α β : Type}

def pure (a : α) : Trace ε α := ⟨[], .ok a⟩

/-- Goes on after a success; the events of both parts are kept. -/
def bind (t : Trace ε α) (f : α → Trace ε β) : Trace ε β :=
  match t.outcome with
  | .ok a =>
    let next := f a
    ⟨t.events ++ next.events, next.outcome⟩
  | .error e => ⟨t.events, .error e⟩

instance : Monad (Trace ε) where
  pure := pure
  bind := bind

def fail (e : ε) : Trace ε α := ⟨[], .error e⟩

def report (e : Event) : Trace ε Unit := ⟨[e], .ok ()⟩

/-- An outcome without events. -/
def lift (r : Except ε α) : Trace ε α := ⟨[], r⟩

def mapError (f : ε → ε') (t : Trace ε α) : Trace ε' α := ⟨t.events, t.outcome.mapError f⟩

/-- The outcome does not depend on what was reported on the way. -/
theorem outcome_bind (t : Trace ε α) (f : α → Trace ε β) :
    (t >>= f).outcome = t.outcome >>= fun a => (f a).outcome := by
  obtain ⟨events, outcome⟩ := t
  cases outcome <;> rfl

theorem events_bind_of_ok {t : Trace ε α} {a : α} (h : t.outcome = .ok a) (f : α → Trace ε β) :
    (t >>= f).events = t.events ++ (f a).events := by
  simp only [Bind.bind, bind, h]

theorem bind_of_error {t : Trace ε α} {e : ε} (h : t.outcome = .error e) (f : α → Trace ε β) :
    t >>= f = ⟨t.events, .error e⟩ := by
  simp only [Bind.bind, bind, h]

/-- What comes after a trace only matters where the trace succeeds. -/
theorem bind_congr_of_ok {t : Trace ε α} {f g : α → Trace ε β}
    (h : ∀ a, t.outcome = .ok a → f a = g a) : t >>= f = t >>= g := by
  obtain ⟨events, outcome⟩ := t
  cases outcome with
  | error e => rfl
  | ok a => simp only [Bind.bind, bind, h a rfl]

theorem map_lift (f : α → β) (r : Except ε α) : f <$> (lift r : Trace ε α) = lift (r.map f) := by
  cases r <;> rfl

theorem outcome_map (f : α → β) (t : Trace ε α) : (f <$> t).outcome = t.outcome.map f := by
  obtain ⟨events, outcome⟩ := t
  cases outcome <;> rfl

theorem events_map (f : α → β) (t : Trace ε α) : (f <$> t).events = t.events := by
  obtain ⟨events, outcome⟩ := t
  cases outcome
  · rfl
  · exact List.append_nil events

instance : LawfulMonad (Trace ε) := LawfulMonad.mk' (Trace ε)
  (by
    rintro α ⟨events, outcome⟩
    cases outcome <;> simp [Functor.map, bind, pure])
  (by intro α β a f; simp [Bind.bind, Pure.pure, bind, pure])
  (by
    rintro α β γ ⟨events, outcome⟩ f g
    cases outcome with
    | error e => rfl
    | ok a =>
      simp only [Bind.bind, bind]
      cases (f a).outcome <;> simp)

end Trace

end DocPath
