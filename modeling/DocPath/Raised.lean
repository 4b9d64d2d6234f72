import DocPath.Text.Quoted

/-! Failures of a getter.

The getter of an attribute is foreign code and may fail. The kind of the failure decides what
becomes of the lookup: an attribute that is not there, a failure to be noted, or an order to stop
that no lookup may hold up. What decides is what the kind descends from, not its name. Anyone may
derive kinds of their own under any name, so a failure says itself to which family it belongs. -/
namespace DocPath

/-- What the kind of a failure descends from. -/
inductive Raised.Family where
  /-- The getter itself found no such attribute. -/
  | absence
  /-- The getter went wrong in any other way. -/
  | ordinary
  /-- The getter did not go wrong; the whole run is to end. -/
  | fatal
  deriving DecidableEq

/-- A failure: its kind by name, its text, and the family of its kind. -/
structure Raised where
  kind : String
  message : String
  family : Raised.Family
  deriving DecidableEq

namespace Raised

/-- The kinds that every program has without defining them and that are orders to stop. -/
def fatalKinds : List String :=
  ["BaseException", "BaseExceptionGroup", "GeneratorExit", "KeyboardInterrupt", "SystemExit"]

/-- The family of a kind that every program has without defining it. -/
def Family.ofBuiltIn (kind : String) : Family :=
  if kind = "AttributeError" then .absence
  else if fatalKinds.contains kind then .fatal
  else .ordinary

/-- A failure of a kind that every program has without defining it. -/
def builtIn (kind message : String) : Raised := ⟨kind, message, .ofBuiltIn kind⟩

/-- The failure as messages show it. -/
def display (r : Raised) : String := r.kind ++ "(" ++ Text.quoted r.message ++ ")"

end Raised

end DocPath
