import DocPath.Path.Rejection
import DocPath.Raised

/-! What can end a walk through a document. A key that is not there is no fault. -/
namespace DocPath

inductive Fault where
  | malformed (r : Path.Rejection)
  /-- The parent of a document itself was asked for. -/
  | selfReference
  /-- A mapping claimed to contain a key and did not deliver. -/
  | keyNotFound (key : String)
  /-- A numeral with more digits than are ever converted. -/
  | tooManyDigits (count : Nat)
  /-- A range with more items than can be counted. -/
  | rangeTooLong
  /-- A getter ended the run. -/
  | interrupted (r : Raised)
  deriving DecidableEq

/-- The kind of a fault, by name. A getter that ended the run gives its own. -/
def Fault.kind : Fault → String
  | .malformed _ => Path.Report.kind
  | .selfReference => "TraversalError"
  | .keyNotFound _ => "KeyError"
  | .tooManyDigits _ => "ValueError"
  | .rangeTooLong => "OverflowError"
  | .interrupted r => r.kind

/-- The most digits a numeral may have. -/
def digitLimit : Nat := 4300

/-- The most items a sequence may have: 2^63 - 1. -/
def lengthLimit : Nat := 9223372036854775807

def Fault.message : Fault → String
  | .malformed r => r.report.message
  | .selfReference => "can not traverse to parent on self reference"
  | .keyNotFound key => Text.quoted key
  | .tooManyDigits count =>
    "Exceeds the limit (" ++ toString digitLimit ++
      " digits) for integer string conversion: value has " ++ toString count ++
      " digits; use sys.set_int_max_str_digits() to increase the limit"
  | .rangeTooLong => "Python int too large to convert to C ssize_t"
  | .interrupted r => r.message

end DocPath
