import CallBridge.Settings
import CallBridge.Text.Shown
import CallBridge.Value

/-!
Broken promises that no caller can mend. Each is logged and then ends the operation in a panic.
-/

namespace CallBridge

inductive Violation where
  | zeroCapacity
  /-- The configured capacity is outside its range. -/
  | configuredCapacity (n : Nat)
  | blockOverrun (index length : Nat)
  | argumentMismatch (found expected : Kind)
  | missingArgument
  | unsupportedResult (kind : Kind)
  | resultMismatch (declared : Kind) (produced : Option Value)
deriving DecidableEq

namespace Violation

/-- What the log entry names. -/
def what : Violation → String
  | zeroCapacity => "callback capacity must be at least 1"
  | configuredCapacity _ => "callback capacity"
  | blockOverrun .. => "argument block read out of range"
  | argumentMismatch .. => "callback argument kind mismatch"
  | missingArgument => "callback invoked with too few arguments"
  | unsupportedResult _ => "unsupported callback result kind"
  | resultMismatch .. => "callback result does not match its signature"

/-- What the log entry adds. -/
def detail : Violation → String
  | zeroCapacity => "0"
  | configuredCapacity n => (SettingsError.capacity n).message
  | blockOverrun .. | missingArgument => ""
  | argumentMismatch found _ => found.name
  | unsupportedResult kind => kind.name
  | resultMismatch declared _ => declared.name

/-- The text of the panic. -/
def message : Violation → String
  | zeroCapacity => "nativecall: callback capacity must be at least 1"
  | configuredCapacity n => (SettingsError.capacity n).message
  | blockOverrun index length =>
    "nativecall: argument word " ++ toString index ++ " outside a " ++ toString length
      ++ "-word block"
  | argumentMismatch found expected =>
    "nativecall: callback argument decoded as " ++ found.name ++ ", closure expects "
      ++ expected.name
  | missingArgument => "nativecall: callback invoked with too few arguments"
  | unsupportedResult kind => "nativecall: unsupported callback result kind: " ++ kind.name
  | resultMismatch declared produced =>
    "nativecall: callback declared a " ++ declared.name ++ " result but produced "
      ++ Text.shownOption Value.debug produced

end Violation

/-- The result word of a value. Registration keeps kinds out that have none. -/
def Value.resultWord (v : Value) : Except Violation Word :=
  if v.kind.isReturnable then
    match v.word? with
    | some w => .ok w
    | none => .error (.unsupportedResult v.kind)
  else .error (.unsupportedResult v.kind)

end CallBridge
