import CallBridge.Placement
import CallBridge.Text.Shown

/-!
Why an outbound call is refused before the native function is entered.
-/

namespace CallBridge

inductive CallError where
  | argumentCount (expected got : Nat)
  | argumentKind (index : Nat) (expected got : Kind)
  | tooManyArguments (got : Nat)
  | nullFunction
  /-- A string argument contains a NUL. -/
  | invalidString
deriving DecidableEq, Repr

namespace CallError

def message : CallError → String
  | argumentCount expected got =>
    "Expected " ++ toString expected ++ " arguments, got " ++ toString got
  | argumentKind index expected got =>
    "Argument " ++ toString index ++ " should be " ++ expected.name ++ ", got " ++ got.name
  | tooManyArguments got =>
    toString got ++ " arguments do not fit the " ++ toString maxCallArgs ++ "-word call frame"
  | nullFunction => "Function address is null"
  | invalidString => "String argument contains an interior NUL byte"

def debug : CallError → String
  | argumentCount expected got =>
    Text.shownRecord "ArgCountMismatch" [("expected", toString expected), ("got", toString got)]
  | argumentKind index expected got =>
    Text.shownRecord "ArgKindMismatch"
      [("index", toString index), ("expected", expected.debug), ("got", got.debug)]
  | tooManyArguments got => Text.shownRecord "TooManyArgs" [("got", toString got)]
  | nullFunction => "NullFunction"
  | invalidString => "InvalidString"

end CallError

end CallBridge
