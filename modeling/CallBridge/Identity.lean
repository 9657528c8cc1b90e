import CallBridge.Word

/-!
What tells one function from another. Every shared callback has an identity of its own, which no
number that a caller gives can equal.
-/

namespace CallBridge

inductive Identity where
  /-- That of the shared callback with this number. -/
  | own (n : Nat)
  /-- One that a caller gives. -/
  | given (w : Word)
deriving DecidableEq, Repr

namespace Identity

def text : Identity → String
  | own n => "#" ++ toString n
  | given w => w.hex

def debug : Identity → String
  | own n => "#" ++ toString n
  | given w => w.decimal

end Identity

end CallBridge
