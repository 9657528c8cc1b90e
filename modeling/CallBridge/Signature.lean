import CallBridge.Callback
import CallBridge.Placement
import CallBridge.RegistrationError

/-!
Validated signatures. A callback is acceptable if all its parameters are scalars, it has at most
one result, which fits the integer result register, and its parameters fit one argument block.
-/

namespace CallBridge

structure Signature where
  params : List Kind
  result : Option Kind
deriving DecidableEq, Repr

namespace Signature

/-- The kinds of described parameters; the first that is no scalar is reported with its index. -/
def scalars (index : Nat) : List TypeDesc → Except RegistrationError (List Kind)
  | [] => .ok []
  | d :: ds =>
    match d.kind? with
    | some k => (scalars (index + 1) ds).map (k :: ·)
    | none => .error (.unsupportedParameter index d)

def resultOf : List TypeDesc → Except RegistrationError (Option Kind)
  | [] => .ok none
  | [d] =>
    match d.kind? with
    | some k => if k.isReturnable then .ok (some k) else .error (.unsupportedResult d)
    | none => .error (.unsupportedResult d)
  | ds => .error (.tooManyResults ds.length)

/-- Whether every parameter lies within an argument block. -/
def fits (params : List Kind) : Bool := (frameIndices params).all (· < maxFrameWords)

/-- Signature of a callback with the given description. -/
def ofTypes (params results : List TypeDesc) : Except RegistrationError Signature := do
  let params ← scalars 0 params
  let result ← resultOf results
  if fits params then .ok { params, result } else .error (.tooManyParameters params.length)

def of {β : Type} (c : Callback β) : Except RegistrationError Signature :=
  ofTypes c.params c.results

def debug (s : Signature) : String :=
  Text.shownRecord "Signature"
    [("params", Text.shownList Kind.debug s.params), ("ret", Text.shownOption Kind.debug s.result)]

end Signature

end CallBridge
