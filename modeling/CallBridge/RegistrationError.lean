import CallBridge.Identity
import CallBridge.Text.Shown
import CallBridge.TypeDesc

/-!
Why a callback cannot be registered, released or dispatched.
-/

namespace CallBridge

/-- What a registration was looked up by. -/
inductive Lookup where
  | address (a : Word)
  | identity (i : Identity)
deriving DecidableEq, Repr

inductive RegistrationError where
  /-- Parameter `index` is no scalar. -/
  | unsupportedParameter (index : Nat) (found : TypeDesc)
  | unsupportedResult (found : TypeDesc)
  /-- More than one result. -/
  | tooManyResults (count : Nat)
  /-- The parameters do not fit one argument block. -/
  | tooManyParameters (count : Nat)
  | capacityExceeded (capacity : Nat)
  | notFound (lookup : Lookup)
  | slotNotBound (slot : Nat)
  | backendAlreadyInstalled
  | host (text : String)
deriving DecidableEq, Repr

namespace RegistrationError

/-- The message, with function identities written by `identityText`. -/
def messageWith (identityText : Identity → String) : RegistrationError → String
  | unsupportedParameter index found =>
    "Unsupported argument type for parameter " ++ toString index ++ ": " ++ found.text
  | unsupportedResult found => "Unsupported return type: " ++ found.text
  | tooManyResults count =>
    "Callbacks can return at most one value, found " ++ toString count
  | tooManyParameters count =>
    toString count ++ " parameters overflow the callback argument block"
  | capacityExceeded capacity =>
    "The maximum number of callbacks (" ++ toString capacity ++ ") has been reached"
  | notFound (.address a) => "Callback not found at address " ++ a.hex
  | notFound (.identity i) => "Callback not found for function identity " ++ identityText i
  | slotNotBound slot => "Trampoline slot " ++ toString slot ++ " is not bound"
  | backendAlreadyInstalled => "A callback backend is already installed"
  | host text => "Host callback backend error: " ++ text

def message (e : RegistrationError) : String := e.messageWith Identity.text

def debug : RegistrationError → String
  | unsupportedParameter index found =>
    Text.shownRecord "UnsupportedArgumentType" [("index", toString index), ("found", found.debug)]
  | unsupportedResult found => Text.shownRecord "UnsupportedReturnType" [("found", found.debug)]
  | tooManyResults count => Text.shownRecord "UnsupportedReturnArity" [("count", toString count)]
  | tooManyParameters count => Text.shownRecord "TooManyParameters" [("count", toString count)]
  | capacityExceeded capacity =>
    Text.shownRecord "CapacityExceeded" [("capacity", toString capacity)]
  | notFound (.address a) => "CallbackNotFound(Address(" ++ a.decimal ++ "))"
  | notFound (.identity i) => "CallbackNotFound(Identity(" ++ i.debug ++ "))"
  | slotNotBound slot => Text.shownRecord "SlotNotBound" [("slot", toString slot)]
  | backendAlreadyInstalled => "BackendAlreadyInstalled"
  | host text => "Host(" ++ Text.quoted text ++ ")"

end RegistrationError

end CallBridge
