import CallBridge.Level
import CallBridge.RegistrationError
import CallBridge.Violation

/-!
What the library reports while it works. An event has a level, a name, fields in a fixed order and
a message.
-/

namespace CallBridge

inductive Event where
  | nativeCall (function : Word)
  | nativeReturn (function r1 err : Word)
  | libraryLoaded (library : String)
  | symbolResolved (library symbol : String) (address : Word)
  | callbackRegistered (slot : Nat) (address : Word)
  | callbackReleased (slot : Nat) (address : Word)
  | callbackDeduplicated (address : Word)
  | callbackRejected (error : RegistrationError)
  | callbackInvoked (slot : Nat)
  | callbackResultDropped (kind : String)
  | capacityExhausted (capacity : Nat)
  | hostCallbackRegistered (address : Word)
  | hostCallbackReleased (address : Word)
  | backendInstalled (capacity : Nat)
  | dispatchFailed (error : RegistrationError)
  | invariantViolated (what detail : String)
  | logFileUnusable (path error : String)
  | settingsRejected (error : SettingsError)
deriving DecidableEq, Repr

/-- What a field of an event holds. Addresses are numbers that a reader may want to see relative to
something; a plain text is shown as it is where other texts are quoted. -/
inductive FieldValue where
  | text (s : String)
  | plain (s : String)
  | number (n : Nat)
  | address (w : Word)
deriving DecidableEq, Repr

namespace Event

def ofViolation (v : Violation) : Event := invariantViolated v.what v.detail

def level : Event → Level
  | nativeCall _ | nativeReturn .. | callbackDeduplicated _ | callbackInvoked _ => .trace
  | libraryLoaded _ | symbolResolved .. | callbackRegistered .. | callbackReleased ..
  | hostCallbackRegistered _ | hostCallbackReleased _ => .debug
  | backendInstalled _ => .info
  | callbackRejected _ | callbackResultDropped _ | capacityExhausted _ | logFileUnusable ..
  | settingsRejected _ => .warn
  | dispatchFailed _ | invariantViolated .. => .error

def name : Event → String
  | nativeCall _ => "native_call"
  | nativeReturn .. => "native_return"
  | libraryLoaded _ => "library_loaded"
  | symbolResolved .. => "symbol_resolved"
  | callbackRegistered .. => "callback_registered"
  | callbackReleased .. => "callback_released"
  | callbackDeduplicated _ => "callback_deduplicated"
  | callbackRejected _ => "callback_rejected"
  | callbackInvoked _ => "callback_invoked"
  | callbackResultDropped _ => "callback_result_dropped"
  | capacityExhausted _ => "capacity_exhausted"
  | hostCallbackRegistered _ => "host_callback_registered"
  | hostCallbackReleased _ => "host_callback_released"
  | backendInstalled _ => "backend_installed"
  | dispatchFailed _ => "dispatch_failed"
  | invariantViolated .. => "invariant_violation"
  | logFileUnusable .. => "log_file_unusable"
  | settingsRejected _ => "config_rejected"

/-- The fields after the name of the event. -/
def fields : Event → List (String × FieldValue)
  | nativeCall function => [("function", .address function)]
  | nativeReturn function r1 err =>
    [("function", .address function), ("r1", .number r1.toNat), ("err", .number err.toNat)]
  | libraryLoaded library => [("library", .text library)]
  | symbolResolved library symbol address =>
    [("library", .text library), ("symbol", .text symbol), ("address", .address address)]
  | callbackRegistered slot address | callbackReleased slot address =>
    [("slot", .number slot), ("address", .address address)]
  | callbackDeduplicated address | hostCallbackRegistered address
  | hostCallbackReleased address => [("address", .address address)]
  | callbackRejected error | dispatchFailed error => [("error", .plain error.message)]
  | callbackInvoked slot => [("slot", .number slot)]
  | callbackResultDropped kind => [("kind", .text kind)]
  | capacityExhausted capacity | backendInstalled capacity => [("capacity", .number capacity)]
  | invariantViolated what detail => [("what", .text what), ("detail", .text detail)]
  | logFileUnusable path error => [("path", .plain path), ("error", .plain error)]
  | settingsRejected error => [("error", .plain error.message)]

def message : Event → String
  | nativeCall _ => "Calling native function"
  | nativeReturn .. => "Native function returned"
  | libraryLoaded _ => "Library loaded"
  | symbolResolved .. => "Symbol resolved"
  | callbackRegistered .. => "Callback registered"
  | callbackReleased .. => "Callback released"
  | callbackDeduplicated _ => "Callback already registered"
  | callbackRejected _ => "Callback registration rejected"
  | callbackInvoked _ => "Callback invoked"
  | callbackResultDropped _ => "Callback returned a value its signature does not declare"
  | capacityExhausted _ => "Callback table is full"
  | hostCallbackRegistered _ => "Callback registered with host"
  | hostCallbackReleased _ => "Callback released by host"
  | backendInstalled _ => "Callback backend installed"
  | dispatchFailed _ => "Native code called an unusable trampoline"
  | invariantViolated .. => "Internal invariant violated"
  | logFileUnusable .. => "Logging to stderr instead"
  | settingsRejected _ => "Using default configuration"

/-- All fields, from the name to the message. -/
def allFields (e : Event) : List (String × FieldValue) :=
  ("event", .text e.name) :: e.fields ++ [("message", .text e.message)]

def fieldNames (e : Event) : List String := e.allFields.map Prod.fst

/-- The part of the library that reports the event. -/
def target : Event → String
  | settingsRejected _ => "nativecall::config"
  | _ => "nativecall::logging"

end Event

end CallBridge
