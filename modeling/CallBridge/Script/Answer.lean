import CallBridge.CallError
import CallBridge.Frame
import CallBridge.Library
import CallBridge.Logging.Line

/-!
What a script reports: the answer of each step, and the notes that callback bodies take.
-/

namespace CallBridge.Script

/-- Why a step failed. -/
inductive Cause where
  | registration (e : RegistrationError)
  | call (e : CallError)
  | settings (e : SettingsError)
  | load (e : LoadError)
  | symbol (e : SymbolError)
  | panic
  /-- A host has no binding at the address. -/
  | noBinding

structure Failure where
  cause : Cause
  message : String

namespace Failure

def ofCall (e : CallError) : Failure where
  cause := .call e
  message := e.message

def ofSettings (e : SettingsError) : Failure where
  cause := .settings e
  message := e.message

def ofPanic (p : Panic) : Failure where
  cause := .panic
  message := p.message

end Failure

/-- A word that native code saw, or the string at it if the script asks for that. -/
inductive SeenWord where
  | word (w : Word)
  | text (bytes : List UInt8)
deriving DecidableEq, Repr

/-- What a native function found when it was entered. -/
structure Seen where
  ints : List SeenWord
  floats : List SeenWord
  errno : Int
deriving Repr

/-- What a frame holds after a call. -/
structure Returned where
  frame : Frame
  /-- The function returned a float. -/
  float : Bool
  /-- The words passed are still in the frame. -/
  kept : Option Bool := none

/-- Outcome of an outbound call, by the way it was made. -/
inductive CallOutcome where
  | failed (f : Failure)
  | value (v : Option Value) (errno : Option Word)
  | frame (r : Returned)

structure CallReport where
  outcome : CallOutcome
  /-- Parameters and result as declared, for a typed call. -/
  declared : Option (List Kind × Option Kind)
  seen : Option Seen
  callsMade : Nat

structure BindingReport where
  params : List Kind
  result : Option Kind
  debug : String
  /-- Whether it holds the shared callback asked about. -/
  same : Option Bool

inductive Answer where
  | failed (f : Failure)
  | nothing
  | truth (b : Bool)
  | text (s : String)
  /-- A number shown in full width, or none. -/
  | word (w : Option Word)
  /-- A small number, or none. -/
  | number (n : Option Nat)
  | value (v : Option Value)
  | allocated (slot : Nat) (address : Word) (reused : Bool)
  | binding (b : Option BindingReport)
  | settings (s : Settings)
  | lines (l : List LogLine)
  /-- How many registrations succeeded, the first and the last address, and what stopped them. -/
  | filled (count : Nat) (ends : Option (Word × Word)) (stopped : Option Failure)
  | called (r : CallReport)

/-- An answer with the number of live registrations after the step, where that is reported. -/
structure Report where
  answer : Answer
  live : Option Word

/-- What callback bodies note when they run. -/
inductive Note where
  | args (values : List Value) (name : Option String)
  | nested (r : Report)
  | string (s : String)
  | unitI32 (i : Int)
  | mix (a : Nat) (x : Nat) (b : Int) (p : Nat)
  | strings (a b : String) (x : Nat) (flag : Bool)
  | wide (floats : List Nat)

end CallBridge.Script
