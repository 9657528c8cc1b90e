import CallBridge.HostBackend
import CallBridge.Script.Sample

/-!
Scripts: steps that use the library, and callback bodies that are scripts themselves.
-/

namespace CallBridge.Script

/-- A word, or the address of a copy of some bytes. -/
inductive Operand where
  | word (w : Word)
  | text (bytes : List UInt8)
deriving DecidableEq, Repr

/-- An address, given directly or under the name it was saved. -/
inductive Spot where
  | word (w : Word)
  | saved (name : String)
deriving DecidableEq, Repr

/-- An identity, given directly or as that of a shared callback of a name. -/
inductive IdentitySpot where
  | given (i : Identity)
  | shared (id : String)
deriving DecidableEq, Repr

/-- An argument block in which all words but the listed ones are zero. -/
structure BlockPlan where
  words : List (Nat × Operand)
  length : Nat := maxFrameWords
deriving DecidableEq, Repr

/-- The native functions that scripts call. -/
inductive Target where
  | null
  /-- Returns two words. -/
  | words
  /-- Returns a float. -/
  | float
deriving DecidableEq, Repr

/-- What a called function leaves behind. -/
structure Returns where
  r1 : Operand := .word 0
  r2 : Operand := .word 0
  f0 : Word := 0
  errno : Option Int := none
deriving DecidableEq, Repr

inductive TypedForm where
  | withErrno
  | plain
  | undeclared
deriving DecidableEq, Repr

inductive CallRequest where
  | typed (params : List Kind) (args : List Value) (result : Option Kind) (form : TypedForm)
  | words (args : List Operand)
  | frame (ints floats : List Operand)

structure OutboundCall where
  target : Target
  returns : Returns := {}
  priorErrno : Int := 0
  /-- Integer words that are to be seen as strings. -/
  strings : List Nat := []
  request : CallRequest

/-- How a scripted body ends. -/
inductive Finish where
  | panic (text : String)
  | argument (i : Nat)
  | constant (v : Option Value)

/-- A host that issues addresses at equal distances and fails where its plan says so. -/
structure HostPlan where
  base : Word := 0x9000
  stride : Word := 16
  capacity : Word := defaultHostCapacity
  /-- Texts of failing requests to register, by their number. -/
  failing : List (Nat × String) := []
  /-- Texts of failing requests to release, by address. -/
  failingRelease : List (Word × String) := []
  /-- Releasing an unknown address succeeds. -/
  lenient : Bool := false

inductive BackendPlan where
  | trampoline (table : EntryTable) (capacity : Nat)
  | host (plan : HostPlan)

mutual

inductive Behaviour where
  | sample (s : Sample)
  | scripted (name : Option String) (steps : List Step) (finish : Finish)

inductive Step where
  | define (id : String) (c : Callback Behaviour)
  | register (c : Callback Behaviour) (name : Option String)
  | registerShared (id : String) (name : Option String)
  | unregister (address : Spot)
  | unregisterShared (id : String)
  | fill (count : Nat) (c : Callback Behaviour)
  | drain (reverse : Bool)
  | capacity
  | live
  | debug
  | dispatch (slot : Nat) (block : BlockPlan)
  | dispatchAddress (address : Spot) (block : BlockPlan)
  | hostInvoke (address : Spot) (block : BlockPlan)
  | lookupAddress (address : Spot)
  | lookupIdentity (identity : IdentitySpot)
  | release (slot : Nat)
  | releaseAddress (address : Spot)
  | releaseIdentity (identity : IdentitySpot)
  | allocate (c : Callback Behaviour) (identity : Option Identity) (entry : Option Word)
  | compile (c : Callback Behaviour) (identity : Option Identity) (name : Option String)
  | compileShared (id : String) (identity : Option Identity) (name : Option String)
  | binding (slot : Nat) (id : Option String)
  | nativeCall (address : Spot) (args : List Operand)
  | nativeFrame (address : Spot) (ints floats : List Operand)
  | nativeTyped (address : Spot) (args : List Value) (result : Option Kind)
  | settings
  | install (s : Settings)
  | start
  | startOrAbort
  | startWith (s : Settings)
  | startLogging
  | startLoggingWith (s : LogSettings)
  | loggingStarted
  | installBackend (plan : BackendPlan)
  | call (c : OutboundCall)
  | emit (e : Event)
  | stats
  | file (path : String)
  | openSelf
  | openLibrary (name : String) (flags : LoadFlags)
  | symbol (name : String)
  | stringLength (text : String)
  | libraryDebug

end

def Sample.callback (s : Sample) : Callback Behaviour :=
  (s.closure (σ := Unit) fun _ => pure ()).describe (.sample s)

end CallBridge.Script
