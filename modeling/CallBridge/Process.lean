import CallBridge.Backend
import CallBridge.Frame
import CallBridge.Library
import CallBridge.Settings.Environment

/-!
What one process shares: its settings, which are read once, the backend that callbacks are
registered with, which is chosen once, and the state around native calls. `ε` is whatever the
program that uses the library keeps besides.
-/

namespace CallBridge

/-- Callbacks behind the library's own table, which comes to life with its first use. -/
inductive NativeTable (β : Type) where
  | untouched
  /-- The first use panicked, and so does every later one. -/
  | poisoned
  | ready (t : Trampoline β)

inductive Choice (β η : Type) where
  | native
  | installed (b : Backend β η)

structure Process (β η ε : Type) where
  environment : Environment := {}
  files : FileTree
  /-- How settings are written in files. -/
  format : Settings.Format := Toml.library.format
  /-- Address of the library's own table. -/
  nativeBase : Word
  settings : Option Settings := none
  loggingStarted : Bool := false
  native : NativeTable β := .untouched
  choice : Option (Choice β η) := none
  errno : BitVec 32 := 0
  stats : Stats := {}
  memory : Memory := {}
  client : ε

namespace Process

variable {β η ε α : Type}

/-- The settings in effect. The first use reads the environment; if that fails the defaults are in
effect from then on, but a capacity out of range is fatal each time. -/
def readSettings : Action (Process β η ε) Settings := do
  let p ← Action.get
  match p.settings with
  | some s => pure s
  | none =>
    match Settings.ofEnvironment p.environment p.files p.format with
    | .ok s => do
      Action.modify fun p => { p with settings := some s }
      pure s
    | .error (.capacity n) => Action.violate (.configuredCapacity n)
    | .error e => do
      Action.emit (.settingsRejected e)
      Action.modify fun p => { p with settings := some {} }
      pure {}

/-- Put settings into effect, unless some are already. -/
def install (s : Settings) : Action (Process β η ε) (Except SettingsError Unit) := do
  let p ← Action.get
  match s.validate with
  | .error e => pure (.error e)
  | .ok () =>
    if p.settings.isSome then pure (.error .alreadyInstalled) else do
      Action.modify fun p => { p with settings := some s }
      pure (.ok ())

/-- The trampoline over the library's own table, with the capacity of the settings that are in
effect at its first use. -/
def nativeTrampoline : Action (Process β η ε) (Trampoline β) := do
  let p ← Action.get
  match p.native with
  | .ready t => pure t
  | .poisoned => Action.panic .poisoned
  | .untouched =>
    let made ← Action.attempt do
      let s ← readSettings
      Action.demand (Trampoline.create (.native p.nativeBase) (min s.capacity maxCallbacks))
    match made with
    | .ok t => do
      Action.modify fun p => { p with native := .ready t }
      pure t
    | .error e => do
      Action.modify fun p => { p with native := .poisoned }
      Action.panic e

/-- The backend chosen, as it is now. -/
def backend? (p : Process β η ε) : Option (Backend β η) :=
  match p.choice, p.native with
  | some (.installed b), _ => some b
  | some .native, .ready t => some (.trampoline t)
  | _, _ => none

/-- Put back the backend chosen after it has changed. -/
def setBackend (b : Backend β η) (p : Process β η ε) : Process β η ε :=
  match p.choice, b with
  | some (.installed _), b => { p with choice := some (.installed b) }
  | some .native, .trampoline t => { p with native := .ready t }
  | _, _ => p

/-- Choose a backend before any other is chosen. -/
def installBackend [Registrar η β] (b : Backend β η) :
    Action (Process β η ε) (Except RegistrationError Unit) := do
  let p ← Action.get
  if p.choice.isSome then pure (.error .backendAlreadyInstalled) else do
    Action.modify fun p => { p with choice := some (.installed b) }
    Action.emit (.backendInstalled b.capacity)
    pure (.ok ())

/-- The backend chosen. If there is none yet, that is the library's own table. -/
def backend : Action (Process β η ε) (Backend β η) := do
  let p ← Action.get
  match p.choice with
  | some (.installed b) => pure b
  | some .native => do
    let t ← nativeTrampoline
    pure (.trampoline t)
  | none => do
    let t ← nativeTrampoline
    Action.modify fun p => { p with choice := some .native }
    pure (.trampoline t)

/-- Perform an operation on the backend chosen. -/
def onBackend (f : Backend β η → Reply RegistrationError (Backend β η) α) :
    Action (Process β η ε) (Except RegistrationError α) := do
  let b ← backend
  Action.perform fun p => (f b).within fun b => p.setBackend b

variable [Registrar η β]

/-- Register a callback; the address at which native code calls it. -/
def register (c : Callback β) : Action (Process β η ε) (Except RegistrationError Word) :=
  onBackend (·.register c)

/-- Register by identity: the same shared callback always has the same address. -/
def registerShared (s : SharedCallback β) :
    Action (Process β η ε) (Except RegistrationError Word) :=
  onBackend (·.registerShared s)

def unregister (address : Word) : Action (Process β η ε) (Except RegistrationError Unit) :=
  onBackend (·.unregister address)

def unregisterShared (identity : Identity) :
    Action (Process β η ε) (Except RegistrationError Unit) :=
  onBackend (·.unregisterShared identity)

end Process

end CallBridge
