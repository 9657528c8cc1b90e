import CallBridge.Logging.Subscriber
import CallBridge.Reply

/-!
Computations that change a state, report events, and may stop early. A run keeps its state and its
records however it ends, so that nothing done before a panic is lost.
-/

namespace CallBridge

inductive Panic where
  | violation (v : Violation)
  /-- The first use of the native table panicked. -/
  | poisoned
  | overflow (o : Overflow)
  /-- A log directive was to be cut inside of a character. -/
  | torn (t : Text.Tear)
  /-- The log file cannot be opened; `cause` describes the failure. -/
  | logFile (cause : String)
  /-- A callback body gave up by itself. -/
  | raised (text : String)
deriving DecidableEq

def Panic.message : Panic → String
  | violation v => v.message
  | poisoned => "Lazy instance has previously been poisoned"
  | overflow o => o.message
  | torn t => t.message
  | logFile cause =>
    "initializing rolling file appender failed: InitError \x7b "
      ++ "context: \"failed to create log file\", source: " ++ cause ++ " \x7d"
  | raised text => text

inductive Stop where
  | panic (p : Panic)
  /-- The process ends at once. -/
  | abort
  /-- The bound on nested callback bodies was reached. -/
  | exhausted
deriving DecidableEq

/-- What a run leaves in order: events, and the moment from which on they are written. -/
inductive Record where
  | event (e : Event)
  | subscribed (s : Subscriber)

namespace Record

def event? : Record → Option Event
  | event e => some e
  | subscribed _ => none

def subscriber? : Record → Option Subscriber
  | event _ => none
  | subscribed s => some s

end Record

structure Run (σ α : Type) where
  ended : Except Stop α
  state : σ
  records : List Record

/-- The events of a run in order. -/
def Run.events {σ α : Type} (r : Run σ α) : List Event := r.records.filterMap Record.event?

def Action (σ α : Type) : Type := σ → Run σ α

namespace Action

variable {σ τ α γ : Type}

protected def pure (a : α) : Action σ α := fun s => ⟨.ok a, s, []⟩

protected def bind (x : Action σ α) (f : α → Action σ γ) : Action σ γ := fun s =>
  match x s with
  | ⟨.ok a, s', records⟩ =>
    let r := f a s'
    ⟨r.ended, r.state, records ++ r.records⟩
  | ⟨.error e, s', records⟩ => ⟨.error e, s', records⟩

instance : Monad (Action σ) where
  pure := Action.pure
  bind := Action.bind

def get : Action σ σ := fun s => ⟨.ok s, s, []⟩

def modify (f : σ → σ) : Action σ Unit := fun s => ⟨.ok (), f s, []⟩

def record (r : Record) : Action σ Unit := fun s => ⟨.ok (), s, [r]⟩

def emit (e : Event) : Action σ Unit := record (.event e)

def stop (e : Stop) : Action σ α := fun s => ⟨.error e, s, []⟩

def panic (p : Panic) : Action σ α := stop (.panic p)

/-- Report a violation, then panic. -/
def violate (v : Violation) : Action σ α := do
  emit (.ofViolation v)
  panic (.violation v)

/-- Go on with a result, or with the panic of the violation that stands in its place. -/
def require : Except Violation α → Action σ α
  | .ok a => pure a
  | .error v => violate v

/-- The same where an overflow can stand in the place of the result. -/
def demand : Verdict Violation α → Action σ α
  | .ok a => pure a
  | .error v => violate v
  | .overflow o => panic (.overflow o)

/-- Perform an operation and go on with its result or error; an overflow is a panic. -/
def perform {ε : Type} (f : σ → Reply ε σ α) : Action σ (Except ε α) := fun s =>
  let r := f s
  let ended := match r.answer with
    | .ok a => .ok (.ok a)
    | .error e => .ok (.error e)
    | .overflow o => .error (.panic (.overflow o))
  ⟨ended, r.state, r.events.map .event⟩

/-- Run to the end or up to a panic, which becomes the result. -/
def attempt (x : Action σ α) : Action σ (Except Panic α) := fun s =>
  match x s with
  | ⟨.ok a, s', records⟩ => ⟨.ok (.ok a), s', records⟩
  | ⟨.error (.panic p), s', records⟩ => ⟨.ok (.error p), s', records⟩
  | ⟨.error e, s', records⟩ => ⟨.error e, s', records⟩

/-- Run, and change the state however the run ended. -/
def ensuring (x : Action σ α) (f : σ → σ) : Action σ α := fun s =>
  let r := x s
  ⟨r.ended, f r.state, r.records⟩

@[simp] theorem pure_apply (a : α) (s : σ) : (pure a : Action σ α) s = ⟨.ok a, s, []⟩ := rfl

@[simp] theorem get_apply (s : σ) : (get : Action σ σ) s = ⟨.ok s, s, []⟩ := rfl

@[simp] theorem modify_apply (f : σ → σ) (s : σ) : modify f s = ⟨.ok (), f s, []⟩ := rfl

@[simp] theorem emit_apply (e : Event) (s : σ) : emit e s = ⟨.ok (), s, [.event e]⟩ := rfl

theorem bind_of_ok {x : Action σ α} {f : α → Action σ γ} {s s' : σ} {a : α} {l : List Record}
    (h : x s = ⟨.ok a, s', l⟩) :
    (x >>= f) s = ⟨(f a s').ended, (f a s').state, l ++ (f a s').records⟩ := by
  show Action.bind x f s = _
  simp [Action.bind, h]

theorem bind_of_error {x : Action σ α} {f : α → Action σ γ} {s s' : σ} {e : Stop} {l : List Record}
    (h : x s = ⟨.error e, s', l⟩) : (x >>= f) s = ⟨.error e, s', l⟩ := by
  show Action.bind x f s = _
  simp [Action.bind, h]

end Action

end CallBridge
