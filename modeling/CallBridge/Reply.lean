import CallBridge.Event

/-!
Operations and what they come to: a result or an error, the events reported on the way, and the
state afterwards. An operation can also fail by an overflow, for which there is no error.
-/

namespace CallBridge

/-- How an operation ended. -/
inductive Verdict (ε α : Type) where
  | ok (a : α)
  | error (e : ε)
  | overflow (o : Overflow)
deriving DecidableEq, Repr

def Verdict.map {ε α γ : Type} (f : α → γ) : Verdict ε α → Verdict ε γ
  | ok a => .ok (f a)
  | error e => .error e
  | overflow o => .overflow o

structure Reply (ε σ α : Type) where
  answer : Verdict ε α
  events : List Event
  state : σ

namespace Reply

variable {ε σ τ α γ : Type}

def ok (a : α) (events : List Event) (s : σ) : Reply ε σ α where
  answer := .ok a
  events
  state := s

def refuse (e : ε) (events : List Event) (s : σ) : Reply ε σ α where
  answer := .error e
  events
  state := s

/-- Stop at an overflow. -/
def stop (o : Overflow) (events : List Event) (s : σ) : Reply ε σ α where
  answer := .overflow o
  events
  state := s

def map (f : α → γ) (r : Reply ε σ α) : Reply ε σ γ where
  answer := r.answer.map f
  events := r.events
  state := r.state

/-- The same reply seen from a larger state. -/
def within (put : σ → τ) (r : Reply ε σ α) : Reply ε τ α where
  answer := r.answer
  events := r.events
  state := put r.state

@[simp] theorem ok_answer (a : α) (l : List Event) (s : σ) :
    (ok a l s : Reply ε σ α).answer = .ok a := rfl

@[simp] theorem ok_state (a : α) (l : List Event) (s : σ) :
    (ok a l s : Reply ε σ α).state = s := rfl

@[simp] theorem refuse_answer (e : ε) (l : List Event) (s : σ) :
    (refuse e l s : Reply ε σ α).answer = .error e := rfl

@[simp] theorem refuse_state (e : ε) (l : List Event) (s : σ) :
    (refuse e l s : Reply ε σ α).state = s := rfl

@[simp] theorem stop_answer (o : Overflow) (l : List Event) (s : σ) :
    (stop o l s : Reply ε σ α).answer = .overflow o := rfl

@[simp] theorem stop_state (o : Overflow) (l : List Event) (s : σ) :
    (stop o l s : Reply ε σ α).state = s := rfl

end Reply

end CallBridge
