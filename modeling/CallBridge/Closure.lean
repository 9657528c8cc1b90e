import CallBridge.Action
import CallBridge.Callback

/-!
Closures over typed arguments. Decoded values are converted in order and the first that is missing
or of another kind ends the call; values beyond the parameters are ignored.
-/

namespace CallBridge

/-- One datum for each kind. -/
def Args : List Kind → Type
  | [] => Unit
  | k :: ks => k.Carrier × Args ks

namespace Args

def ofValues : (ks : List Kind) → List Value → Except Violation (Args ks)
  | [], _ => .ok ()
  | _ :: _, [] => .error .missingArgument
  | k :: ks, v :: vs =>
    if h : v.kind = k then
      match ofValues ks vs with
      | .ok rest => .ok (h ▸ v.data, rest)
      | .error e => .error e
    else .error (.argumentMismatch v.kind k)

def toValues : (ks : List Kind) → Args ks → List Value
  | [], _ => []
  | k :: ks, (x, rest) => ⟨k, x⟩ :: toValues ks rest

end Args

/-- What a closure with the given result returns. -/
def Outcome : Option Kind → Type
  | none => Unit
  | some k => k.Carrier

def Outcome.value? : (result : Option Kind) → Outcome result → Option Value
  | none, _ => none
  | some k, x => some ⟨k, x⟩

/-- A closure has at most twenty parameters and returns nothing or a value that fits the integer
result register. -/
structure Closure (σ : Type) where
  params : List Kind
  result : Option Kind
  body : Args params → Action σ (Outcome result)
  arity : params.length ≤ 20 := by decide
  returnable : ∀ k ∈ result, k.isReturnable = true := by decide

namespace Closure

variable {σ : Type}

/-- Convert the values and run the body. -/
def run (c : Closure σ) (values : List Value) : Action σ (Option Value) := do
  let args ← Action.require (Args.ofValues c.params values)
  let outcome ← c.body args
  pure (Outcome.value? c.result outcome)

/-- The callback that a closure describes, with whatever stands for the closure as body. -/
def describe {β : Type} (c : Closure σ) (body : β) : Callback β where
  params := c.params.map .scalar
  results := c.result.toList.map .scalar
  body

end Closure

end CallBridge
