import CallBridge.Script.Run

/-!
Looking at single callbacks and values: what a callback's signature is, what it reads from a block,
what it does when it is called directly.
-/

namespace CallBridge.Script

open World

structure Inspection where
  signature : Except RegistrationError Signature
  decoded : Option (Except Panic (List Value)) := none
  invoked : Option (Except Panic (Option Word)) := none

/-- Validate a callback; with a block, decode the block and run the body on it. -/
def inspect (c : Callback Behaviour) (plan : Option BlockPlan) : Action World Inspection := do
  let signature := Signature.of c
  match signature, plan with
  | .ok s, some plan => do
    let block ← block plan
    let b : Binding Behaviour := { held := { callback := c }, signature := s }
    let w ← Action.get
    let decoded ← Action.attempt (Action.require (b.decode w.memory block))
    let invoked ← Action.attempt (b.invoke execution block)
    pure { signature, decoded := some decoded, invoked := some invoked }
  | _, _ => pure { signature }

/-- Run the body of a callback on values. -/
def callDirectly (c : Callback Behaviour) (args : List Value) :
    Action World (Except Panic (Option Value)) :=
  Action.attempt (execution.body c.body args)

/-- Words that pass values one after the other, with the memory after all of them. Strings with a
NUL are refused and leave the memory as it is. -/
def passAll (m : Memory) : List Value → List (Value × Option Word) × Memory
  | [] => ([], m)
  | v :: vs =>
    let (w, m) := match v.pass? m with
      | some (w, m) => (some w, m)
      | none => (none, m)
    let (ws, m) := passAll m vs
    ((v, w) :: ws, m)

/-- Result words of values one after the other. -/
def encodeAll : List Value → Action World (List (Except Panic Word))
  | [] => pure []
  | v :: vs => do
    let w ← Action.attempt (Action.require v.resultWord)
    pure (w :: (← encodeAll vs))

end CallBridge.Script
