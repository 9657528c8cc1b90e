import CallBridge.EntryTable
import CallBridge.Registry

/-!
Callbacks behind a table of entry points. The slot that a callback is bound to fixes the address at
which native code reaches it.
-/

namespace CallBridge

structure Trampoline (β : Type) where
  registry : Registry β
  table : EntryTable
deriving DecidableEq

namespace Trampoline

variable {β σ : Type}

def create (table : EntryTable) (capacity : Nat) : Verdict Violation (Trampoline β) :=
  (Registry.create capacity).map fun registry => { registry, table }

/-- Validate a callback and bind a slot for it; the address of its entry point. An identity that is
registered already is answered first, without a look at the callback. -/
def compile (t : Trampoline β) (held : HeldCallback β) (identity : Option Identity) :
    Reply RegistrationError (Trampoline β) Word :=
  match identity.bind t.registry.addressOf? with
  | some address => .ok address [.callbackDeduplicated address] t
  | none =>
    match Signature.of held.callback with
    | .error e => .refuse e [.callbackRejected e] t
    | .ok signature =>
      let r := t.registry.allocate { held, signature } identity t.table.locate
      match r.answer with
      | .overflow o => .stop o r.events { t with registry := r.state }
      | .error e => .refuse e r.events { t with registry := r.state }
      | .ok a =>
        let event := if a.reused then .callbackDeduplicated a.address
          else .callbackRegistered a.slot a.address
        .ok a.address (r.events ++ [event]) { t with registry := r.state }

def register (t : Trampoline β) (c : Callback β) : Reply RegistrationError (Trampoline β) Word :=
  t.compile { callback := c } none

def registerShared (t : Trampoline β) (s : SharedCallback β) :
    Reply RegistrationError (Trampoline β) Word :=
  t.compile s.held (some s.identity)

/-- An operation on the registry as one on the backend. -/
def onRegistry {α : Type} (t : Trampoline β)
    (f : Registry β → Reply RegistrationError (Registry β) α) :
    Reply RegistrationError (Trampoline β) α :=
  (f t.registry).within fun registry => { t with registry }

def unregister (t : Trampoline β) (address : Word) : Reply RegistrationError (Trampoline β) Unit :=
  (t.onRegistry (·.releaseAddress address)).map fun _ => ()

def unregisterShared (t : Trampoline β) (identity : Identity) :
    Reply RegistrationError (Trampoline β) Unit :=
  (t.onRegistry (·.releaseIdentity identity)).map fun _ => ()

def capacity (t : Trampoline β) : Nat := t.registry.capacity

def live (t : Trampoline β) : Nat := t.registry.live

def debug (t : Trampoline β) : String :=
  Text.shownRecord "TrampolineBackend"
    [("registry", t.registry.debug), ("table", t.table.debug)]

end Trampoline

/-- Run the callback bound to a slot. The binding is taken before the body starts, so nothing that
the body does to the table changes what is running. -/
def dispatch {β σ : Type} (x : Execution β σ) (registry : σ → Registry β) (slot : Nat)
    (block : Block) : Action σ (Except RegistrationError (Option Word)) := do
  match (registry (← Action.get)).binding? slot with
  | none => pure (.error (.slotNotBound slot))
  | some binding => do
    Action.emit (.callbackInvoked slot)
    let result ← binding.invoke x block
    pure (.ok result)

/-- Run the callback behind an address. -/
def dispatchAddress {β σ : Type} (x : Execution β σ) (registry : σ → Registry β) (address : Word)
    (block : Block) : Action σ (Except RegistrationError (Option Word)) := do
  match (registry (← Action.get)).slotAt? address with
  | none => pure (.error (.notFound (.address address)))
  | some slot => dispatch x registry slot block

end CallBridge
