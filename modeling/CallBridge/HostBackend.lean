import CallBridge.Registry

/-!
Callbacks registered with a host that hands out addresses and keeps the bindings itself. This side
validates signatures, counts registrations against the host's capacity, and remembers the addresses
of shared callbacks.
-/

namespace CallBridge

/-- What a host has to offer. It answers requests as it likes. -/
class Registrar (η : Type) (β : outParam Type) where
  register : η → Binding β → Except RegistrationError Word × η
  unregister : η → Word → Except RegistrationError Unit × η
  capacity : η → Word

/-- Capacity of a host that names none. -/
def defaultHostCapacity : Word := 1024

structure HostBackend (η : Type) where
  host : η
  /-- Addresses of shared callbacks by identity. -/
  issued : List (Identity × Word) := []
  live : Word := 0

namespace HostBackend

variable {η β : Type} [Registrar η β]

def capacity (b : HostBackend η) : Word := Registrar.capacity b.host

/-- Validate a callback, reserve a place, and ask the host for an address. The place is given back
if the host refuses. A place is one more than all that are taken, which has to be a word. -/
def bind (b : HostBackend η) (held : HeldCallback β) :
    Reply RegistrationError (HostBackend η) Word :=
  match Signature.of held.callback with
  | .error e => .refuse e [.callbackRejected e] b
  | .ok signature =>
    if b.live = BitVec.allOnes 64 then .stop .add [] b
    else if b.live < b.capacity then
      let reserved := b.live + 1
      match Registrar.register b.host { held, signature } with
      | (.ok address, host) =>
        .ok address [.hostCallbackRegistered address] { b with host, live := reserved }
      | (.error e, host) => .refuse e [] { b with host, live := reserved - 1 }
    else
      let capacity := b.capacity.toNat
      .refuse (.capacityExceeded capacity) [.capacityExhausted capacity] b

def release (b : HostBackend η) (address : Word) : Reply RegistrationError (HostBackend η) Unit :=
  match Registrar.unregister b.host address with
  | (.ok (), host) => .ok () [.hostCallbackReleased address] { b with host, live := b.live - 1 }
  | (.error e, host) => .refuse e [] { b with host }

def register (b : HostBackend η) (c : Callback β) : Reply RegistrationError (HostBackend η) Word :=
  b.bind { callback := c }

def registerShared (b : HostBackend η) (s : SharedCallback β) :
    Reply RegistrationError (HostBackend η) Word :=
  match b.issued.lookup s.identity with
  | some address => .ok address [.callbackDeduplicated address] b
  | none =>
    let r := b.bind s.held
    match r.answer with
    | .ok address =>
      { r with state := { r.state with issued := Index.put s.identity address r.state.issued } }
    | _ => r

/-- Release an address, and forget the shared callbacks that had it. -/
def unregister (b : HostBackend η) (address : Word) :
    Reply RegistrationError (HostBackend η) Unit :=
  let r := b.release address
  match r.answer with
  | .ok () =>
    { r with state := { r.state with issued := r.state.issued.filter (·.2 != address) } }
  | _ => r

def unregisterShared (b : HostBackend η) (identity : Identity) :
    Reply RegistrationError (HostBackend η) Unit :=
  match b.issued.lookup identity with
  | none => .refuse (.notFound (.identity identity)) [] b
  | some address =>
    let r := b.release address
    match r.answer with
    | .ok () => { r with state := { r.state with issued := Index.erase identity r.state.issued } }
    | _ => r

def debug (b : HostBackend η) : String :=
  Text.shownOpenRecord "HostBackend" [("live", b.live.decimal)]

end HostBackend

end CallBridge
