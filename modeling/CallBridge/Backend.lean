import CallBridge.HostBackend
import CallBridge.Trampoline

/-!
The two kinds of backends behind one contract: the library's own slots, or a host's.
-/

namespace CallBridge

inductive Backend (β η : Type) where
  | trampoline (t : Trampoline β)
  | host (h : HostBackend η)

namespace Backend

variable {β η : Type} [Registrar η β]

def register (b : Backend β η) (c : Callback β) : Reply RegistrationError (Backend β η) Word :=
  match b with
  | trampoline t => (t.register c).within trampoline
  | host h => (h.register c).within host

def registerShared (b : Backend β η) (s : SharedCallback β) :
    Reply RegistrationError (Backend β η) Word :=
  match b with
  | trampoline t => (t.registerShared s).within trampoline
  | host h => (h.registerShared s).within host

def unregister (b : Backend β η) (address : Word) :
    Reply RegistrationError (Backend β η) Unit :=
  match b with
  | trampoline t => (t.unregister address).within trampoline
  | host h => (h.unregister address).within host

def unregisterShared (b : Backend β η) (identity : Identity) :
    Reply RegistrationError (Backend β η) Unit :=
  match b with
  | trampoline t => (t.unregisterShared identity).within trampoline
  | host h => (h.unregisterShared identity).within host

def capacity : Backend β η → Nat
  | trampoline t => t.capacity
  | host h => h.capacity.toNat

def live : Backend β η → Word
  | trampoline t => BitVec.ofNat 64 t.live
  | host h => h.live

end Backend

end CallBridge
