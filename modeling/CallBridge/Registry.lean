import CallBridge.Binding
import CallBridge.Index
import CallBridge.Reply

/-!
The bounded table of callback slots. Free slots form a stack, so the slot released last is bound
next. Two indexes lead from the address of a bound slot to its number and from the identity of a
shared callback to the address it was given; binding and unbinding keep both in step with the slots.
-/

namespace CallBridge

/-- A bound slot. -/
structure Slot (β : Type) where
  binding : Binding β
  address : Word
  identity : Option Identity
deriving DecidableEq

structure Registry (β : Type) where
  capacity : Nat
  slots : List (Option (Slot β))
  /-- Free slots, the next one first. -/
  free : List Nat
  byAddress : List (Word × Nat)
  byIdentity : List (Identity × Word)
deriving DecidableEq

structure Allocation where
  slot : Nat
  address : Word
  /-- The identity was registered already and no slot was consumed. -/
  reused : Bool
deriving DecidableEq, Repr

namespace Registry

variable {β : Type}

/-- All slots free, the lowest first. -/
def empty (capacity : Nat) : Registry β where
  capacity
  slots := List.replicate capacity none
  free := List.range capacity
  byAddress := []
  byIdentity := []

/-- Bytes that a slot takes in memory: its binding, its address, and whether it has an identity and
which. -/
def slotBytes : Nat := 32

/-- A table that can never hold a callback is refused. None is larger than half of the address
space. -/
def create (capacity : Nat) : Verdict Violation (Registry β) :=
  if capacity = 0 then .error .zeroCapacity
  else if wordCount / 2 ≤ capacity * slotBytes then .overflow .capacity
  else .ok (empty capacity)

/-- Number of bound slots. -/
def live (r : Registry β) : Nat := r.capacity - r.free.length

def slot? (r : Registry β) (slot : Nat) : Option (Slot β) := r.slots[slot]?.join

def binding? (r : Registry β) (slot : Nat) : Option (Binding β) := (r.slot? slot).map Slot.binding

def slotAt? (r : Registry β) (address : Word) : Option Nat := r.byAddress.lookup address

/-- The address given to an identity. -/
def addressOf? (r : Registry β) (identity : Identity) : Option Word := r.byIdentity.lookup identity

/-- Slot and address under which an identity is registered. -/
def registered? (r : Registry β) (identity : Identity) : Option Allocation := do
  let address ← r.addressOf? identity
  let slot ← r.slotAt? address
  some { slot, address, reused := true }

/-- Fill a slot and enter it in the indexes. -/
def bind (r : Registry β) (slot : Nat) (s : Slot β) : Registry β :=
  { r with
    slots := r.slots.set slot (some s)
    byAddress := Index.put s.address slot r.byAddress
    byIdentity := match s.identity with
      | some i => Index.put i s.address r.byIdentity
      | none => r.byIdentity }

/-- Empty a slot that held `s` and forget it in the indexes. -/
def unbind (r : Registry β) (slot : Nat) (s : Slot β) : Registry β :=
  { r with
    slots := r.slots.set slot none
    free := slot :: r.free
    byAddress := Index.erase s.address r.byAddress
    byIdentity := match s.identity with
      | some i => Index.erase i r.byIdentity
      | none => r.byIdentity }

/-- Bind the next free slot, whose address `entry` tells. An identity that is registered already
keeps its registration. A slot without an address is neither bound nor free from then on. -/
def allocate (r : Registry β) (binding : Binding β) (identity : Option Identity)
    (entry : Nat → Except Overflow Word) : Reply RegistrationError (Registry β) Allocation :=
  match identity.bind r.registered? with
  | some found => .ok found [] r
  | none =>
    match r.free with
    | [] => .refuse (.capacityExceeded r.capacity) [.capacityExhausted r.capacity] r
    | slot :: free =>
      match entry slot with
      | .error o => .stop o [] { r with free }
      | .ok address =>
        .ok { slot, address, reused := false } []
          ({ r with free }.bind slot { binding, address, identity })

/-- Unbind a slot. A free one is refused, so that a stale number releases nothing. -/
def release (r : Registry β) (slot : Nat) : Reply RegistrationError (Registry β) Unit :=
  match r.slot? slot with
  | none => .refuse (.slotNotBound slot) [] r
  | some s => .ok () [.callbackReleased slot s.address] (r.unbind slot s)

/-- Unbind the slot behind an address; its number. -/
def releaseAddress (r : Registry β) (address : Word) : Reply RegistrationError (Registry β) Nat :=
  match r.slotAt? address with
  | none => .refuse (.notFound (.address address)) [] r
  | some slot =>
    match r.slot? slot with
    | none => .refuse (.slotNotBound slot) [] r
    | some s => .ok slot [.callbackReleased slot address] (r.unbind slot s)

/-- Unbind the slot registered for an identity; its number. -/
def releaseIdentity (r : Registry β) (identity : Identity) :
    Reply RegistrationError (Registry β) Nat :=
  match r.registered? identity with
  | none => .refuse (.notFound (.identity identity)) [] r
  | some found =>
    match r.slot? found.slot with
    | none => .refuse (.slotNotBound found.slot) [] r
    | some s => .ok found.slot [.callbackReleased found.slot s.address] (r.unbind found.slot s)

def debug (r : Registry β) : String :=
  Text.shownRecord "Registry" [("capacity", toString r.capacity), ("live", toString r.live)]

end Registry

end CallBridge
