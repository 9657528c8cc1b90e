import CallBridge.Text.Utf8
import CallBridge.Word

/-!
Memory that holds NUL-terminated copies of strings for native code. Copies are laid out one behind
the other and released last first, so an address stays good until the copy under it is released.
What is found elsewhere, also where a copy was released, is up to whoever else uses the memory.
-/

namespace CallBridge

structure Memory where
  copies : List (List UInt8) := []
  /-- What is found at an address at which no copy is held, but for the null address. -/
  elsewhere : Word → List UInt8 := fun _ => []

namespace Memory

/-- Address of the first copy. It leaves no copy at the null address. -/
def origin : Word := 0x600000000000

/-- All bytes from the origin on, each copy closed by its NUL. -/
def bytes (m : Memory) : List UInt8 := m.copies.flatMap (· ++ [0])

/-- Where the next copy goes. -/
def top (m : Memory) : Word := origin + BitVec.ofNat 64 m.bytes.length

/-- Append a copy; its address and the memory that holds it. -/
def store (m : Memory) (copy : List UInt8) : Word × Memory :=
  (m.top, { m with copies := m.copies ++ [copy] })

/-- Drop every copy made since there were `mark` of them. -/
def release (m : Memory) (mark : Nat) : Memory := { m with copies := m.copies.take mark }

/-- An address lies in the copies that are held. -/
def Holds (m : Memory) (address : Word) : Prop :=
  origin ≤ address ∧ address.toNat - origin.toNat < m.bytes.length

instance (m : Memory) (address : Word) : Decidable (m.Holds address) :=
  inferInstanceAs (Decidable (_ ∧ _))

/-- The bytes from an address on, as far as a string can reach. -/
def bytesAt (m : Memory) (address : Word) : List UInt8 :=
  if m.Holds address then m.bytes.drop (address.toNat - origin.toNat)
  else if address = 0 then [] else m.elsewhere address

/-- The bytes at an address up to the first NUL. -/
def stringAt (m : Memory) (address : Word) : List UInt8 := (m.bytesAt address).takeWhile (· ≠ 0)

/-- The string at an address as text, empty for the null address. -/
def textAt (m : Memory) (address : Word) : String :=
  String.ofList (Utf8.decodeLossy (m.stringAt address))

end Memory

end CallBridge
