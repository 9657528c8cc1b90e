import CallBridge.Placement
import CallBridge.Text.Shown

/-!
Tables of native entry points. Entries lie at equal distances; the address of an entry, the mark it
leaves when native code enters it, and the number of its slot determine one another.
-/

namespace CallBridge

/-- Entries of the table that the library brings along. -/
def maxCallbacks : Nat := 2000

structure EntryTable where
  base : Word
  stride : Word
deriving DecidableEq, Repr

namespace EntryTable

/-- Address at which native code enters `slot`. -/
def entry (t : EntryTable) (slot : Nat) : Word := t.base + BitVec.ofNat 64 slot * t.stride

/-- The address of an entry, unless the table does not reach to `slot` within the range of words. -/
def locate (t : EntryTable) (slot : Nat) : Except Overflow Word :=
  let offset := slot * t.stride.toNat
  if wordCount ≤ offset then .error .multiply
  else if wordCount ≤ t.base.toNat + offset then .error .add
  else .ok (t.entry slot)

/-- What an entry leaves behind when it is entered: the address of the entry after it. -/
def marker (t : EntryTable) (address : Word) : Word := address + t.stride

/-- The slot whose entry left `marker` behind. -/
def slotOf (t : EntryTable) (marker : Word) : Nat := ((marker - t.base) / t.stride - 1).toNat

/-- The library's own table, wherever it lies in memory. -/
def native (base : Word) : EntryTable where
  base
  stride := BitVec.ofNat 64 trampolineStride

def debug (t : EntryTable) : String :=
  Text.shownRecord "EntryTable" [("base", t.base.decimal), ("stride", t.stride.decimal)]

end EntryTable

end CallBridge
