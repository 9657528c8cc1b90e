import CallBridge.Kind
import CallBridge.Memory
import CallBridge.Text.FloatText
import CallBridge.Text.Quoted

/-!
Values that cross the native boundary, and their conversion from and to machine words. A word
read as a kind takes the low bits that the kind has; the way back fills the word up by sign or
with zeros. Strings cross as the address of a copy in memory.
-/

namespace CallBridge

namespace Kind

/-- The data that a word stands for when it is read as kind `k`. -/
def ofWord (m : Memory) : (k : Kind) → Word → k.Carrier
  | bool, w => w.setWidth 8 != 0
  | i8, w | u8, w => w.setWidth 8
  | i16, w | u16, w => w.setWidth 16
  | i32, w | u32, w | f32, w => w.setWidth 32
  | i64, w | isize, w | u64, w | usize, w | f64, w | pointer, w => w
  | cstring, w => m.textAt w

/-- The word for data of kind `k`; a string has none of its own. -/
def toWord? : (k : Kind) → k.Carrier → Option Word
  | bool, b => some (if b then 1 else 0)
  | i8, x => some (x.signExtend 64)
  | i16, x => some (x.signExtend 64)
  | i32, x => some (x.signExtend 64)
  | u8, x => some (x.setWidth 64)
  | u16, x => some (x.setWidth 64)
  | u32, x | f32, x => some (x.setWidth 64)
  | i64, x | isize, x | u64, x | usize, x | f64, x | pointer, x => some x
  | cstring, _ => none

/-- Data as diagnostics show it, without the kind. -/
def dataText : (k : Kind) → k.Carrier → String
  | bool, b => if b then "true" else "false"
  | i8, x => toString x.toInt
  | i16, x => toString x.toInt
  | i32, x => toString x.toInt
  | i64, x | isize, x => toString x.toInt
  | u8, x => toString x.toNat
  | u16, x => toString x.toNat
  | u32, x => toString x.toNat
  | u64, x | usize, x => toString x.toNat
  | f32, x => Text.float32 x
  | f64, x => Text.float64 x
  | pointer, x => Word.hex x
  | cstring, s => Text.quoted s

end Kind

structure Value where
  kind : Kind
  data : kind.Carrier

namespace Value

instance : DecidableEq Value
  | ⟨k, x⟩, ⟨l, y⟩ =>
    if h : k = l then by
      subst h
      exact match k.decEqCarrier x y with
        | isTrue e => isTrue (by rw [e])
        | isFalse e => isFalse (by intro e'; cases e'; exact e rfl)
    else isFalse (by intro e; cases e; exact h rfl)

def ofWord (m : Memory) (k : Kind) (w : Word) : Value where
  kind := k
  data := k.ofWord m w

/-- The word a value is passed in by itself; none for a string. -/
def word? (v : Value) : Option Word := v.kind.toWord? v.data

/-- The text of a string value. -/
def text? : Value → Option String
  | ⟨.cstring, s⟩ => some s
  | _ => none

/-- The word that passes a value to native code. A string is copied into memory first, which fails
if it contains a NUL. -/
def pass? (v : Value) (m : Memory) : Option (Word × Memory) :=
  match v with
  | ⟨.cstring, s⟩ => if '\x00' ∈ s.toList then none else some (m.store (Utf8.bytes s))
  | ⟨k, x⟩ => (k.toWord? x).map (·, m)

def debug (v : Value) : String := v.kind.debug ++ "(" ++ v.kind.dataText v.data ++ ")"

end Value

end CallBridge
