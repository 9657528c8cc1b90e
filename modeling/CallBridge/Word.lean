/-!
Machine words of 64 bits and the two ways they are written: in decimal, and in lower-case
hexadecimal behind `0x`. Arithmetic that has to stay within words can overflow.
-/

namespace CallBridge

abbrev Word := BitVec 64

/-- How many words there are. -/
def wordCount : Nat := 0x10000000000000000

/-- Lower-case hexadecimal digits without a leading zero. -/
def hexDigits (n : Nat) : String := String.ofList (Nat.toDigits 16 n)

/-- Hexadecimal padded with zeros to `width` digits. -/
def hexPadded (width n : Nat) : String :=
  let digits := Nat.toDigits 16 n
  String.ofList (List.replicate (width - digits.length) '0' ++ digits)

namespace Word

def decimal (w : Word) : String := toString w.toNat

def hex (w : Word) : String := "0x" ++ hexDigits w.toNat

end Word

/-- An operation on words whose result is no word. -/
inductive Overflow where
  | add
  | multiply
  /-- The size of a table in bytes. -/
  | capacity
deriving DecidableEq, Repr

def Overflow.message : Overflow → String
  | add => "attempt to add with overflow"
  | multiply => "attempt to multiply with overflow"
  | capacity => "capacity overflow"

end CallBridge
