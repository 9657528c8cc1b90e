import CallBridge.Word

/-!
Reading an unsigned word in decimal: an optional plus sign and at least one digit, nothing else.
-/

namespace CallBridge.Text

/-- Value of a list of decimal digits; none if one of them is no digit. -/
def digitsValue? : List Char → (value : Nat) → Option Nat
  | [], n => some n
  | c :: cs, n => if c.isDigit then digitsValue? cs (n * 10 + (c.toNat - '0'.toNat)) else none

/-- The number written by `s`, if it is one and fits 64 bits. -/
def unsigned? (s : String) : Option Nat :=
  let digits := match s.toList with
    | '+' :: rest => rest
    | cs => cs
  if digits.isEmpty then none
  else (digitsValue? digits 0).filter (· < wordCount)

end CallBridge.Text
