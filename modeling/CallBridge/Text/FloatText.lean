import CallBridge.Decimal.Shortest
import CallBridge.Word

/-!
Floats of 32 and 64 bits as diagnostics show them: the fewest digits that read back, positional
from 0.0001 up to below 10^16 and with an exponent outside that range.
-/

namespace CallBridge.Text

/-- How a float's bits divide into sign, exponent and mantissa. -/
structure FloatFormat where
  mantissaBits : Nat
  exponentBits : Nat

def FloatFormat.single : FloatFormat where
  mantissaBits := 23
  exponentBits := 8

def FloatFormat.double : FloatFormat where
  mantissaBits := 52
  exponentBits := 11

namespace FloatFormat

/-- The positive number with the given exponent and mantissa fields. Numbers with exponent field
zero have no leading one. -/
def magnitude (f : FloatFormat) (exponent mantissa : Nat) : Decimal.Binary :=
  let bias : Int := Nat.pow 2 (f.exponentBits - 1) - 1 + f.mantissaBits
  if exponent = 0 then { mantissa, exponent := 1 - bias, coarse := false }
  else
    { mantissa := Nat.pow 2 f.mantissaBits + mantissa
      exponent := exponent - bias
      coarse := mantissa = 0 && exponent ≠ 1 }

end FloatFormat

/-- Digits with a point after the first `whole` of them; at least one digit on each side. -/
def positional (digits : List Char) (whole : Int) : String :=
  if whole ≤ 0 then
    "0." ++ String.ofList (List.replicate (-whole).toNat '0' ++ digits)
  else
    let w := whole.toNat
    let padded := digits ++ List.replicate (w - digits.length) '0'
    let fraction := padded.drop w
    String.ofList (padded.take w) ++ "."
      ++ String.ofList (if fraction.isEmpty then ['0'] else fraction)

/-- One digit before the point, no point if there is only one digit, and the exponent. -/
def exponential (digits : List Char) (exponent : Int) : String :=
  let fraction := digits.drop 1
  String.ofList (digits.take 1) ++ (if fraction.isEmpty then "" else "." ++ String.ofList fraction)
    ++ "e" ++ toString exponent

def scaledText (d : Decimal.Scaled) : String :=
  let digits := Nat.toDigits 10 d.digits
  let leading : Int := d.exponent + digits.length - 1
  if -4 ≤ leading ∧ leading < 16 then positional digits (leading + 1)
  else exponential digits leading

namespace FloatFormat

/-- Text of the float with the given bits. The sign of NaN is not shown. -/
def text (f : FloatFormat) (bits : Nat) : String :=
  let mantissa := bits % Nat.pow 2 f.mantissaBits
  let exponent := bits / Nat.pow 2 f.mantissaBits % Nat.pow 2 f.exponentBits
  let negative := bits / Nat.pow 2 (f.mantissaBits + f.exponentBits) % 2 = 1
  let sign := if negative then "-" else ""
  if exponent = Nat.pow 2 f.exponentBits - 1 then if mantissa = 0 then sign ++ "inf" else "NaN"
  else if exponent = 0 ∧ mantissa = 0 then sign ++ "0.0"
  else sign ++ scaledText (f.magnitude exponent mantissa).shortest

end FloatFormat

def float32 (bits : BitVec 32) : String := FloatFormat.single.text bits.toNat

def float64 (bits : BitVec 64) : String := FloatFormat.double.text bits.toNat

end CallBridge.Text
