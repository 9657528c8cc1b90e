import CallBridge.Toml.Text

/-!
Numbers in TOML, recognised on a whole word of letters, digits and marks.
-/

namespace CallBridge.Toml

/-- At least one digit, with single underscores allowed between digits. -/
def underscored (isDigit : Char → Bool) : List Char → Bool
  | [] => false
  | [c] => isDigit c
  | c :: '_' :: rest => isDigit c && underscored isDigit rest
  | c :: rest => isDigit c && underscored isDigit rest

/-- Value of digits in a base, underscores left out. -/
def digitsValue (base : Nat) (cs : List Char) : Nat :=
  cs.foldl (fun n c => if c = '_' then n else n * base + (Text.hexValue? c).getD 0) 0

def isBinaryDigit (c : Char) : Bool := c == '0' || c == '1'

def isOctalDigit (c : Char) : Bool := '0' ≤ c && c ≤ '7'

/-- A decimal number without sign and without leading zeros. -/
def isDecimal (cs : List Char) : Bool :=
  underscored Char.isDigit cs && (cs.head? != some '0' || cs.length == 1)

/-- Whether the word has a minus sign, and the word without its sign. -/
def signed : List Char → Bool × List Char
  | '+' :: rest => (false, rest)
  | '-' :: rest => (true, rest)
  | cs => (false, cs)

/-- Integers of 64 bits. -/
def inRange (i : Int) : Option Int :=
  if -0x8000000000000000 ≤ i ∧ i < 0x8000000000000000 then some i else none

/-- An integer: decimal with an optional sign, or in another base without one. -/
def integer? : List Char → Option Int
  | '0' :: 'x' :: ds =>
    let isDigit (c : Char) : Bool := (Text.hexValue? c).isSome
    if underscored isDigit ds then inRange (digitsValue 16 ds) else none
  | '0' :: 'o' :: ds => if underscored isOctalDigit ds then inRange (digitsValue 8 ds) else none
  | '0' :: 'b' :: ds => if underscored isBinaryDigit ds then inRange (digitsValue 2 ds) else none
  | cs =>
    let (negative, ds) := signed cs
    if isDecimal ds then
      let n : Int := digitsValue 10 ds
      inRange (if negative then -n else n)
    else none

/-- Whether `digits · 10^exponent` lies beyond all finite floats of 64 bits. -/
def overflows (digits : Nat) (exponent : Int) : Bool :=
  let top := exponent + (Nat.toDigits 10 digits).length
  if digits = 0 ∨ top < 300 then false
  else if top > 320 then true
  else
    let limit := Nat.pow 2 1024 - Nat.pow 2 970
    limit ≤ digits * Nat.pow 10 exponent.toNat / Nat.pow 10 (-exponent).toNat

/-- Whether an unsigned word is a float, and if so its digits and decimal exponent. -/
def decimalFloat? (cs : List Char) : Option (Nat × Int) := do
  let isDigit (c : Char) : Bool := c.isDigit || c == '_'
  let whole := cs.takeWhile isDigit
  if !isDecimal whole then none
  let (fraction, rest) ← match cs.dropWhile isDigit with
    | '.' :: rest =>
      let fraction := rest.takeWhile isDigit
      if underscored Char.isDigit fraction then some (fraction, rest.dropWhile isDigit) else none
    | rest => if rest.isEmpty then none else some ([], rest)
  let exponent : Int ← match rest with
    | [] => some 0
    | e :: power =>
      let (negative, ds) := signed power
      if (e == 'e' || e == 'E') && underscored Char.isDigit ds then
        let n : Int := digitsValue 10 ds
        some (if negative then -n else n)
      else none
  some (digitsValue 10 (whole ++ fraction), exponent - (fraction.filter (· != '_')).length)

/-- Whether the word is a float. A positive one has to be finite unless it says `inf`. -/
def isFloat (cs : List Char) : Bool :=
  let (negative, word) := signed cs
  word == ['i', 'n', 'f'] || word == ['n', 'a', 'n'] ||
    match decimalFloat? word with
    | some (digits, exponent) => negative || !overflows digits exponent
    | none => false

end CallBridge.Toml
