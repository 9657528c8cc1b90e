import CallBridge.Text.Blank

/-!
Texts that write a number: integers, decimals with or without a power of ten, and the names of what
is no finite number.
-/

namespace CallBridge.Text

/-- The text after an optional sign. -/
def withoutSign : List Char → List Char
  | '+' :: cs | '-' :: cs => cs
  | cs => cs

/-- An exponent with its letter, or nothing. -/
def isExponent : List Char → Bool
  | [] => true
  | e :: power =>
    let digits := withoutSign power
    ['e', 'E'].contains e && !digits.isEmpty && digits.all Char.isDigit

/-- Digits with a point before, among or after them, and perhaps an exponent. -/
def isDecimal (cs : List Char) : Bool :=
  let whole := cs.takeWhile Char.isDigit
  match cs.drop whole.length with
  | '.' :: rest =>
    let fraction := rest.takeWhile Char.isDigit
    !(whole ++ fraction).isEmpty && isExponent (rest.drop fraction.length)
  | rest => !whole.isEmpty && isExponent rest

def isNumber (s : String) : Bool :=
  let cs := withoutSign s.toList
  isDecimal cs || ["inf", "infinity", "nan"].contains (lower (String.ofList cs))

end CallBridge.Text
