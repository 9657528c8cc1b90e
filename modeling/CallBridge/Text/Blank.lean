/-!
White space at the ends of a text, and comparison with a word regardless of case.
-/

namespace CallBridge.Text

/-- The characters with the property White_Space. -/
def isBlank (c : Char) : Bool :=
  let n := c.toNat
  (9 ≤ n && n ≤ 13) || n == 0x20 || n == 0x85 || n == 0xA0 || n == 0x1680
    || (0x2000 ≤ n && n ≤ 0x200A) || n == 0x2028 || n == 0x2029 || n == 0x202F || n == 0x205F
    || n == 0x3000

def trim (s : String) : String :=
  String.ofList ((s.toList.dropWhile isBlank).reverse.dropWhile isBlank).reverse

/-- Lower case of the letters A to Z. The only other character whose lower case is such a letter
is the Kelvin sign, so on words without a `k` this decides equality up to case. -/
def lower (s : String) : String := String.ofList (s.toList.map Char.toLower)

end CallBridge.Text
