import CallBridge.Pattern.Modes
import CallBridge.Text.CodePoint

/-!
Atoms of patterns, and which of them can be used. Cases, words and classes of characters beyond
ASCII would take tables that are not at hand, and no part of a pattern may match a piece of a
character.
-/

namespace CallBridge.Pattern

inductive Atom where
  /-- A character; as `byte` it is given by the two hexadecimal digits of a byte. -/
  | char (c : Char) (byte : Bool)
  /-- Any character, or any but line ends. -/
  | any
  /-- Digits, blanks, or characters of words. -/
  | shorthand
  /-- The start or the end of a line or of the text. -/
  | edge
  /-- The start or the end of a word, or neither. -/
  | boundary
deriving DecidableEq, Repr

namespace Atom

/-- Whether it can be used as an item of a sequence. -/
def isItem (m : Modes) : Atom → Bool
  | char c byte => if m.unicode then !m.caseless else !byte || c.toNat < 0x80
  | any => m.unicode
  | shorthand | boundary => !m.unicode
  | edge => true

/-- Whether it can be used as a member of a set. -/
def isMember (m : Modes) : Atom → Bool
  | char c _ => if m.unicode then !m.caseless else c.toNat < 0x80
  | shorthand => !m.unicode
  | any | edge | boundary => false

end Atom

/-- A character given by exactly as many hexadecimal digits as asked for. -/
def hexadecimal? (m : Modes) : (count : Nat) → (digits : List Char) → List Char →
    Option (Char × List Char)
  | 0, digits, cs => (Text.codePoint? digits.reverse).map fun c => (c, cs)
  | count + 1, digits, cs =>
    match m.skip cs with
    | c :: rest => hexadecimal? m count (c :: digits) rest
    | [] => none

/-- Letters that stand for a control character after a backslash. -/
def controls : List (Char × Char) :=
  [('a', '\x07'), ('f', '\x0c'), ('n', '\n'), ('r', '\r'), ('t', '\t'), ('v', '\x0b')]

/-- An atom after a backslash. Marks of ASCII stand for themselves. A shorthand for what is left out
and a property are never of use. -/
def escape? (m : Modes) : List Char → Option (Atom × List Char)
  | 'x' :: cs => (hexadecimal? m 2 [] cs).map fun (c, rest) => (.char c true, rest)
  | 'u' :: cs => (hexadecimal? m 4 [] cs).map fun (c, rest) => (.char c false, rest)
  | 'U' :: cs => (hexadecimal? m 8 [] cs).map fun (c, rest) => (.char c false, rest)
  | c :: cs =>
    if ['d', 's', 'w'].contains c then some (.shorthand, cs)
    else if ['A', 'z'].contains c then some (.edge, cs)
    else if ['b', 'B', '<', '>'].contains c then some (.boundary, cs)
    else match controls.lookup c with
      | some control => some (.char control false, cs)
      | none => if c.toNat < 0x80 && !c.isAlphanum then some (.char c false, cs) else none
  | [] => none

end CallBridge.Pattern
