import CallBridge.Text.Blank

/-!
How the parts of a pattern are read. Patterns are regular expressions that the values of fields are
held against. Here they are only read, to tell which of them can be used.
-/

namespace CallBridge.Pattern

structure Modes where
  /-- Letters match in either case. -/
  caseless : Bool := false
  /-- Text is a sequence of characters, not of bytes. -/
  unicode : Bool := true
  /-- Blanks and comments between items do not count. -/
  spaced : Bool := false
deriving DecidableEq, Repr

/-- The text after blanks and comments. A comment is what follows a number sign on its line. -/
def afterBlanks : (comment : Bool) → List Char → List Char
  | _, [] => []
  | true, c :: cs => afterBlanks (c != '\n') cs
  | false, c :: cs =>
    if Text.isBlank c then afterBlanks false cs
    else if c = '#' then afterBlanks true cs
    else c :: cs

namespace Modes

/-- The text from the next item on. -/
def skip (m : Modes) (cs : List Char) : List Char := if m.spaced then afterBlanks false cs else cs

/-- The character that decides what a hyphen before it means. Of a comment only the number sign is
passed over. -/
def peek? (m : Modes) (cs : List Char) : Option Char :=
  if m.spaced then
    match cs.dropWhile Text.isBlank with
    | '#' :: rest => (rest.dropWhile Text.isBlank).head?
    | rest => rest.head?
  else cs.head?

/-- Switch modes on and, after a hyphen, off. Each letter stands once, and the hyphen stands before
a letter. Some letters change what is matched but not what can be used. -/
def switch? (m : Modes) (letters : List Char) : Option Modes :=
  if letters.all "imsURux-".toList.contains && decide letters.Nodup
      && letters.getLast? != some '-' then
    let on := letters.takeWhile (· ≠ '-')
    let switched (letter : Char) (before : Bool) : Bool :=
      on.contains letter || (before && !letters.contains letter)
    some {
      caseless := switched 'i' m.caseless
      unicode := switched 'u' m.unicode
      spaced := switched 'x' m.spaced }
  else none

end Modes

/-- Depth of parts side by side, by their depths. A part that stands alone is not nested in
anything. -/
def beside : List Nat → Nat
  | [] => 0
  | [depth] => depth
  | depths => depths.foldl max 0 + 1

end CallBridge.Pattern
