import CallBridge.Text.Quoted

/-!
Parts of a text between two byte positions. A position inside of a character is no place to cut.
-/

namespace CallBridge.Text

/-- A cut that was asked for inside of a character. -/
structure Tear where
  /-- The part was to end there, not to start. -/
  atEnd : Bool
  index : Nat
  char : Char
  /-- Position of the character. -/
  first : Nat
deriving DecidableEq, Repr

def Tear.message (t : Tear) : String :=
  (if t.atEnd then "end" else "start") ++ " byte index " ++ toString t.index
    ++ " is not a char boundary; it is inside '" ++ quotedChar t.char ++ "' (bytes "
    ++ toString t.first ++ ".." ++ toString (t.first + t.char.utf8Size) ++ " of string)"

/-- Bytes of a text. -/
def byteLength (cs : List Char) : Nat := cs.foldr (fun c n => c.utf8Size + n) 0

/-- How many characters lie before a position. The first of `cs` lies at `first`. -/
def countBefore (atEnd : Bool) (index : Nat) : (first : Nat) → List Char → Except Tear Nat
  | _, [] => .ok 0
  | first, c :: cs =>
    if index ≤ first then .ok 0
    else if index < first + c.utf8Size then .error { atEnd, index, char := c, first }
    else (countBefore atEnd index (first + c.utf8Size) cs).map (· + 1)

/-- The part from a position to the end. -/
def cutFrom (cs : List Char) (start : Nat) : Except Tear String := do
  let before ← countBefore false start 0 cs
  .ok (String.ofList (cs.drop before))

/-- The part between two positions. -/
def cut (cs : List Char) (start stop : Nat) : Except Tear String := do
  let before ← countBefore false start 0 cs
  let through ← countBefore true stop 0 cs
  .ok (String.ofList ((cs.take through).drop before))

end CallBridge.Text
