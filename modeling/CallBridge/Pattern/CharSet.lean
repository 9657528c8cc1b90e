import CallBridge.Pattern.Atom

/-!
Sets of characters in brackets: members, ranges, named sets and sets in sets, and operations between
them. What is kept of a set is its depth.
-/

namespace CallBridge.Pattern

/-- Sets that are named between colons and brackets of their own. -/
def setNames : List String :=
  ["alnum", "alpha", "ascii", "blank", "cntrl", "digit", "graph", "lower", "print", "punct",
    "space", "upper", "word", "xdigit"]

/-- A named set after its opening bracket: whether it stands for all but its members, and the text
after it. -/
def namedSet? : List Char → Option (Bool × List Char)
  | ':' :: cs =>
    let (negated, cs) := match cs with
      | '^' :: rest => (true, rest)
      | cs => (false, cs)
    let name := cs.takeWhile (· ≠ ':')
    match cs.drop name.length with
    | ':' :: ']' :: rest =>
      if setNames.contains (String.ofList name) then some (negated, rest) else none
    | _ => none
  | _ => none

/-- A single character in a set, or an escape. -/
def member? (m : Modes) : List Char → Option (Atom × List Char)
  | '\\' :: rest => escape? m rest
  | c :: rest => some (.char c false, rest)
  | [] => none

/-- The text after a member or a range. A hyphen makes a range, unless a closing bracket or another
hyphen follows it. A range goes from one character to the same or a later one. -/
def afterMember? (m : Modes) (cs : List Char) : Option (List Char) := do
  let (low, rest) ← member? m cs
  match m.skip rest with
  | '-' :: rest =>
    if [some ']', some '-'].contains (m.peek? rest) then
      if low.isMember m then some ('-' :: rest) else none
    else
      let (high, rest) ← member? m (m.skip rest)
      match low, high with
      | .char a _, .char b _ =>
        if a ≤ b && low.isMember m && high.isMember m then some rest else none
      | _, _ => none
  | rest => if low.isMember m then some rest else none

/-- A set being read: the depth of what stands before the last operation, the depths of the members
after it, and whether only hyphens have been read so far. -/
structure OpenSet where
  left : Option Nat := none
  members : List Nat := []
  fresh : Bool := true

namespace OpenSet

def push (s : OpenSet) (depth : Nat) : OpenSet :=
  { s with members := depth :: s.members, fresh := false }

def depth (s : OpenSet) : Nat :=
  match s.left with
  | none => beside s.members
  | some left => max left (beside s.members) + 1

/-- Go on with the right side of an operation. -/
def operate (s : OpenSet) : OpenSet where
  left := some s.depth
  fresh := false

end OpenSet

/-- The opening of a set after its bracket. Of bytes there is no set of all but some. -/
def openSet? (m : Modes) (cs : List Char) : Option (List Char) :=
  match m.skip cs with
  | '^' :: rest => if m.unicode then some rest else none
  | rest => some rest

/-- Read a set up to its closing bracket: its depth, and the text after it. At its start hyphens are
members, and so is a closing bracket that is the first. `fuel` bounds the steps; each takes a
character. -/
def charSet? (m : Modes) : (fuel : Nat) → OpenSet → List Char → Option (Nat × List Char)
  | 0, _, _ => none
  | fuel + 1, s, cs =>
    let hyphenOrBracket (rest : List Char) (fresh : Bool) : Option (Nat × List Char) :=
      if Atom.isMember m (.char '-' false) then
        charSet? m fuel { s.push 0 with fresh } rest
      else none
    match s.fresh, s.members, m.skip cs with
    | _, _, [] => none
    | true, _, '-' :: rest => hyphenOrBracket rest true
    | true, [], ']' :: rest => hyphenOrBracket rest false
    | _, _, ']' :: rest => some (s.depth + 1, rest)
    | _, _, '[' :: rest =>
      match namedSet? rest with
      | some (negated, rest) =>
        if (if m.unicode then !m.caseless else !negated) then charSet? m fuel (s.push 0) rest
        else none
      | none => do
        let rest ← openSet? m rest
        let (depth, rest) ← charSet? m fuel {} rest
        charSet? m fuel (s.push depth) rest
    | _, _, '&' :: '&' :: rest | _, _, '-' :: '-' :: rest | _, _, '~' :: '~' :: rest =>
      charSet? m fuel s.operate rest
    | _, _, rest => do
      let rest ← afterMember? m rest
      charSet? m fuel (s.push 0) rest

end CallBridge.Pattern
