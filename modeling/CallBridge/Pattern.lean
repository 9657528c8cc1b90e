import CallBridge.Pattern.CharSet
import CallBridge.Text.Alphanumeric

/-!
Which texts are patterns that can be used. A pattern is a sequence of atoms, sets and groups, each
perhaps repeated, or several such sequences as alternatives.
-/

namespace CallBridge.Pattern

/-- What a parenthesis opens. -/
inductive Opening where
  /-- Only a change of modes for what follows. -/
  | modes (m : Modes)
  /-- A group with modes of its own, and perhaps a name. -/
  | group (m : Modes) (name : Option String)

/-- Names of groups start with a letter. -/
def isGroupName : List Char → Bool
  | [] => false
  | c :: cs =>
    (c == '_' || Text.isAlphabetic c)
      && cs.all fun c => ['_', '.', '[', ']'].contains c || Text.isAlphanumeric c

def namedGroup? (m : Modes) (cs : List Char) : Option (Opening × List Char) :=
  let name := cs.takeWhile (· ≠ '>')
  match cs.drop name.length with
  | '>' :: rest =>
    if isGroupName name then some (.group m (some (String.ofList name)), rest) else none
  | _ => none

/-- What a parenthesis opens, and the text after that. Nothing looks ahead or behind. -/
def opening? (m : Modes) : List Char → Option (Opening × List Char)
  | '?' :: 'P' :: '<' :: rest | '?' :: '<' :: rest => namedGroup? m rest
  | '?' :: rest => do
    let letters := rest.takeWhile fun c => c ≠ ':' ∧ c ≠ ')'
    let inside ← m.switch? letters
    match rest.drop letters.length with
    | ':' :: rest => some (.group inside none, rest)
    | ')' :: rest => if letters.isEmpty then none else some (.modes inside, rest)
    | _ => none
  | rest => some (.group m none, rest)

/-- An item of a sequence: how deep it nests, and whether it can be repeated. -/
structure Item where
  depth : Nat := 0
  repeatable : Bool := true

/-- A sequence being read, the last item first, with the depths of the alternatives before it and
the names given to groups so far. -/
structure Sequence where
  modes : Modes := {}
  names : List String := []
  alternatives : List Nat := []
  items : List Item := []

namespace Sequence

def push (s : Sequence) (depth : Nat) : Sequence := { s with items := { depth } :: s.items }

/-- Repeat the last item. -/
def repeatLast? (s : Sequence) : Option Sequence :=
  match s.items with
  | { depth, repeatable := true } :: before =>
    some { s with items := { depth := depth + 1 } :: before }
  | _ => none

/-- Go on with another alternative. -/
def alternate (s : Sequence) : Sequence :=
  { s with
    alternatives := beside (s.items.map Item.depth) :: s.alternatives
    items := [] }

def depth (s : Sequence) : Nat := beside s.alternate.alternatives

/-- Start a group inside of a sequence; none if its name is taken. -/
def enter? (s : Sequence) (m : Modes) (name : Option String) : Option Sequence :=
  match name with
  | none => some { modes := m, names := s.names }
  | some name =>
    if s.names.contains name then none else some { modes := m, names := name :: s.names }

/-- Go on after a group. -/
def leave (s inner : Sequence) : Sequence := { s with names := inner.names }.push (inner.depth + 1)

/-- Read a sequence up to the end of the text or to the parenthesis that closes the group around it.
The value of a field ends before its first closing brace, so no brace opens a count. `fuel` bounds
the steps; each takes a character. -/
def read? : (fuel : Nat) → Sequence → List Char → Option (Sequence × List Char)
  | 0, _, _ => none
  | fuel + 1, s, cs =>
    match s.modes.skip cs with
    | [] => some (s, [])
    | ')' :: rest => some (s, ')' :: rest)
    | '|' :: rest => s.alternate.read? fuel rest
    | '*' :: rest | '+' :: rest | '?' :: rest => do (← s.repeatLast?).read? fuel rest
    | '{' :: _ => none
    | '[' :: rest => do
      let rest ← openSet? s.modes rest
      let (depth, rest) ← charSet? s.modes fuel {} rest
      (s.push depth).read? fuel rest
    | '(' :: rest => do
      match ← opening? s.modes (s.modes.skip rest) with
      | (.modes m, rest) =>
        read? fuel { s with modes := m, items := { repeatable := false } :: s.items } rest
      | (.group m name, rest) =>
        match ← (← s.enter? m name).read? fuel rest with
        | (inner, ')' :: rest) => (s.leave inner).read? fuel rest
        | _ => none
    | c :: rest => do
      let (atom, rest) ← match c with
        | '\\' => escape? s.modes rest
        | '.' => some (.any, rest)
        | '^' | '$' => some (.edge, rest)
        | c => some (.char c false, rest)
      if atom.isItem s.modes then (s.push 0).read? fuel rest else none

end Sequence

/-- How deep a pattern may nest. -/
def depthLimit : Nat := 250

/-- Whether a text is a pattern that can be used. -/
def isUsable (s : String) : Bool :=
  match Sequence.read? (s.length + 1) {} s.toList with
  | some (s, []) => s.depth ≤ depthLimit
  | _ => false

end CallBridge.Pattern
