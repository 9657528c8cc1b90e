import CallBridge.Toml.Moment
import CallBridge.Toml.Value

/-!
Reading a TOML document. A text is accepted or not; what is wrong with a refused one is not told.
-/

namespace CallBridge.Toml

/-- Values nest, and keys have parts, up to this number. -/
def depthLimit : Nat := 79

def skipSpace (cs : List Char) : List Char := cs.dropWhile isSpace

/-- Skip blanks, line feeds and comments; `comment` is set inside of one. -/
def skipLines (comment : Bool) : List Char → Option (List Char)
  | [] => some []
  | c :: rest =>
    if comment then
      if c = '\n' then skipLines false rest else if isPlain c then skipLines true rest else none
    else if isSpace c || c == '\n' then skipLines false rest
    else if c = '#' then skipLines true rest
    else some (c :: rest)

/-- The end of a line: blanks, perhaps a comment, and a line feed or the end of the text. -/
def lineEnd (cs : List Char) : Option (List Char) :=
  let rest := match skipSpace cs with
    | '#' :: comment => comment.dropWhile isPlain
    | rest => rest
  match rest with
  | [] => some []
  | '\n' :: rest => some rest
  | _ => none

def isBareKey (c : Char) : Bool := c.isAlphanum || c == '_' || c == '-'

/-- A part of a key: bare, or a string on one line. -/
def keyPart : Reader String := fun cs =>
  match cs with
  | '"' :: rest => (basicString rest).map fun (text, rest) => (String.ofList text, rest)
  | '\'' :: rest => (literalString rest).map fun (text, rest) => (String.ofList text, rest)
  | _ =>
    let bare := cs.takeWhile isBareKey
    if bare.isEmpty then none else some (String.ofList bare, cs.dropWhile isBareKey)

/-- Parts of a key between dots, with blanks around them: all but the last, and the last. -/
def key : (limit : Nat) → Reader (List String × String)
  | 0, _ => none
  | limit + 1, cs => do
    let (part, rest) ← keyPart (skipSpace cs)
    match skipSpace rest with
    | '.' :: rest => do
      let ((path, last), rest) ← key limit rest
      some ((part :: path, last), rest)
    | rest => some (([], part), rest)

def isWord (c : Char) : Bool :=
  c.isAlphanum || c == '_' || c == '+' || c == '-' || c == '.' || c == ':'

/-- A value that is written as one word, or as a date and a time with a blank between them. -/
def word : Reader Value := fun cs =>
  let w := cs.takeWhile isWord
  let rest := cs.dropWhile isWord
  if w = ['t', 'r', 'u', 'e'] then some (.boolean true, rest)
  else if w = ['f', 'a', 'l', 's', 'e'] then some (.boolean false, rest)
  else match integer? w with
    | some i => some (.integer i, rest)
    | none =>
      if isFloat w then some (.float (String.ofList w), rest)
      else if isDate w then
        match rest with
        | ' ' :: more =>
          let time := more.takeWhile isWord
          if isZonedTime time then
            some (.moment (String.ofList (w ++ ' ' :: time)), more.dropWhile isWord)
          else some (.moment (String.ofList w), rest)
        | _ => some (.moment (String.ofList w), rest)
      else if isMoment w then some (.moment (String.ofList w), rest)
      else none

/-- A value without brackets. -/
def simple : Reader Value := fun cs =>
  match cs with
  | '"' :: _ | '\'' :: _ => (string cs).map fun (s, rest) => (.string s, rest)
  | _ => word cs

/-- Items of an array after its opening bracket. Each takes up at least one character, which bounds
their number by the length of the text. -/
def items (item : Reader Value) : (bound : Nat) → Reader (List Value)
  | 0, _ => none
  | bound + 1, cs => do
    match ← skipLines false cs with
    | ']' :: rest => some ([], rest)
    | cs => do
      let (v, rest) ← item cs
      match ← skipLines false rest with
      | ',' :: rest => do
        let (vs, rest) ← items item bound rest
        some (v :: vs, rest)
      | ']' :: rest => some ([v], rest)
      | _ => none

/-- A key, an equals sign and a value. -/
def pair (item : Reader Value) : Reader ((List String × String) × Value) := fun cs => do
  let (k, rest) ← key depthLimit cs
  match rest with
  | '=' :: rest => do
    let (v, rest) ← item (skipSpace rest)
    some ((k, v), rest)
  | _ => none

/-- Pairs of an inline table up to its closing brace, added to a table. -/
def pairs (item : Reader Value) : (bound : Nat) → Table → Reader Table
  | 0, _, _ => none
  | bound + 1, t, cs => do
    let (((path, last), v), rest) ← pair item cs
    let (_, t) ← t.insert .closed path last v
    match skipSpace rest with
    | ',' :: rest => pairs item bound t rest
    | '}' :: rest => some (t, rest)
    | _ => none

/-- A value with brackets nested up to `depth`. -/
def value : (depth : Nat) → Reader Value
  | 0, cs => simple cs
  | depth + 1, cs =>
    match cs with
    | '[' :: rest =>
      (items (value depth) (rest.length + 1) rest).map fun (vs, rest) => (.array vs, rest)
    | '{' :: rest =>
      match skipSpace rest with
      | '}' :: rest => some (.table .closed [], rest)
      | _ =>
        (pairs (value depth) (rest.length + 1) [] rest).map fun (t, rest) =>
          (.table .closed t, rest)
    | _ => simple cs

/-- The rest of a header after its opening brackets: the key, and `closing` up to the end of the
line. -/
def header (closing : List Char) : Reader (List String × String) := fun cs => do
  let (k, rest) ← key depthLimit cs
  if closing.isPrefixOf rest then
    let rest ← lineEnd (rest.drop closing.length)
    some (k, rest)
  else none

/-- Lines of a document. `here` leads to the table that keys belong to. Each step consumes at least
one character. -/
def lines : (bound : Nat) → (root : Table) → (here : List String) → List Char → Option Table
  | 0, _, _, _ => none
  | bound + 1, root, here, cs =>
    match skipSpace cs with
    | [] => some root
    | '\n' :: rest => lines bound root here rest
    | '#' :: comment => do
      let rest ← lineEnd ('#' :: comment)
      lines bound root here rest
    | '[' :: '[' :: rest => do
      let ((path, last), rest) ← header [']', ']'] rest
      let root ← root.openNext path last
      lines bound root (path ++ [last]) rest
    | '[' :: rest => do
      let ((path, last), rest) ← header [']'] rest
      let root ← root.openTable path last
      lines bound root (path ++ [last]) rest
    | cs => do
      let (((path, last), v), rest) ← pair (value depthLimit) cs
      let rest ← lineEnd rest
      let (_, root) ← Table.update false (fun f t => t.insert f path last v) here .header root
      lines bound root here rest

/-- Line ends of two characters become line feeds. -/
def unifyLineEnds : List Char → List Char
  | '\r' :: '\n' :: rest => '\n' :: unifyLineEnds rest
  | c :: rest => c :: unifyLineEnds rest
  | [] => []

/-- The table that a document describes. A byte order mark in front is skipped. -/
def read (s : String) : Option Table :=
  let cs := unifyLineEnds (match s.toList with
    | '\uFEFF' :: rest => rest
    | cs => cs)
  lines (cs.length + 1) [] [] cs

end CallBridge.Toml
