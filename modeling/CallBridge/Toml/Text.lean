import CallBridge.Text.CodePoint

/-!
Strings in TOML: basic and literal, on one line or on several. Line ends are single line feeds here;
a carriage return before one has been removed.
-/

namespace CallBridge.Toml

abbrev Reader (α : Type) := List Char → Option (α × List Char)

/-- Characters that strings and comments hold as they are: no controls but the tab. -/
def isPlain (c : Char) : Bool := c == '\t' || (0x20 ≤ c.toNat && c.toNat ≠ 0x7F)

def isSpace (c : Char) : Bool := c == ' ' || c == '\t'

/-- Put a character in front of what is read after it. -/
def push (c : Char) : Option (List Char × List Char) → Option (List Char × List Char) :=
  Option.map fun (text, rest) => (c :: text, rest)

def escaped? : Char → Option Char
  | 'b' => some '\x08'
  | 't' => some '\t'
  | 'n' => some '\n'
  | 'f' => some '\x0c'
  | 'r' => some '\r'
  | '"' => some '"'
  | '\\' => some '\\'
  | _ => none

/-- A basic string after its opening quote. -/
def basicString : List Char → Option (List Char × List Char)
  | [] => none
  | '"' :: rest => some ([], rest)
  | '\\' :: 'u' :: a :: b :: c :: d :: rest =>
    (Text.codePoint? [a, b, c, d]).bind fun x => push x (basicString rest)
  | '\\' :: 'U' :: a :: b :: c :: d :: e :: f :: g :: h :: rest =>
    (Text.codePoint? [a, b, c, d, e, f, g, h]).bind fun x => push x (basicString rest)
  | '\\' :: c :: rest => (escaped? c).bind fun x => push x (basicString rest)
  | c :: rest => if isPlain c && c != '\\' then push c (basicString rest) else none

/-- A literal string after its opening quote. -/
def literalString : List Char → Option (List Char × List Char)
  | [] => none
  | '\'' :: rest => some ([], rest)
  | c :: rest => if isPlain c then push c (literalString rest) else none

/-- Up to two quotes right before the closing three belong to the string. -/
def trailingQuotes (quote : Char) : List Char → List Char × List Char
  | a :: b :: rest =>
    if a ≠ quote then ([], a :: b :: rest)
    else if b = quote then ([a, b], rest)
    else ([a], b :: rest)
  | [a] => if a = quote then ([a], []) else ([], [a])
  | [] => ([], [])

/-- Whether only blanks are left on the line. -/
def endsLine (cs : List Char) : Bool := (cs.dropWhile isSpace).head? == some '\n'

/-- A basic string over several lines after its opening quotes. A backslash at the end of a line
skips everything up to the next character that is no blank; `skipping` is set meanwhile. -/
def multilineBasic (skipping : Bool) : List Char → Option (List Char × List Char)
  | [] => none
  | '"' :: '"' :: '"' :: rest => some (trailingQuotes '"' rest)
  | '\\' :: 'u' :: a :: b :: c :: d :: rest =>
    (Text.codePoint? [a, b, c, d]).bind fun x => push x (multilineBasic false rest)
  | '\\' :: 'U' :: a :: b :: c :: d :: e :: f :: g :: h :: rest =>
    (Text.codePoint? [a, b, c, d, e, f, g, h]).bind fun x => push x (multilineBasic false rest)
  | '\\' :: c :: rest =>
    if endsLine (c :: rest) then multilineBasic true rest
    else (escaped? c).bind fun x => push x (multilineBasic false rest)
  | c :: rest =>
    if skipping && (isSpace c || c == '\n') then multilineBasic true rest
    else if (isPlain c && c != '\\') || c == '\n' then push c (multilineBasic false rest)
    else none

/-- A literal string over several lines after its opening quotes. -/
def multilineLiteral : List Char → Option (List Char × List Char)
  | [] => none
  | '\'' :: '\'' :: '\'' :: rest => some (trailingQuotes '\'' rest)
  | c :: rest =>
    if isPlain c || c == '\n' then push c (multilineLiteral rest) else none

/-- Drop a line feed right after opening quotes. -/
def afterOpening : List Char → List Char
  | '\n' :: rest => rest
  | cs => cs

/-- A string of any of the four kinds. -/
def string : Reader String := fun cs =>
  let read := match cs with
    | '"' :: '"' :: '"' :: rest => multilineBasic false (afterOpening rest)
    | '"' :: rest => basicString rest
    | '\'' :: '\'' :: '\'' :: rest => multilineLiteral (afterOpening rest)
    | '\'' :: rest => literalString rest
    | _ => none
  read.map fun (text, rest) => (String.ofList text, rest)

end CallBridge.Toml
