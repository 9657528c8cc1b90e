import CallBridge.Toml.Value
import CallBridge.Word

/-!
Writing a TOML document of sections with simple values. Of the ways to write a string, the plainest
that needs no escape is taken.
-/

namespace CallBridge.Toml

inductive Scalar where
  | string (s : String)
  | integer (n : Nat)
  | boolean (b : Bool)
deriving DecidableEq, Repr

/-- Sections in order, each with its keys in order. -/
abbrev Document := List (String × List (String × Scalar))

def Scalar.value : Scalar → Value
  | string s => .string s
  | integer n => .integer n
  | boolean b => .boolean b

/-- The table that a document stands for. -/
def Document.table (d : Document) : Table :=
  d.map fun (name, entries) => (name, .table .header (entries.map fun (k, v) => (k, v.value)))

/-- Length of the longest run of a character. -/
def longestRun (c : Char) (cs : List Char) : Nat :=
  (cs.foldl (fun (longest, now) x =>
    if x = c then (max longest (now + 1), now + 1) else (longest, 0)) (0, 0)).1

def hexUpper (width n : Nat) : String :=
  (hexPadded width n).map Char.toUpper

/-- Text of a character other than a quote in a basic string. Line feeds stay in a string over several
lines. -/
def charText (multiline : Bool) : Char → String
  | '\x08' => "\\b"
  | '\t' => "\\t"
  | '\n' => if multiline then "\n" else "\\n"
  | '\x0c' => "\\f"
  | '\r' => "\\r"
  | '\\' => "\\\\"
  | c => if c.toNat < 0x20 ∨ c.toNat = 0x7F then "\\u" ++ hexUpper 4 c.toNat else c.toString

/-- Text of a basic string without its quotes. Quotes stay in a string over several lines, except the
one after each `quotes` of them in a row. -/
def basicText (multiline : Bool) (quotes : Nat) : (seen : Nat) → List Char → String
  | _, [] => ""
  | seen, '"' :: rest =>
    if seen < quotes then "\"" ++ basicText multiline quotes (seen + 1) rest
    else "\\\"" ++ basicText multiline quotes 0 rest
  | _, c :: rest => charText multiline c ++ basicText multiline quotes 0 rest

/-- A string in quotes. -/
def stringText (s : String) : String :=
  let cs := s.toList
  let controls := cs.any fun c => c != '\t' && c != '\n' && (c.toNat < 0x20 || c.toNat == 0x7F)
  let backslash := cs.contains '\\'
  let newline := cs.contains '\n'
  let single := longestRun '\'' cs
  let double := longestRun '"' cs
  let gap := if newline then "\n" else ""
  let basic := "\"" ++ basicText false 0 0 cs ++ "\""
  let multiline := "\"\"\"" ++ gap ++ basicText true 2 0 cs ++ "\"\"\""
  if !controls && !backslash && double == 0 && !newline then basic
  else if !controls && single == 0 && !newline then "'" ++ s ++ "'"
  else if !controls && !backslash && double ≤ 2 then multiline
  else if !controls && single ≤ 2 then "'''" ++ gap ++ s ++ "'''"
  else if newline then multiline
  else basic

/-- A value; none if it is a number beyond the integers that a reader takes. -/
def Scalar.text? : Scalar → Option String
  | string s => some (stringText s)
  | integer n => if n < 0x8000000000000000 then some (toString n) else none
  | boolean b => some (if b then "true" else "false")

def sectionText? (name : String) (entries : List (String × Scalar)) : Option String := do
  let lines ← entries.mapM fun (k, v) => v.text?.map fun text => k ++ " = " ++ text ++ "\n"
  some ("[" ++ name ++ "]\n" ++ String.join lines)

/-- A document with a blank line between sections. Names and keys must be bare. -/
def write (d : Document) : Option String :=
  (d.mapM fun (name, entries) => sectionText? name entries).map ("\n".intercalate ·)

end CallBridge.Toml
