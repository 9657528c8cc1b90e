import CallBridge.Action

/-!
Log lines. Of the records of a run, the events after the first subscription that its filter admits
are written, either as fields or as one line of text.
-/

namespace CallBridge

namespace FieldValue

/-- The value as a text of its own. -/
def raw : FieldValue → String
  | text s | plain s => s
  | number n => toString n
  | address w => w.decimal

/-- The value in a line of text, where texts are quoted unless they are plain. -/
def inLine : FieldValue → String
  | text s => Text.quoted s
  | v => v.raw

end FieldValue

namespace Event

/-- The event as a text: the message, then name and fields. -/
def lineText (e : Event) : String :=
  e.message ++ String.join ((("event", FieldValue.text e.name) :: e.fields).map fun (name, v) =>
    " " ++ name ++ "=" ++ v.inLine)

end Event

inductive LineForm where
  | fields (fields : List (String × FieldValue))
  | text (s : String)
deriving DecidableEq, Repr

inductive LogLine where
  | entry (level : Level) (target : String) (form : LineForm)
  /-- A line that is an object in braces, as it stands. -/
  | object (text : String)
deriving DecidableEq, Repr

/-- Whether a word is a moment in time, as the first word of a line of text is. -/
def isTime (word : List Char) : Bool :=
  (word.head?.any Char.isDigit) && word.contains 'T' && word.getLast? == some 'Z'

/-- Whether a word names a thread by its number. -/
def isThread (word : List Char) : Bool :=
  "ThreadId(".toList.isPrefixOf word && word.getLast? == some ')'
    && ((word.drop 9).dropLast.all Char.isDigit)

/-- Whether a word is a line number. -/
def isLineNumber (word : List Char) : Bool :=
  1 < word.length && word.dropLast.all Char.isDigit && word.getLast? == some ':'

/-- The first word of a text that goes on with a word, and the text after it. -/
def splitWord (cs : List Char) : List Char × List Char :=
  let cs := cs.dropWhile (· = ' ')
  let word := cs.takeWhile (· ≠ ' ')
  (word, cs.drop word.length)

/-- The text after a word of some kind, where there is one. -/
def skipWord (kind : List Char → Bool) (cs : List Char) : List Char :=
  let (word, rest) := splitWord cs
  if kind word then rest else cs

/-- A line that has the form of a log line: an object, or a time, a level, perhaps a thread, a
target with a colon, perhaps a line number, and the rest. -/
def LogLine.read? (s : String) : Option LogLine :=
  if s.toList.head? = some '{' then some (.object s) else
    let time := s.toList.takeWhile (· ≠ ' ')
    let (label, rest) := splitWord (s.toList.drop time.length)
    let (target, rest) := splitWord (skipWord isThread rest)
    match Level.all.find? (·.label == String.ofList label) with
    | some level =>
      if isTime time && target.getLast? == some ':' then
        let rest := (skipWord isLineNumber rest).drop 1
        some (.entry level (String.ofList target.dropLast) (.text (String.ofList rest)))
      else none
    | none => none

/-- The lines of a text. A carriage return before a line feed belongs to the line end. -/
def textLines (s : String) : List String :=
  (s.splitOn "\n").map fun line =>
    if line.toList.getLast? = some '\r' then String.ofList line.toList.dropLast else line

/-- The log lines of a text, and lines written after it. Where the text does not end with its last
line, that line and the first one written are one, and no log line. -/
def LogLine.following (before : String) (written : List LogLine) : List LogLine :=
  let lines := textLines before
  if written.isEmpty || lines.getLast?.all (·.toList.all Text.isBlank) then
    lines.filterMap LogLine.read? ++ written
  else lines.dropLast.filterMap LogLine.read? ++ written.drop 1

namespace Subscriber

/-- The log lines that an event leaves, if the filter admits it. A text with line feeds takes up
several lines, of which those after the first count only if they look like log lines. -/
def lines (s : Subscriber) (e : Event) : List LogLine :=
  if s.filter.admits e then
    let line (form : LineForm) : LogLine := .entry e.level e.target form
    if s.json then [line (.fields e.allFields)]
    else match textLines e.lineText with
      | [] => []
      | first :: more => line (.text first) :: more.filterMap LogLine.read?
  else []

end Subscriber

/-- Lines written for records, with where they go. Only the first subscriber receives events. -/
def writtenLines : Option Subscriber → List Record → List (Destination × LogLine)
  | _, [] => []
  | none, .subscribed s :: rest => writtenLines (some s) rest
  | some s, .subscribed _ :: rest => writtenLines (some s) rest
  | none, .event _ :: rest => writtenLines none rest
  | some s, .event e :: rest =>
    (s.lines e).map (fun line => (s.destination, line)) ++ writtenLines (some s) rest

end CallBridge
