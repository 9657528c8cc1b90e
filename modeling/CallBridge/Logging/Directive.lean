import CallBridge.Event
import CallBridge.Text.Alphanumeric
import CallBridge.Text.Cut
import CallBridge.Text.Integer
import CallBridge.Text.Number
import CallBridge.Pattern

/-!
Directives of a log filter as they are written: a target, a span in brackets, a field in braces
inside of them, and a level after an equals sign. Each part may be missing, and a level may stand
alone.
-/

namespace CallBridge

/-- What is asked of a field: that it exists, or also that its value matches a pattern. -/
structure FieldTest where
  name : String
  value : Option String := none
deriving DecidableEq, Repr

/-- Events are written from `level` on, or never, if their target starts with the given one, they
happen in a span of the given name, and they have the field. -/
structure Directive where
  target : Option String := none
  span : Option String := none
  field : Option FieldTest := none
  level : Option Level := some .trace
deriving DecidableEq, Repr

/-- Why a text is no directive. -/
inductive DirectiveFault where
  | malformed
  | torn (t : Text.Tear)
deriving DecidableEq, Repr

/-- A name and perhaps a value after an equals sign; a second one ends the value. The value is a
number or a pattern. -/
def FieldTest.read (s : String) : Except DirectiveFault FieldTest :=
  match s.splitOn "=" with
  | name :: value :: _ =>
    if Text.isNumber value || Pattern.isUsable value then .ok { name, value := some value }
    else .error .malformed
  | _ => if s = "" then .error .malformed else .ok { name := s }

namespace Directive

/-- A level in any case, or its number; `off` is no level at all. -/
def threshold? (s : String) : Option (Option Level) :=
  match Text.unsigned? s with
  | some n => [none, some .error, some .warn, some .info, some .debug, some .trace][n]?
  | none =>
    if Text.lower s = "off" then some none else (Level.parse? s).map some

/-- A directive as it is written, with the blanks around it. Its parts are looked for in the text
without those blanks and cut out of the whole text at the same byte positions, so that blanks before
a directive shift its parts. -/
structure Written where
  whole : List Char

namespace Written

def cut (w : Written) (start stop : Nat) : Except DirectiveFault String :=
  (Text.cut w.whole start stop).mapError .torn

def cutFrom (w : Written) (start : Nat) : Except DirectiveFault String :=
  (Text.cutFrom w.whole start).mapError .torn

/-- What is left at a position after the target and the span: a level after an equals sign, or
nothing. An empty level is that of a directive without one. -/
def finish (w : Written) (d : Directive) (position : Nat) :
    List Char → Except DirectiveFault Directive
  | [] => .ok d
  | '=' :: _ => do
    let text ← w.cutFrom (position + 1)
    if text = "" then .ok d else
      match threshold? text with
      | some level => .ok { d with level }
      | none => .error .malformed
  | _ => .error .malformed

/-- What follows an opening bracket, from a position on. -/
def bracketed (w : Written) (d : Directive) (position : Nat) (cs : List Char) :
    Except DirectiveFault Directive := do
  let name := cs.takeWhile fun c => c ≠ ']' ∧ c ≠ '{'
  let stop := position + Text.byteLength name
  match cs.drop name.length with
  | ']' :: rest => w.finish { d with span := some (← w.cut position stop) } (stop + 1) rest
  | '{' :: rest =>
    let span ← w.cut position stop
    let test := rest.takeWhile (· ≠ '}')
    let close := stop + 1 + Text.byteLength test
    match rest.drop test.length with
    | '}' :: rest =>
      let field ← FieldTest.read (← w.cut (stop + 1) close)
      let d := { d with span := if span = "" then none else some span, field := some field }
      match rest with
      | ']' :: rest => w.finish d (close + 2) rest
      | _ => .error .malformed
    | _ => .error .malformed
  | _ => .error .malformed

/-- Find the parts in the text without the blanks around it. What has neither brackets nor an equals
sign is a level if it can be, and else a target. -/
def read (w : Written) (body : List Char) : Except DirectiveFault Directive :=
  match body with
  | '[' :: rest => w.bracketed {} 1 rest
  | c :: _ =>
    if Text.isAlphanumeric c || c == '-' || c == ':' || c == '_' then do
      let target := body.takeWhile fun c => c ≠ '=' ∧ c ≠ '['
      let stop := Text.byteLength target
      match body.drop target.length with
      | [] =>
        let alone := String.ofList w.whole
        match threshold? alone with
        | some level => .ok { level }
        | none => .ok { target := some alone }
      | '[' :: rest => w.bracketed { target := some (← w.cut 0 stop) } (stop + 1) rest
      | rest => w.finish { target := some (← w.cut 0 stop) } stop rest
    else .error .malformed
  | [] => .error .malformed

end Written

def read (s : String) : Except DirectiveFault Directive :=
  Written.read { whole := s.toList } (Text.trim s).toList

/-- Whether a directive is about an event. The library has no spans, and a value is only asked of
the fields of spans. -/
def concerns (d : Directive) (e : Event) : Bool :=
  d.span.isNone
    && (d.target.all fun target => target.isPrefixOf e.target)
    && (d.field.all fun f => f.value.isNone && e.fieldNames.contains f.name)

/-- Whether `d` goes before `b`: its target is longer, or of the same length while `b` asks for no
field or for one that does not come later in the alphabet. -/
def precedes (d b : Directive) : Bool :=
  let length (d : Directive) := (d.target.getD "").length
  length b < length d || (length b == length d &&
    match b.field, d.field with
    | none, _ => true
    | some _, none => false
    | some f, some g => !(g.name < f.name))

end Directive

end CallBridge
