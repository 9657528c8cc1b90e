import CallBridge.Text.Blank

/-!
Levels of log events, from the most to the least verbose.
-/

namespace CallBridge

inductive Level where
  | trace | debug | info | warn | error
deriving DecidableEq, Repr

namespace Level

def all : List Level := [trace, debug, info, warn, error]

/-- Position in the order of severity. -/
def severity : Level → Nat
  | trace => 0
  | debug => 1
  | info => 2
  | warn => 3
  | error => 4

/-- The level as configuration spells it. -/
def name : Level → String
  | trace => "trace"
  | debug => "debug"
  | info => "info"
  | warn => "warn"
  | error => "error"

/-- The level as log lines spell it. -/
def label : Level → String
  | trace => "TRACE"
  | debug => "DEBUG"
  | info => "INFO"
  | warn => "WARN"
  | error => "ERROR"

def debugText : Level → String
  | trace => "Trace"
  | debug => "Debug"
  | info => "Info"
  | warn => "Warn"
  | error => "Error"

def ofName? (s : String) : Option Level := all.find? (·.name == s)

theorem ofName?_eq_some_iff {s : String} {l : Level} : ofName? s = some l ↔ l.name = s := by
  constructor
  · intro h
    have hname := List.find?_some (p := fun l : Level => l.name == s) h
    exact eq_of_beq hname
  · rintro rfl
    cases l <;> decide

/-- A level name in any case. -/
def parse? (s : String) : Option Level := ofName? (Text.lower s)

end Level

end CallBridge
