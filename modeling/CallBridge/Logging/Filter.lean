import CallBridge.Logging.Directive

/-!
Which events become log lines. A filter is a list of directives; of those that concern an event the
most specific decides, and of equal ones the last.
-/

namespace CallBridge

abbrev Filter := List Directive

namespace Filter

/-- Write the events of the library from `level` on. -/
def library (level : Level) : Filter := [{ target := some "nativecall", level := some level }]

/-- Directives between commas, or the fault of the first that has one. -/
def parse (s : String) : Except DirectiveFault Filter :=
  ((s.splitOn ",").filter (· ≠ "")).mapM Directive.read

/-- The directive that decides for an event. -/
def deciding (f : Filter) (e : Event) : Option Directive :=
  (f.filter (·.concerns e)).foldl (fun best d =>
    match best with
    | some b => if d.precedes b then some d else best
    | none => some d) none

def admits (f : Filter) (e : Event) : Bool :=
  match (f.deciding e).bind Directive.level with
  | some least => least.severity ≤ e.level.severity
  | none => false

end Filter

end CallBridge
