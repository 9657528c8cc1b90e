import CallBridge.Logging.Filter

/-!
The receiver of log events: a filter, a place, and the form of a line.
-/

namespace CallBridge

inductive Destination where
  | standardError
  | file (place : List String)
deriving DecidableEq, Repr

structure Subscriber where
  filter : Filter
  destination : Destination
  json : Bool
deriving DecidableEq, Repr

end CallBridge
