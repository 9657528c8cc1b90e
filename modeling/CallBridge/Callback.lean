import CallBridge.Identity
import CallBridge.Text.Shown
import CallBridge.TypeDesc

/-!
Callbacks: a description of parameters and results together with a body. Nothing is checked here;
registration validates. A shared callback has an identity, so that registering it again can be told
from registering another one.
-/

namespace CallBridge

structure Callback (β : Type) where
  params : List TypeDesc
  results : List TypeDesc
  body : β
deriving DecidableEq

structure SharedCallback (β : Type) where
  callback : Callback β
  identity : Identity
deriving DecidableEq

/-- A callback as a table holds it, with its identity if it is a shared one. -/
structure HeldCallback (β : Type) where
  callback : Callback β
  identity : Option Identity := none
deriving DecidableEq

def SharedCallback.held {β : Type} (s : SharedCallback β) : HeldCallback β where
  callback := s.callback
  identity := some s.identity

/-- The description as diagnostics show it; the body is not shown. -/
def Callback.debug {β : Type} (c : Callback β) : String :=
  Text.shownOpenRecord "Callback"
    [("params", Text.shownList TypeDesc.debug c.params),
     ("results", Text.shownList TypeDesc.debug c.results)]

end CallBridge
