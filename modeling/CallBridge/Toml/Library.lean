import CallBridge.Toml.Reader
import CallBridge.Toml.Writer

/-!
A TOML library as the settings use one. Which texts it takes, which text it writes, and what it says
where it cannot, is its own affair.
-/

namespace CallBridge.Toml

structure Library where
  read : String → Except String Table
  write : Document → Except String String
  /-- What it says of a text whose document holds a value of another type than is asked for. -/
  misfit : String → String

/-- The reader and the writer of this directory as a library of few words. -/
def library : Library where
  read text :=
    match Toml.read text with
    | some t => .ok t
    | none => .error "not a document"
  write d :=
    match Toml.write d with
    | some text => .ok text
    | none => .error "integer out of range"
  misfit _ := "not a settings document"

end CallBridge.Toml
