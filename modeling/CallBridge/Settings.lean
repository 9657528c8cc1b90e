import CallBridge.EntryTable
import CallBridge.Level
import CallBridge.Text.Quoted

/-!
Settings of the library: how many callbacks it holds, whether calls report the error number, and
how it logs.
-/

namespace CallBridge

structure LogSettings where
  level : Level := .info
  fileOutput : Bool := false
  path : Option String := none
  json : Bool := false
  spans : Bool := false
deriving DecidableEq, Repr

/-- Everything, to a file. -/
def LogSettings.verbose : LogSettings where
  level := .trace
  fileOutput := true
  path := some "nativecall.log"
  spans := true

structure Settings where
  capacity : Nat := maxCallbacks
  captureErrno : Bool := true
  logging : LogSettings := {}
deriving DecidableEq, Repr

inductive SettingsError where
  | unreadable (text : String)
  | unwritable (text : String)
  | malformed (text : String)
  | unrepresentable (text : String)
  | capacity (n : Nat)
  | environment (name value : String)
  | alreadyInstalled
deriving DecidableEq, Repr

namespace SettingsError

def message : SettingsError → String
  | unreadable text => "Failed to read config: " ++ text
  | unwritable text => "Failed to write config: " ++ text
  | malformed text => "Failed to parse config: " ++ text
  | unrepresentable text => "Failed to serialize config: " ++ text
  | capacity n =>
    "Callback capacity must be between 1 and " ++ toString maxCallbacks ++ ", got " ++ toString n
  | environment name value => "Invalid value for " ++ name ++ ": " ++ Text.quoted value
  | alreadyInstalled => "Configuration is already in effect"

def debug : SettingsError → String
  | unreadable text => "Read(" ++ Text.quoted text ++ ")"
  | unwritable text => "Write(" ++ Text.quoted text ++ ")"
  | malformed text => "Parse(" ++ Text.quoted text ++ ")"
  | unrepresentable text => "Serialize(" ++ Text.quoted text ++ ")"
  | capacity n => "InvalidCapacity(" ++ toString n ++ ")"
  | environment name value =>
    Text.shownRecord "InvalidEnv" [("var", Text.quoted name), ("value", Text.quoted value)]
  | alreadyInstalled => "AlreadyInstalled"

end SettingsError

/-- A table of no entries, or of more than there are entry points, is refused. -/
def Settings.validate (s : Settings) : Except SettingsError Unit :=
  if 1 ≤ s.capacity ∧ s.capacity ≤ maxCallbacks then .ok () else .error (.capacity s.capacity)

end CallBridge
