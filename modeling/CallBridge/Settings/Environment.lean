import CallBridge.FileTree
import CallBridge.Settings.Document
import CallBridge.Text.Integer

/-!
Settings from files and from the environment. One variable names a file; the others override single
settings.
-/

namespace CallBridge

namespace Settings

def load (files : FileTree) (path : String) (format : Format := Toml.library.format) :
    Except SettingsError Settings :=
  match files.readText path with
  | .ok text => parse text format
  | .error e => .error (.unreadable (path ++ ": " ++ e.message))

theorem load_of_readText {files : FileTree} {path text : String} {format : Format}
    (h : files.readText path = .ok text) : load files path format = parse text format := by
  rw [load, h]

def save (s : Settings) (files : FileTree) (path : String)
    (format : Format := Toml.library.format) : Except SettingsError FileTree := do
  let text ← s.render format
  match files.write path (Utf8.bytes text) with
  | .ok files => .ok files
  | .error e => .error (.unwritable (path ++ ": " ++ e.message))

/-- One of eight words, in any case and with blanks around it. -/
def flag? (s : String) : Option Bool :=
  match Text.lower (Text.trim s) with
  | "1" | "true" | "yes" | "on" => some true
  | "0" | "false" | "no" | "off" => some false
  | _ => none

def fileVariable : String := "NATIVECALL_CONFIG"
def capacityVariable : String := "NATIVECALL_CALLBACK_CAPACITY"
def errnoVariable : String := "NATIVECALL_CAPTURE_ERRNO"

end Settings

/-- Log settings with the environment laid over them. An unknown level counts as `info`. -/
def LogSettings.overlay (s : LogSettings) (env : Environment) : LogSettings where
  level := match env.text? "NATIVECALL_LOG_LEVEL" with
    | some text => (Level.parse? text).getD .info
    | none => s.level
  fileOutput := s.fileOutput || (env.text? "NATIVECALL_LOG_FILE").isSome
  path := (env.text? "NATIVECALL_LOG_FILE").or s.path
  json := s.json || (env.text? "NATIVECALL_LOG_JSON").isSome
  spans := s.spans || (env.text? "NATIVECALL_LOG_SPANS").isSome

namespace Settings

/-- A setting with a variable laid over it, if that is set. -/
def override {α : Type} (env : Environment) (name : String) (read : String → Option α) (a : α) :
    Except SettingsError α :=
  match env.text? name with
  | none => .ok a
  | some text =>
    match read text with
    | some b => .ok b
    | none => .error (.environment name text)

/-- Settings with the environment laid over them, validated. -/
def overlay (s : Settings) (env : Environment) : Except SettingsError Settings := do
  let capacity ← override env capacityVariable (fun s => Text.unsigned? (Text.trim s)) s.capacity
  let captureErrno ← override env errnoVariable flag? s.captureErrno
  let settings : Settings := { capacity, captureErrno, logging := s.logging.overlay env }
  settings.validate
  .ok settings

/-- Settings of the environment: those of the file it names or the defaults, with the other
variables laid over them. -/
def ofEnvironment (env : Environment) (files : FileTree)
    (format : Format := Toml.library.format) : Except SettingsError Settings := do
  let base ← match env.text? fileVariable with
    | some path => load files path format
    | none => .ok {}
  base.overlay env

end Settings

end CallBridge
