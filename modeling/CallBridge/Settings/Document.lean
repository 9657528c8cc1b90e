import CallBridge.Settings
import CallBridge.Toml.Library

/-!
Settings as a document. Every key may be missing and unknown keys are ignored; a section is a table,
or an array that gives its values in order. The text of a document is the affair of a TOML library.
-/

namespace CallBridge

namespace Toml.Value

/-- The entry of a section, by key in a table and by position in an array. A moment is a section
that holds no known key. -/
def entry? (v : Value) (key : String) (position : Nat) : Option Value :=
  match v with
  | table _ entries => entries.lookup key
  | array items | tables items => items[position]?
  | _ => none

def isSection : Value → Bool
  | table .. | array _ | tables _ | moment _ => true
  | _ => false

def isEmpty : Value → Bool
  | table _ [] | array [] | tables [] => true
  | _ => false

/-- A setting that may be missing: its default, or what `read` makes of its value. -/
def setting {α : Type} (default : α) (read : Value → Option α) : Option Value → Option α
  | none => some default
  | some v => read v

def boolean? : Value → Option Bool
  | boolean b => some b
  | _ => none

def string? : Value → Option String
  | string s => some s
  | _ => none

/-- A number that is not negative. -/
def count? : Value → Option Nat
  | integer (.ofNat n) => some n
  | _ => none

/-- A level by its name, or by a table whose only key is the name and holds nothing. -/
def level? : Value → Option Level
  | string s => Level.ofName? s
  | table _ [(name, v)] => if v.isEmpty then Level.ofName? name else none
  | _ => none

end Toml.Value

open Toml.Value in
def LogSettings.ofValue (v : Toml.Value) : Option LogSettings :=
  let default : LogSettings := {}
  if v.isSection then do
    let level ← setting default.level level? (v.entry? "level" 0)
    let fileOutput ← setting default.fileOutput boolean? (v.entry? "file_output" 1)
    let path ← setting default.path (fun v => v.string?.map some) (v.entry? "log_path" 2)
    let json ← setting default.json boolean? (v.entry? "json_format" 3)
    let spans ← setting default.spans boolean? (v.entry? "show_spans" 4)
    some { level, fileOutput, path, json, spans }
  else none

namespace Settings

open Toml.Value in
/-- Settings of a document, not validated; none if a value is of the wrong type. -/
def ofTable (t : Toml.Table) : Option Settings := do
  let default : Settings := {}
  let logging ← setting default.logging LogSettings.ofValue (t.lookup "logging")
  let capacity ← setting default.capacity
    (fun v => if v.isSection then setting default.capacity count? (v.entry? "capacity" 0) else none)
    (t.lookup "callbacks")
  let captureErrno ← setting default.captureErrno
    (fun v =>
      if v.isSection then setting default.captureErrno boolean? (v.entry? "capture_errno" 0)
      else none)
    (t.lookup "gateway")
  some { capacity, captureErrno, logging }

/-- The document that says everything; a missing path is left out. -/
def document (s : Settings) : Toml.Document :=
  [("logging",
      [("level", .string s.logging.level.name), ("file_output", .boolean s.logging.fileOutput)]
      ++ (s.logging.path.toList.map fun p => ("log_path", .string p))
      ++ [("json_format", .boolean s.logging.json), ("show_spans", .boolean s.logging.spans)]),
   ("callbacks", [("capacity", .integer s.capacity)]),
   ("gateway", [("capture_errno", .boolean s.captureErrno)])]

/-- A format of settings: how they are read from a text, unvalidated, and written as one. What
cannot be read or written is refused in the words of the format. -/
structure Format where
  decode : String → Except String Settings
  encode : Settings → Except String String

end Settings

/-- Settings as documents of a TOML library. -/
def Toml.Library.format (lib : Toml.Library) : Settings.Format where
  decode text := do
    let t ← lib.read text
    match Settings.ofTable t with
    | some s => .ok s
    | none => .error (lib.misfit text)
  encode s := lib.write s.document

theorem Toml.Library.decode_eq_ok_iff {lib : Toml.Library} {text : String} {s : Settings} :
    lib.format.decode text = .ok s ↔ ∃ t, lib.read text = .ok t ∧ Settings.ofTable t = some s := by
  cases ht : lib.read text with
  | error e => simp [format, ht, bind, Except.bind]
  | ok t => cases hs : Settings.ofTable t <;> simp [format, ht, hs, bind, Except.bind]

namespace Settings

variable {format : Format} {text e : String} {s : Settings}

/-- Read and validate a text. -/
def parse (text : String) (format : Format := Toml.library.format) :
    Except SettingsError Settings :=
  match format.decode text with
  | .ok s => s.validate.map fun _ => s
  | .error e => .error (.malformed e)

theorem parse_of_ok (h : format.decode text = .ok s) :
    parse text format =
      if 1 ≤ s.capacity ∧ s.capacity ≤ maxCallbacks then .ok s
      else .error (.capacity s.capacity) := by
  unfold parse validate
  rw [h]
  dsimp only
  split <;> rfl

theorem parse_of_error (h : format.decode text = .error e) :
    parse text format = .error (.malformed e) := by
  rw [parse, h]

/-- The text of settings. -/
def render (s : Settings) (format : Format := Toml.library.format) :
    Except SettingsError String :=
  match format.encode s with
  | .ok text => .ok text
  | .error e => .error (.unrepresentable e)

/-- The text of the default settings. -/
def defaultText (format : Format := Toml.library.format) : String :=
  match render {} format with
  | .ok text => text
  | .error _ => "# Failed to generate config"

end Settings

end CallBridge
