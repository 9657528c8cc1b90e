import CallBridge.Process

/-!
Starting to log, which happens once. What is reported before is not written anywhere.
-/

namespace CallBridge

namespace LogSettings

/-- File name taken when a path has none. -/
def defaultFileName : String := "nativecall.log"

/-- Names without those at the end that stay where they are. -/
def settled (names : List String) : List String :=
  (names.reverse.dropWhile fun n => n = "" ∨ n = ".").reverse

/-- Directory and file name of a path, the directory as it is written up to its last name. Without a
directory it is where the path starts; a path that ends in `..`, or that has no names at all, has no
file name. -/
def logPlace (files : FileTree) (path : String) : String × String :=
  let names := settled (FileTree.names path)
  match names.getLast? with
  | none => (".", defaultFileName)
  | some last =>
    let directory := match settled names.dropLast with
      | [] => if (files.split path).1 = [] then "/" else "."
      | names => "/".intercalate names
    (directory, if last = ".." then defaultFileName else last)

end LogSettings

namespace Process

variable {β η ε : Type}

/-- Variable whose directives replace the level of the settings. -/
def filterVariable : String := "RUST_LOG"

/-- The filter of the environment, or that of the settings where none is set or a directive is
malformed. -/
def filter (env : Environment) (s : LogSettings) : Except Text.Tear Filter :=
  match (env.text? filterVariable).map Filter.parse with
  | some (.ok f) => .ok f
  | some (.error (.torn t)) => .error t
  | some (.error .malformed) | none => .ok (.library s.level)

/-- The path to log to, if the settings ask for a file. -/
def logPath? (s : LogSettings) : Option String := if s.fileOutput then s.path else none

/-- Start logging, the first time that it succeeds. Where the directory of the log file cannot be
made, lines go to standard error; where the file itself cannot be opened, starting fails. -/
def startLogging (s : LogSettings) : Action (Process β η ε) Unit := do
  let p ← Action.get
  if p.loggingStarted then pure () else
  match filter p.environment s with
  | .error t => Action.panic (.torn t)
  | .ok filter => do
    let plain : Action (Process β η ε) Unit :=
      Action.record (.subscribed { filter, destination := .standardError, json := s.json })
    match logPath? s with
    | none => plain
    | some path =>
      let (directory, name) := LogSettings.logPlace p.files path
      let (made, files) := p.files.makeDirectories directory
      Action.modify fun p => { p with files }
      match made with
      | .error e => do
        plain
        Action.emit (.logFileUnusable path e.message)
      | .ok () =>
        match files.touch directory name with
        | .error e => Action.panic (.logFile e.debug)
        | .ok (place, files) => do
          Action.modify fun p => { p with files }
          Action.record (.subscribed { filter, destination := .file place, json := s.json })
    Action.modify fun p => { p with loggingStarted := true }

/-- Start logging as the environment asks. -/
def startLoggingFromEnvironment : Action (Process β η ε) Unit := do
  let p ← Action.get
  startLogging (({} : LogSettings).overlay p.environment)

/-- Start logging as the settings in effect ask. -/
def start : Action (Process β η ε) Unit := do
  let s ← readSettings
  startLogging s.logging

/-- Put settings into effect and start logging as they ask. -/
def startWith (s : Settings) : Action (Process β η ε) (Except SettingsError Unit) := do
  match ← install s with
  | .error e => pure (.error e)
  | .ok () => do
    startLogging s.logging
    pure (.ok ())

/-- Start for programs that cannot catch a panic, which ends the process. -/
def startOrAbort : Action (Process β η ε) Unit := do
  match ← Action.attempt start with
  | .ok () => pure ()
  | .error _ => Action.stop .abort

end Process

end CallBridge
