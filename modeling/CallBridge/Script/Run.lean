import CallBridge.Script.World

/-!
Running scripts. Bodies of callbacks are scripts that run steps, whose dispatches run bodies in
turn; the depth of that nesting is bounded.
-/

namespace CallBridge.Script

open World

/-- Where the functions that scripts call lie. -/
def Target.address : Target → Word
  | null => 0
  | words => 0x7FFD5EC01000
  | float => 0x7FFD5EC02000

def Target.name : Target → String
  | null => "null"
  | words => "words"
  | float => "float"

/-- Note what a function found when it was entered, and return what the plan says. -/
def enterTarget (float : Bool) (words : ArgumentWords) : Action World ResultWords := do
  let w ← Action.get
  let t := w.client.target
  let ints := words.ints.toList
  let floats := words.floats.toList
  let see (asText : Bool) (x : Word) : SeenWord :=
    if asText then .text (w.memory.stringAt x) else .word x
  let seen : Seen := {
    ints := ints.mapIdx fun i x => see (t.strings.contains i) x
    floats := floats.mapIdx fun i x => see (t.strings.contains i && ints[i]? == some x) x
    errno := w.errno.toInt }
  onClient fun c => { c with target := { c.target with seen := some seen } }
  match t.returns.errno with
  | some e => Action.modify fun w => { w with errno := BitVec.ofInt 32 e }
  | none => pure ()
  pure (if float then { r1 := t.r1, f0 := t.returns.f0 } else { r1 := t.r1, r2 := t.r2 })

/-- All native code of the world. -/
def nativeCode (x : Execution Behaviour World) : NativeCode World := fun address words => do
  if address = Target.words.address then enterTarget false words
  else if address = Target.float.address then enterTarget true words
  else if some address = loader.find .c "strlen" then
    let w ← Action.get
    pure { r1 := BitVec.ofNat 64 (w.memory.stringAt words.ints[0]).length }
  else Process.enterTable x {} address words

/-- An answer from the result of an operation on the backend. -/
def answered {α : Type} (ok : α → Answer) : Except RegistrationError α → Action World Answer
  | .ok a => pure (ok a)
  | .error e => do pure (.failed ((← Action.get).failure e))

def answeredCall {α : Type} (ok : α → Answer) : Except CallError α → Answer
  | .ok a => ok a
  | .error e => .failed (.ofCall e)

def answeredSettings : Except SettingsError Unit → Answer
  | .ok () => .nothing
  | .error e => .failed (.ofSettings e)

/-- Answer with an issued address and keep it. -/
def issue (name : Option String) : Except RegistrationError Word → Action World Answer
  | .ok address => do
    keep name address
    pure (.word (some ((← Action.get).shownAddress address)))
  | .error e => answered (fun _ => .nothing) (.error e : Except RegistrationError Unit)

/-- Register until it fails or `count` registrations are made. -/
def fill (c : Callback Behaviour) : (count done : Nat) → Option (Word × Word) → Action World Answer
  | 0, done, ends => pure (.filled done ends none)
  | count + 1, done, ends => do
    match ← Process.register c with
    | .ok address => do
      keep none address
      let shown := (← Action.get).shownAddress address
      fill c count (done + 1) (some ((ends.map Prod.fst).getD shown, shown))
    | .error e => do pure (.filled done ends (some ((← Action.get).failure e)))

/-- Release addresses one after the other; the number of successes. -/
def releaseEach : List Word → Nat → Action World Nat
  | [], n => pure n
  | a :: rest, n => do
    match ← Process.unregister a with
    | .ok () => releaseEach rest (n + 1)
    | .error _ => releaseEach rest n

/-- An operation on the trampoline chosen. -/
def onTrampoline {α : Type}
    (f : Trampoline Behaviour → Reply RegistrationError (Trampoline Behaviour) α) :
    Action World (Except RegistrationError α) :=
  Process.onBackend fun b =>
    match b with
    | .trampoline t => (f t).within .trampoline
    | b => .refuse (.host "no trampoline") [] b

def trampoline? (w : World) : Option (Trampoline Behaviour) :=
  match w.backend? with
  | some (.trampoline t) => some t
  | _ => none

def debugText (w : World) : String :=
  match w.backend? with
  | some (.trampoline t) => t.debug ++ " " ++ t.registry.debug ++ " " ++ t.table.debug
  | some (.host h) => h.debug
  | none => ""

def bindingReport (w : World) (slot : Nat) (id : Option String) : Option BindingReport := do
  let b ← (registry w).binding? slot
  some {
    params := b.signature.params
    result := b.signature.result
    debug := b.debug
    same := id.map fun id =>
      match w.shared? id with
      | some s => b.held.identity == some s.identity
      | none => false }

/-- The log lines in a file: those it had before, and those written since. -/
def logLines (w : World) (place : Place) : List LogLine :=
  let written := w.client.lines.filterMap fun (d, line) =>
    if d = .file place then some line else none
  match w.files.node? place with
  | some (.file bytes) => LogLine.following (String.ofList (Utf8.decodeLossy bytes)) written
  | _ => written

/-- The backend of a plan. A trampoline without slots is refused, as is one with too many. -/
def BackendPlan.make : BackendPlan → Verdict Violation (Backend Behaviour Host)
  | trampoline table capacity => (Trampoline.create table capacity).map .trampoline
  | host plan => .ok (.host { host := { plan } })

/-- Make an outbound call and report on it. -/
def callOut (x : Execution Behaviour World) (c : OutboundCall) : Action World CallReport := do
  let r1 ← resolve c.returns.r1
  let r2 ← resolve c.returns.r2
  onClient fun k =>
    { k with target := { returns := c.returns, r1, r2, strings := c.strings } }
  Action.modify fun w => { w with errno := BitVec.ofInt 32 c.priorErrno }
  let before := (← Action.get).stats.callsMade
  let function := c.target.address
  let code := nativeCode x
  let outcome : CallOutcome ← match c.request with
    | .typed params args result form => do
      match form with
      | .undeclared =>
        match ← Process.callUndeclared code function args result with
        | .ok v => pure (.value v none)
        | .error e => pure (.failed (.ofCall e))
      | _ =>
        match ← Process.call code { function, params, result } args with
        | .ok (v, errno) => pure (.value v (if form = .withErrno then some errno else none))
        | .error e => pure (.failed (.ofCall e))
    | .words args => do
      match ← Process.callWords code function (← resolveAll args) with
      | .ok frame => pure (.frame { frame, float := c.target = .float })
      | .error e => pure (.failed (.ofCall e))
    | .frame ints floats => do
      let ints ← resolveAll ints
      let floats ← resolveAll floats
      let words : ArgumentWords := {
        ints := Vector.ofFn fun i => ints.getD i 0
        floats := Vector.ofFn fun i => floats.getD i 0 }
      match ← Process.callFrame code { function, words } with
      | (.ok (), frame) =>
        let kept := frame.words.ints == words.ints
          && frame.words.floats.toList.drop 1 == words.floats.toList.drop 1
        pure (.frame { frame, float := c.target = .float, kept := some kept })
      | (.error e, _) => pure (.failed (.ofCall e))
  let w ← Action.get
  pure {
    outcome
    declared := match c.request with
      | .typed params _ result _ => some (params, result)
      | _ => none
    seen := w.client.target.seen
    callsMade := w.stats.callsMade - before }

/-- An operation on the current library. -/
def onLibrary (f : Library KnownLibrary → Action World Answer) : Action World Answer := do
  match (← Action.get).client.library with
  | some l => f l
  | none => pure (.failed { cause := .noBinding, message := "no library" })

/-- Open a library and make it the current one. -/
def openWith (f : Stats → Reply LoadError Stats (Library KnownLibrary)) : Action World Answer := do
  match ← Action.perform fun w : World => (f w.stats).within fun stats => { w with stats } with
  | .ok l => do
    onClient fun c => { c with library := some l }
    pure (.text l.name)
  | .error e => pure (.failed { cause := .load e, message := e.message })

/-- Address of a symbol of the current library. -/
def findSymbol (l : Library KnownLibrary) (name : String) :
    Action World (Except SymbolError Word) :=
  Action.perform fun w =>
    ((l.symbol loader w.stats name).run []).1.within fun (l, stats) =>
      { w with stats, client := { w.client with library := some l } }

namespace Step

/-- Perform one step; a panic ends it. -/
def perform (x : Execution Behaviour World) : Step → Action World Answer
  | define id c => do
    onClient fun k => { k with shared := (id, ⟨c, nextIdentity k⟩) :: k.shared }
    pure .nothing
  | register c name => do issue name (← Process.register c)
  | registerShared id name => do
    match (← Action.get).shared? id with
    | some s => issue name (← Process.registerShared s)
    | none => pure .nothing
  | unregister address => do
    answered (fun _ => .nothing) (← Process.unregister (← spot address))
  | unregisterShared id => do
    answered (fun _ => .nothing) (← Process.unregisterShared (← identity (.shared id)))
  | fill count c => Script.fill c count 0 none
  | drain reverse => do
    let issued := (← Action.get).client.issued
    pure (.number (← releaseEach (if reverse then issued.reverse else issued) 0))
  | capacity => do pure (.word (BitVec.ofNat 64 (← Process.backend).capacity))
  | live => do pure (.word (← Process.backend).live)
  | debug => do pure (.text (debugText (← Action.get)))
  | dispatch slot plan => do
    answered .word (← CallBridge.dispatch x registry slot (← block plan))
  | dispatchAddress address plan => do
    let a ← spot address
    answered .word (← CallBridge.dispatchAddress x registry a (← block plan))
  | hostInvoke address plan => do
    let a ← spot address
    let block ← block plan
    match (← Action.get).hostBinding? a with
    | some b => pure (.word (← b.invoke x block))
    | none => pure (.failed { cause := .noBinding, message := "" })
  | lookupAddress address => do
    let a ← spot address
    pure (.number ((registry (← Action.get)).slotAt? a))
  | lookupIdentity i => do
    let i ← identity i
    let w ← Action.get
    pure (.word (((registry w).addressOf? i).map w.shownAddress))
  | release slot => do
    answered (fun _ => .nothing) (← onTrampoline fun t => t.onRegistry (·.release slot))
  | releaseAddress address => do
    let a ← spot address
    answered (.number ∘ some) (← onTrampoline fun t => t.onRegistry (·.releaseAddress a))
  | releaseIdentity i => do
    let i ← identity i
    answered (.number ∘ some) (← onTrampoline fun t => t.onRegistry (·.releaseIdentity i))
  | allocate c identity entry => do
    match Signature.of c with
    | .error e => answered (fun _ : Unit => .nothing) (.error e)
    | .ok signature => do
      let binding : Binding Behaviour := { held := { callback := c }, signature }
      let made ← onTrampoline fun t => t.onRegistry fun r =>
        r.allocate binding identity fun slot => entry.elim (t.table.locate slot) .ok
      let w ← Action.get
      answered (fun a => .allocated a.slot (w.shownAddress a.address) a.reused) made
  | compile c identity name => do
    issue name (← onTrampoline fun t => t.compile { callback := c } identity)
  | compileShared id identity name => do
    match (← Action.get).shared? id with
    | some s => issue name (← onTrampoline fun t => t.compile s.held identity)
    | none => pure .nothing
  | binding slot id => do pure (.binding (bindingReport (← Action.get) slot id))
  | nativeCall address args => do
    let a ← spot address
    let words ← resolveAll args
    pure (answeredCall (fun f : Frame => .word f.r1) (← Process.callWords (nativeCode x) a words))
  | nativeFrame address ints floats => do
    let function ← spot address
    let ints ← resolveAll ints
    let floats ← resolveAll floats
    let words : ArgumentWords := {
      ints := Vector.ofFn fun i => ints.getD i 0
      floats := Vector.ofFn fun i => floats.getD i 0 }
    let (called, frame) ← Process.callFrame (nativeCode x) { function, words }
    pure (answeredCall (fun () => .word frame.r1) called)
  | nativeTyped address args result => do
    let a ← spot address
    pure (answeredCall .value (← Process.callUndeclared (nativeCode x) a args result))
  | settings => do pure (.settings (← Process.readSettings))
  | install s => do pure (answeredSettings (← Process.install s))
  | start => do
    Process.start
    pure .nothing
  | startOrAbort => do
    Process.startOrAbort
    pure .nothing
  | startWith s => do pure (answeredSettings (← Process.startWith s))
  | startLogging => do
    Process.startLoggingFromEnvironment
    pure .nothing
  | startLoggingWith s => do
    Process.startLogging s
    pure .nothing
  | loggingStarted => do pure (.truth (← Action.get).loggingStarted)
  | installBackend plan => do
    let b ← Action.demand plan.make
    answered (fun _ => .nothing) (← Process.installBackend b)
  | call c => do pure (.called (← callOut x c))
  | emit e => do
    Action.emit e
    pure .nothing
  | stats => do pure (.number (← Action.get).stats.callsMade)
  | file path => do
    let w ← Action.get
    match w.files.resolve path with
    | .ok place => pure (.lines (logLines w place))
    | .error _ => pure (.lines [])
  | openSelf => openWith (Library.openSelf loader)
  | openLibrary name flags => openWith fun s => Library.openNamed loader s name flags
  | symbol name => onLibrary fun l => do
    match ← findSymbol l name with
    | .ok _ => pure (.truth true)
    | .error e => pure (.failed { cause := .symbol e, message := e.message })
  | stringLength text => onLibrary fun l => do
    match ← findSymbol l "strlen" with
    | .ok function =>
      let called ← Process.callUndeclared (nativeCode x) function [⟨.cstring, text⟩] (some .usize)
      pure (answeredCall .value called)
    | .error e => pure (.failed { cause := .symbol e, message := e.message })
  | libraryDebug => onLibrary fun l => pure (.text l.debug)

/-- Perform a step and report on it; a panic is its answer. -/
def report (x : Execution Behaviour World) (s : Step) : Action World Report := do
  let answer ← match ← Action.attempt (s.perform x) with
    | .ok a => pure a
    | .error p => pure (.failed (.ofPanic p))
  let w ← Action.get
  pure {
    answer
    live := if w.client.reportsLive then w.backend?.map Backend.live else none }

end Step

/-- Run the steps of a body and note their reports. -/
def runNested (x : Execution Behaviour World) : List Step → Action World Unit
  | [] => pure ()
  | s :: rest => do
    note (.nested (← s.report x))
    runNested x rest

/-- Run the body of a callback, with bodies nested in it up to a depth. -/
def behave : (depth : Nat) → Behaviour → List Value → Action World (Option Value)
  | 0, _, _ => Action.stop .exhausted
  | _ + 1, .sample s, values => (s.closure note).run values
  | depth + 1, .scripted name steps finish, values => do
    note (.args values name)
    runNested { memory := Process.memory, body := behave depth } steps
    match finish with
    | .panic text => Action.panic (.raised text)
    | .argument i => pure values[i]?
    | .constant v => pure v

/-- Bodies nest up to this depth. -/
def depthLimit : Nat := 1000000

/-- How callbacks run in scripts. -/
def execution : Execution Behaviour World where
  memory := Process.memory
  body := behave depthLimit

/-- A step as it is seen from outside: its report, the notes taken, and the events. -/
structure Observed where
  report : Option Report
  notes : List Note
  events : List Event
  /-- The script goes on. -/
  continues : Bool

/-- Take a step at the top of a script. The lines it writes are kept. -/
def observe (s : Step) (w : World) (subscriber : Option Subscriber) :
    Observed × World × Option Subscriber :=
  let w := { w with client := { w.client with notes := [] } }
  let run := s.report execution w
  let lines := writtenLines subscriber run.records
  let w := { run.state with
    client := { run.state.client with lines := run.state.client.lines ++ lines } }
  let report := run.ended.toOption
  ({ report, notes := w.client.notes, events := run.events, continues := report.isSome }, w,
    subscriber.or (run.records.findSome? Record.subscriber?))

/-- Take steps until one ends the process; what was observed of each, and the world at the end. -/
def runAll : List Step → World → Option Subscriber → List Observed × World
  | [], w, _ => ([], w)
  | s :: rest, w, subscriber =>
    let (seen, w, subscriber) := observe s w subscriber
    if seen.continues then
      let (later, w) := runAll rest w subscriber
      (seen :: later, w)
    else ([seen], w)

/-- Events as a script shows them: values as texts, addresses relative to the table in use. Where no
table is in use, the functions in `named` are shown by name. -/
def shownField (origin : Word) (named : List Target) : FieldValue → String
  | .address a =>
    if origin ≠ 0 then (a - origin).decimal
    else match named.find? fun t => t.address == a with
      | some t => t.name
      | none => a.decimal
  | v => v.raw

end CallBridge.Script
