import CallBridge.Process

/-!
Calls out of the library into native code. `enter` stands for the native code itself: what happens
when the processor goes to an address with the given words in registers and on the stack.
-/

namespace CallBridge

/-- Native code, by address. -/
abbrev NativeCode (σ : Type) := Word → ArgumentWords → Action σ ResultWords

/-- A call with declared parameters and result. -/
structure TypedCall where
  function : Word
  params : List Kind
  result : Option Kind
deriving DecidableEq, Repr

namespace ArgumentWords

def setInt (w : ArgumentWords) (i : Nat) (x : Word) : ArgumentWords :=
  { w with ints := w.ints.setIfInBounds i x }

def setFloat (w : ArgumentWords) (i : Nat) (x : Word) : ArgumentWords :=
  { w with floats := w.floats.setIfInBounds i x }

end ArgumentWords

namespace TypedCall

/-- Place arguments one after the other: check the kind, pass the value, classify it. Stack words
follow the integer registers in the frame. `count` is the number of all arguments. -/
def place (count : Nat) : (index : Nat) → Classifier → Memory → ArgumentWords →
    List (Value × Kind) → Except CallError (Memory × ArgumentWords)
  | _, _, m, w, [] => .ok (m, w)
  | index, c, m, w, (v, k) :: rest =>
    if v.kind ≠ k then .error (.argumentKind index k v.kind)
    else match v.pass? m with
      | none => .error .invalidString
      | some (x, m) =>
        let (location, c) := c.place k.registerClass
        match location with
        | .intRegister n => place count (index + 1) c m (w.setInt n x) rest
        | .floatRegister n => place count (index + 1) c m (w.setFloat n x) rest
        | .stack n =>
          if intRegisterCount + n < maxCallArgs then
            place count (index + 1) c m (w.setInt (intRegisterCount + n) x) rest
          else .error (.tooManyArguments count)

/-- Memory and words for a call with the given arguments. -/
def prepare (c : TypedCall) (m : Memory) (args : List Value) :
    Except CallError (Memory × ArgumentWords) :=
  if args.length = c.params.length then
    place args.length 0 (.start .host) m {} (args.zip c.params)
  else .error (.argumentCount c.params.length args.length)

/-- The declared result, read from the result registers. -/
def readResult (c : TypedCall) (m : Memory) (f : Frame) : Option Value :=
  c.result.map fun k => .ofWord m k (if k.isFloat then f.words.floats[0] else f.r1)

end TypedCall

namespace Process

variable {β η ε : Type}

/-- The error number as a word, with its sign. -/
def errorWord (p : Process β η ε) : Word := p.errno.signExtend 64

/-- Run a frame through the native function that it names; whether it was entered, and the frame as
the call leaves it. The error number is cleared before and reported after the call, if the settings
ask for it. -/
def callFrame (enter : NativeCode (Process β η ε)) (f : Frame) :
    Action (Process β η ε) (Except CallError Unit × Frame) := do
  if f.function = 0 then pure (.error .nullFunction, f) else do
    let s ← readSettings
    Action.emit (.nativeCall f.function)
    if s.captureErrno then Action.modify fun p => { p with errno := 0 }
    let r ← enter f.function f.words
    let p ← Action.get
    let err := if s.captureErrno then p.errorWord else 0
    Action.modify fun p =>
      { p with stats := { p.stats with calls := p.stats.calls + 1 } }
    Action.emit (.nativeReturn f.function r.r1 err)
    pure (.ok (), f.returned r err)

/-- Call a function with words of unknown types; the frame after the call. -/
def callWords (enter : NativeCode (Process β η ε)) (function : Word) (words : List Word) :
    Action (Process β η ε) (Except CallError Frame) :=
  match Frame.ofWords function words with
  | .error e => pure (.error e)
  | .ok f => do
    let (called, f) ← callFrame enter f
    pure (called.map fun () => f)

/-- Call a function with typed arguments; the result and the error number. Copies of string
arguments are released when the function has returned, before the result is read. -/
def call (enter : NativeCode (Process β η ε)) (c : TypedCall) (args : List Value) :
    Action (Process β η ε) (Except CallError (Option Value × Word)) := do
  let p ← Action.get
  match c.prepare p.memory args with
  | .error e => pure (.error e)
  | .ok (memory, words) => do
    Action.modify fun p => { p with memory }
    let (called, f) ← Action.ensuring (callFrame enter { function := c.function, words })
      fun q => { q with memory := q.memory.release p.memory.copies.length }
    match called with
    | .error e => pure (.error e)
    | .ok () => do
      let q ← Action.get
      pure (.ok (c.readResult q.memory f, f.err))

/-- Call a function with arguments of whatever kinds they have. -/
def callUndeclared (enter : NativeCode (Process β η ε)) (function : Word) (args : List Value)
    (result : Option Kind) : Action (Process β η ε) (Except CallError (Option Value)) := do
  let called ← call enter { function, params := args.map Value.kind, result } args
  pure (called.map Prod.fst)

end Process

end CallBridge
