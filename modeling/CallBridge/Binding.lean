import CallBridge.Action
import CallBridge.Signature

/-!
A callback bound to its validated signature. Running it reads one value for each parameter from an
argument block, at the place where the calling convention puts it, and turns the result of the body
into a result word.
-/

namespace CallBridge

/-- Argument words as native code leaves them: float registers, integer registers, stack. -/
structure Block where
  words : List Word
deriving DecidableEq, Repr

def Block.word (b : Block) (index : Nat) : Except Violation Word :=
  match b.words[index]? with
  | some w => .ok w
  | none => .error (.blockOverrun index b.words.length)

/-- How callback bodies run over a state: where string words point to, and what a body does. -/
structure Execution (β σ : Type) where
  memory : σ → Memory
  body : β → List Value → Action σ (Option Value)

structure Binding (β : Type) where
  held : HeldCallback β
  signature : Signature
deriving DecidableEq

namespace Binding

variable {β σ : Type}

/-- Values of the given kinds at the given words of a block, up to the first word outside of it. -/
def readAll (m : Memory) (block : Block) : List (Kind × Nat) → Except Violation (List Value)
  | [] => .ok []
  | (k, index) :: rest => do
    let w ← block.word index
    let values ← readAll m block rest
    .ok (Value.ofWord m k w :: values)

/-- The arguments that a block holds for the parameters, in their order. -/
def decode (m : Memory) (b : Binding β) (block : Block) : Except Violation (List Value) :=
  readAll m block (b.signature.params.zip (frameIndices b.signature.params))

/-- What becomes of the value that a body returned. -/
inductive Encoded where
  | nothing
  | word (w : Word)
  | dropped (kind : Kind)
deriving DecidableEq, Repr

/-- The result word. A value that the signature does not declare is dropped. -/
def encode (s : Signature) (returned : Option Value) : Except Violation Encoded :=
  match s.result, returned with
  | none, none => .ok .nothing
  | none, some v => .ok (.dropped v.kind)
  | some k, some v =>
    if v.kind = k then v.resultWord.map .word else .error (.resultMismatch k (some v))
  | some k, none => .error (.resultMismatch k none)

/-- Decode the block, run the body and encode what it returns. -/
def invoke (x : Execution β σ) (b : Binding β) (block : Block) : Action σ (Option Word) := do
  let s ← Action.get
  let args ← Action.require (b.decode (x.memory s) block)
  let returned ← x.body b.held.callback.body args
  match ← Action.require (encode b.signature returned) with
  | .nothing => pure none
  | .word w => pure (some w)
  | .dropped kind => do
    Action.emit (.callbackResultDropped kind.name)
    pure none

def debug (b : Binding β) : String :=
  Text.shownRecord "Binding"
    [("callback", b.held.callback.debug), ("signature", b.signature.debug)]

end Binding

end CallBridge
