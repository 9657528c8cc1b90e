import CallBridge.Process.Gateway

/-!
Calls of native code into the library. An entry point of the library's own table leaves a mark that
tells its slot, and the dispatcher behind it spills the argument registers next to the stack words
of the caller. No panic ever goes back into native code: an unusable entry or a panic is reported
and ends the process.
-/

namespace CallBridge.Process

variable {β η ε : Type}

/-- Slots behind the library's own table. -/
def nativeRegistry (p : Process β η ε) : Registry β :=
  match p.native with
  | .ready t => t.registry
  | _ => Registry.empty 0

/-- Run the callback behind the entry that left `marker`. -/
def dispatchEntry (x : Execution β (Process β η ε)) (marker : Word) (block : Block) :
    Action (Process β η ε) Word := do
  let outcome ← Action.attempt do
    let t ← nativeTrampoline
    dispatch x nativeRegistry (t.table.slotOf marker) block
  match outcome with
  | .ok (.ok result) => pure (result.getD 0)
  | .ok (.error e) => do
    Action.emit (.dispatchFailed e)
    Action.stop .abort
  | .error _ => do
    Action.emit (.invariantViolated "panic escaped a native callback" "")
    Action.stop .abort

/-- Enter the library's own table at an address. Only the first result register is set; what the
others hold afterwards is `left`. -/
def enterEntry (x : Execution β (Process β η ε)) (left : ResultWords) (address : Word)
    (e : EntryWords) : Action (Process β η ε) ResultWords := do
  let p ← Action.get
  let marker := (EntryTable.native p.nativeBase).marker address
  let r1 ← dispatchEntry x marker { words := e.block }
  pure { left with r1 }

/-- What a gateway call of an entry point meets besides its frame: the stack behind it, and result
registers that a dispatch does not set. -/
structure Surroundings where
  stack : Nat → Word := fun _ => 0
  left : ResultWords := {}

/-- The library's own entry points as native code that the gateway enters. -/
def enterTable (x : Execution β (Process β η ε)) (around : Surroundings) :
    NativeCode (Process β η ε) :=
  fun address words => enterEntry x around.left address (words.loaded around.stack)

end CallBridge.Process
