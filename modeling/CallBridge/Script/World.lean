import CallBridge.Process.Entry
import CallBridge.Process.Logging
import CallBridge.Script.Step

/-!
The world in which scripts run: a process, a host that follows a plan, and what scripts keep, such
as names of addresses and shared callbacks.
-/

namespace CallBridge.Script

/-- A host with what it has bound. -/
structure Host where
  plan : HostPlan
  requests : Nat := 0
  bound : List (Word × Binding Behaviour) := []

instance : Registrar Host Behaviour where
  register h binding :=
    let h' := { h with requests := h.requests + 1 }
    match h.plan.failing.lookup h.requests with
    | some text => (.error (.host text), h')
    | none =>
      let address := h.plan.base + BitVec.ofNat 64 h.requests * h.plan.stride
      (.ok address, { h' with bound := Index.put address binding h.bound })
  unregister h address :=
    match h.plan.failingRelease.lookup address with
    | some text => (.error (.host text), h)
    | none =>
      if (h.bound.lookup address).isSome then
        (.ok (), { h with bound := Index.erase address h.bound })
      else if h.plan.lenient then (.ok (), h)
      else (.error (.notFound (.address address)), h)
  capacity h := h.plan.capacity

/-- Libraries that can be loaded. -/
inductive KnownLibrary where
  | self
  | c
  | math
deriving DecidableEq, Repr

/-- A loader that knows two libraries besides the process itself, and loads all symbols at once or
not at all. The library `math` depends on `c`, so symbols of `c` are found in it as well. -/
def loader : Loader KnownLibrary where
  load request flags :=
    if flags.now then
      match request with
      | none | some "" => .ok .self
      | some "libc.so.6" => .ok .c
      | some "libm.so.6" => .ok .math
      | some _ => .error "not found"
    else .error "invalid mode"
  find library name :=
    let ofC := List.lookup name
      [("strlen", 0x7FFD5EC03000), ("getpid", 0x7FFD5EC03010), ("malloc", 0x7FFD5EC03020),
        ("qsort", 0x7FFD5EC03030), ("bsearch", 0x7FFD5EC03040), ("close", 0x7FFD5EC03050)]
    match library with
    | .self | .c => ofC
    | .math => (List.lookup name [("cos", 0x7FFD5EC03060)]).or ofC

/-- What a native function does when it is called next, and what it found when it was. -/
structure TargetState where
  returns : Returns := {}
  r1 : Word := 0
  r2 : Word := 0
  strings : List Nat := []
  seen : Option Seen := none

structure Client where
  names : List (String × Word) := []
  /-- Shared callbacks with their names, the latest first. -/
  shared : List (String × SharedCallback Behaviour) := []
  /-- Addresses in the order in which they were issued. -/
  issued : List Word := []
  notes : List Note := []
  target : TargetState := {}
  library : Option (Library KnownLibrary) := none
  /-- Answers tell the number of live registrations. -/
  reportsLive : Bool := false
  /-- Lines written so far. -/
  lines : List (Destination × LogLine) := []

abbrev World := Process Behaviour Host Client

namespace World

/-- Where the library's own table lies. -/
def tableBase : Word := 0x400000

def home : String := "$DIR"

/-- Files below the home directory, for a program that works elsewhere. -/
def filesFromElsewhere (files : List (String × List UInt8)) : FileTree :=
  { FileTree.ofFiles home files with working := [] }

/-- A fresh process. -/
def fresh (environment files : List (String × List UInt8)) : World where
  environment := { entries := environment }
  files := .ofFiles home files
  nativeBase := tableBase
  client := {}

/-- A process with the default settings in effect. -/
def settled : World := { fresh [] [] with settings := some {} }

/-- A process whose backend is already chosen. -/
def withBackend (b : Backend Behaviour Host) : World :=
  { settled with choice := some (.installed b), client := { reportsLive := true } }

/-- A process whose own table is in use, with all slots free. -/
def withTable : World :=
  { settled with
    choice := some .native
    native := .ready { registry := .empty maxCallbacks, table := .native tableBase }
    client := { reportsLive := true } }

/-- What addresses are shown relative to: the table, as long as no other backend is installed. -/
def origin (w : World) : Word :=
  match w.choice with
  | some (.installed _) => 0
  | _ => w.nativeBase

def shownAddress (w : World) (a : Word) : Word := a - w.origin

/-- Change what the script keeps. -/
def onClient (f : Client → Client) : Action World Unit :=
  Action.modify fun w => { w with client := f w.client }

def note (n : Note) : Action World Unit :=
  onClient fun c => { c with notes := c.notes ++ [n] }

/-- Shared callbacks are numbered as they are made. -/
def nextIdentity (c : Client) : Identity := .own c.shared.length

/-- The latest shared callback of a name. -/
def shared? (w : World) (id : String) : Option (SharedCallback Behaviour) :=
  w.client.shared.lookup id

/-- How an identity is written: by the name of its shared callback, or as a number. -/
def identityText (w : World) (i : Identity) : String :=
  match w.client.shared.find? fun entry => entry.2.identity == i with
  | some (id, _) => "<" ++ id ++ ">"
  | none => i.text

/-- A failed operation as the script reports it. -/
def failure (w : World) (e : RegistrationError) : Failure where
  cause := .registration e
  message := match e with
    | .notFound (.address a) => RegistrationError.message (.notFound (.address (w.shownAddress a)))
    | e => e.messageWith w.identityText

/-- The word of an operand. Bytes are copied into memory first. -/
def resolve : Operand → Action World Word
  | .word x => pure x
  | .text bytes => do
    let (address, memory) := (← Action.get).memory.store bytes
    Action.modify fun w => { w with memory }
    pure address

def resolveAll : List Operand → Action World (List Word)
  | [] => pure []
  | o :: os => do
    let w ← resolve o
    pure (w :: (← resolveAll os))

def block (plan : BlockPlan) : Action World Block := do
  let given ← resolveAll (plan.words.map Prod.snd)
  let index := (plan.words.map Prod.fst).zip given
  pure { words := (List.range plan.length).map fun i => (index.lookup i).getD 0 }

def spot : Spot → Action World Word
  | .word x => do pure (x + (← Action.get).origin)
  | .saved name => do pure (((← Action.get).client.names.lookup name).getD 0)

def identity : IdentitySpot → Action World Identity
  | .given i => pure i
  | .shared id => do pure (((← Action.get).shared? id).elim (.given 0) SharedCallback.identity)

/-- Keep an address that was issued, under a name if there is one. -/
def keep (name : Option String) (address : Word) : Action World Unit :=
  onClient fun c =>
    { c with
      issued := c.issued ++ [address]
      names := match name with
        | some name => Index.put name address c.names
        | none => c.names }

/-- The registry of the backend chosen, if that is a trampoline. -/
def registry (w : World) : Registry Behaviour :=
  match w.backend? with
  | some (.trampoline t) => t.registry
  | _ => .empty 0

/-- The binding that a host has at an address. -/
def hostBinding? (w : World) (address : Word) : Option (Binding Behaviour) :=
  match w.backend? with
  | some (.host h) => h.host.bound.lookup address
  | _ => none

end World

end CallBridge.Script
