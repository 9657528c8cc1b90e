import CallBridge.CallError
import CallBridge.Value

/-!
Register frames for outbound calls: fifteen integer words, of which the first go to registers and
the rest to the stack, and eight float words. What a native function finds when it is entered is
more than that: behind the words of the frame the stack goes on.
-/

namespace CallBridge

/-- The argument words of a frame. -/
structure ArgumentWords where
  ints : Vector Word maxCallArgs := Vector.replicate maxCallArgs 0
  floats : Vector Word floatRegisterCount := Vector.replicate floatRegisterCount 0
deriving DecidableEq

/-- What a native function finds when it is entered: the words in the argument registers and, in
order, those on the stack of its caller. -/
structure EntryWords where
  floats : Vector Word floatRegisterCount
  ints : Vector Word intRegisterCount
  stack : Nat → Word

/-- Registers and stack when the gateway enters a function. Behind the words of its frame lies what
was on the stack before, which `beyond` tells. -/
def ArgumentWords.loaded (w : ArgumentWords) (beyond : Nat → Word) : EntryWords where
  floats := w.floats
  ints := Vector.ofFn fun i => w.ints.get (i.castLE (by decide))
  stack n := w.ints[intRegisterCount + n]?.getD (beyond (intRegisterCount + n - maxCallArgs))

/-- The argument block that the dispatcher behind an entry point makes: it puts the registers next to
the stack words of the caller, whatever these are. -/
def EntryWords.block (e : EntryWords) : List Word :=
  e.floats.toList ++ e.ints.toList
    ++ (List.range (maxFrameWords - floatRegisterCount - intRegisterCount)).map e.stack

/-- What a native function leaves in the result registers. -/
structure ResultWords where
  r1 : Word := 0
  r2 : Word := 0
  f0 : Word := 0
deriving DecidableEq, Repr

structure Frame where
  function : Word
  words : ArgumentWords := {}
  r1 : Word := 0
  r2 : Word := 0
  err : Word := 0
deriving DecidableEq

namespace Frame

/-- Frame for words of unknown types: missing words are zero, and the first eight words are also put
into the float registers. -/
def ofWords (function : Word) (words : List Word) : Except CallError Frame :=
  if words.length ≤ maxCallArgs then
    .ok {
      function
      words := {
        ints := Vector.ofFn fun i => words.getD i 0
        floats := Vector.ofFn fun i => words.getD i 0 } }
  else .error (.tooManyArguments words.length)

/-- The frame after the function returned. -/
def returned (f : Frame) (r : ResultWords) (err : Word) : Frame :=
  { f with
    words := { f.words with floats := f.words.floats.set 0 r.f0 floatRegisterCount_pos }
    r1 := r.r1
    r2 := r.r2
    err }

end Frame

end CallBridge
