import CallBridge.Kind

/-!
Where a calling convention puts each argument. Integer and float registers are handed out
independently; once a class has used up its registers, its arguments share one stack counter with
the other class. Both directions of marshaling read their layout off the same classifier.
-/

namespace CallBridge

inductive Convention where
  | sysV
  | aarch64
deriving DecidableEq, Repr

namespace Convention

def intRegisters : Convention → Nat
  | sysV => 6
  | aarch64 => 8

def floatRegisters : Convention → Nat
  | sysV => 8
  | aarch64 => 8

/-- Bytes between two consecutive trampoline entry points. -/
def entryStride : Convention → Nat
  | sysV => 5
  | aarch64 => 8

def discriminant : Convention → Nat
  | sysV => 0
  | aarch64 => 1

def debug : Convention → String
  | sysV => "SysV"
  | aarch64 => "Aarch64"

/-- The convention of the machine that the library runs on. -/
def host : Convention := sysV

end Convention

def intRegisterCount : Nat := Convention.host.intRegisters
def floatRegisterCount : Nat := Convention.host.floatRegisters
def trampolineStride : Nat := Convention.host.entryStride

theorem floatRegisterCount_pos : 0 < floatRegisterCount := by decide

/-- Integer argument words of the outbound frame: registers first, then stack. -/
def maxCallArgs : Nat := 15

/-- Words of a callback argument block: float registers, integer registers, stack words. -/
def maxFrameWords : Nat := 64

inductive Location where
  | intRegister (n : Nat)
  | floatRegister (n : Nat)
  | stack (n : Nat)
deriving DecidableEq, Repr

/-- Word index inside a callback argument block. The layout is the host's. -/
def Location.frameIndex : Location → Nat
  | floatRegister n => n
  | intRegister n => floatRegisterCount + n
  | stack n => floatRegisterCount + intRegisterCount + n

/-- Registers and stack words used so far by the arguments of one call. -/
structure Classifier where
  convention : Convention
  ints : Nat := 0
  floats : Nat := 0
  stackWords : Nat := 0
deriving DecidableEq, Repr

namespace Classifier

def start (convention : Convention) : Classifier where
  convention

/-- Place one argument and advance. -/
def place (c : Classifier) : RegisterClass → Location × Classifier
  | .integer =>
    if c.ints < c.convention.intRegisters then
      (.intRegister c.ints, { c with ints := c.ints + 1 })
    else (.stack c.stackWords, { c with stackWords := c.stackWords + 1 })
  | .float =>
    if c.floats < c.convention.floatRegisters then
      (.floatRegister c.floats, { c with floats := c.floats + 1 })
    else (.stack c.stackWords, { c with stackWords := c.stackWords + 1 })

/-- Locations of a list of arguments, placed in order. -/
def placeAll (c : Classifier) : List RegisterClass → List Location
  | [] => []
  | r :: rs => (c.place r).1 :: (c.place r).2.placeAll rs

/-- Locations of a list of arguments, each with the classifier after it. -/
def trail (c : Classifier) : List RegisterClass → List (Location × Classifier)
  | [] => []
  | r :: rs => c.place r :: (c.place r).2.trail rs

/-- The classifier after a list of arguments. -/
def advance (c : Classifier) (rs : List RegisterClass) : Classifier :=
  rs.foldl (fun c r => (c.place r).2) c

@[simp] theorem placeAll_length (c : Classifier) (rs : List RegisterClass) :
    (c.placeAll rs).length = rs.length := by
  induction rs generalizing c with
  | nil => rfl
  | cons r rs ih => simp [placeAll, ih]

end Classifier

/-- Locations that the host convention gives to arguments of the listed classes. -/
def placements (rs : List RegisterClass) : List Location :=
  (Classifier.start .host).placeAll rs

/-- Block words at which arguments of the listed kinds are found. -/
def frameIndices (kinds : List Kind) : List Nat :=
  (placements (kinds.map Kind.registerClass)).map Location.frameIndex

end CallBridge
