import CallBridge.Word

/-!
The closed set of scalar kinds that can cross the native boundary. A kind fixes the data a value
of it carries, the register class it travels in, and whether a callback may return it.
-/

namespace CallBridge

/-- The register file an argument is assigned to before it falls back to the stack. -/
inductive RegisterClass where
  | integer
  | float
deriving DecidableEq, Repr

inductive Kind where
  | bool | i8 | i16 | i32 | i64 | isize
  | u8 | u16 | u32 | u64 | usize
  | f32 | f64 | pointer | cstring
deriving DecidableEq, Repr

namespace Kind

/-- What a value of the kind carries. Floats are their bit patterns, so that they compare bit for
bit; a native string is surfaced as text. -/
@[reducible] def Carrier : Kind → Type
  | bool => Bool
  | i8 | u8 => BitVec 8
  | i16 | u16 => BitVec 16
  | i32 | u32 | f32 => BitVec 32
  | i64 | isize | u64 | usize | f64 | pointer => BitVec 64
  | cstring => String

instance decEqCarrier : (k : Kind) → DecidableEq k.Carrier
  | bool => inferInstanceAs (DecidableEq Bool)
  | i8 | u8 => inferInstanceAs (DecidableEq (BitVec 8))
  | i16 | u16 => inferInstanceAs (DecidableEq (BitVec 16))
  | i32 | u32 | f32 => inferInstanceAs (DecidableEq (BitVec 32))
  | i64 | isize | u64 | usize | f64 | pointer => inferInstanceAs (DecidableEq (BitVec 64))
  | cstring => inferInstanceAs (DecidableEq String)

def registerClass : Kind → RegisterClass
  | f32 | f64 => .float
  | _ => .integer

def isFloat : Kind → Bool
  | f32 | f64 => true
  | _ => false

/-- Kinds a callback may hand back through the integer result register. -/
def isReturnable : Kind → Bool
  | f32 | f64 | cstring => false
  | _ => true

def name : Kind → String
  | bool => "bool"
  | i8 => "i8"
  | i16 => "i16"
  | i32 => "i32"
  | i64 => "i64"
  | isize => "isize"
  | u8 => "u8"
  | u16 => "u16"
  | u32 => "u32"
  | u64 => "u64"
  | usize => "usize"
  | f32 => "f32"
  | f64 => "f64"
  | pointer => "pointer"
  | cstring => "cstring"

/-- The kind as its constructor is spelled in diagnostics. -/
def debug : Kind → String
  | bool => "Bool"
  | i8 => "I8"
  | i16 => "I16"
  | i32 => "I32"
  | i64 => "I64"
  | isize => "Isize"
  | u8 => "U8"
  | u16 => "U16"
  | u32 => "U32"
  | u64 => "U64"
  | usize => "Usize"
  | f32 => "F32"
  | f64 => "F64"
  | pointer => "Pointer"
  | cstring => "CString"

/-- All kinds in the order of their tags. -/
def all : List Kind :=
  [bool, i8, i16, i32, i64, isize, u8, u16, u32, u64, usize, f32, f64, pointer, cstring]

def tag (k : Kind) : Nat := all.idxOf k

def ofName? (s : String) : Option Kind := all.find? (·.name == s)

end Kind

end CallBridge
