import CallBridge.Kind
import CallBridge.Text.Quoted

/-!
Descriptions of parameter and result types as a program reports them. Only scalar kinds can be
marshaled; the other descriptions exist so that a rejection can name exactly what was found.
-/

namespace CallBridge

inductive TypeDesc where
  | scalar (k : Kind)
  | i128 | u128 | complex64 | complex128
  | struct (name : String)
  | array | slice | map | function | channel | interface
deriving DecidableEq, Repr

namespace TypeDesc

def kind? : TypeDesc → Option Kind
  | scalar k => some k
  | _ => none

def text : TypeDesc → String
  | scalar k => k.name
  | i128 => "i128"
  | u128 => "u128"
  | complex64 => "complex64"
  | complex128 => "complex128"
  | struct name => "struct " ++ name
  | array => "array"
  | slice => "slice"
  | map => "map"
  | function => "function"
  | channel => "channel"
  | interface => "interface"

def debug : TypeDesc → String
  | scalar k => "Scalar(" ++ k.debug ++ ")"
  | i128 => "I128"
  | u128 => "U128"
  | complex64 => "Complex64"
  | complex128 => "Complex128"
  | struct name => "Struct(" ++ Text.quoted name ++ ")"
  | array => "Array"
  | slice => "Slice"
  | map => "Map"
  | function => "Function"
  | channel => "Channel"
  | interface => "Interface"

end TypeDesc

end CallBridge
