import CallBridge.Closure
import CallBridge.Script.Answer

/-!
Closures that scripts register: one for each way in which arguments and results cross.
-/

namespace CallBridge.Script

inductive Sample where
  | echo (k : { k : Kind // k.isReturnable = true })
  | f32Bits
  | f64Bits
  | strLen
  | unit
  | unitI32
  | positive
  | mix
  | strings
  | wide
  | sum (n : Fin 21)

namespace Sample

variable {σ : Type}

/-- Length of a text in bytes. -/
def byteLength (s : String) : Nat := (Utf8.bytes s).length

/-- Data of arguments as words. -/
def words (ks : List Kind) (args : Args ks) : List Word :=
  (Args.toValues ks args).map fun v => v.word?.getD 0

/-- Sum of the words, each times its position from one on. -/
def weightedSum (position : Word) : List Word → Word
  | [] => 0
  | w :: ws => position * w + weightedSum (position + 1) ws

/-- The closure, with `note` for what it notes. -/
def closure (note : Note → Action σ Unit) : Sample → Closure σ
  | echo k => {
      params := [k.val]
      result := some k.val
      body := fun (x, _) => pure x
      arity := by simp
      returnable := by simpa using k.property }
  | f32Bits => {
      params := [.f32]
      result := some .u32
      body := fun (x, _) => pure x }
  | f64Bits => {
      params := [.f64]
      result := some .u64
      body := fun (x, _) => pure x }
  | strLen => {
      params := [.cstring]
      result := some .usize
      body := fun (s, _) => do
        note (.string s)
        pure (BitVec.ofNat 64 (byteLength s)) }
  | unit => {
      params := []
      result := none
      body := fun _ => pure () }
  | unitI32 => {
      params := [.i32]
      result := none
      body := fun (x, _) => note (.unitI32 (BitVec.toInt x)) }
  | positive => {
      params := [.i32]
      result := some .bool
      body := fun (x, _) => pure (decide (0 < BitVec.toInt x)) }
  | mix => {
      params := [.u8, .f32, .i16, .pointer]
      result := some .i64
      body := fun (a, x, b, p, _) => do
        note (.mix (BitVec.toNat a) (BitVec.toNat x) (BitVec.toInt b) (BitVec.toNat p))
        pure (BitVec.setWidth 64 a + BitVec.signExtend 64 b) }
  | strings => {
      params := [.cstring, .f64, .cstring, .bool]
      result := some .usize
      body := fun (a, x, b, flag, _) => do
        note (.strings a b (BitVec.toNat x) flag)
        let n := byteLength a * 1000 + byteLength b * 10 + (if flag then 1 else 0)
        pure (BitVec.ofNat 64 n) }
  | wide => {
      params := List.replicate 9 .i64 ++ List.replicate 9 .f64
      result := some .i64
      body := fun args => do
        let ws := words _ args
        note (.wide ((ws.drop 9).map BitVec.toNat))
        let folded : Word := (ws.take 9).foldl (fun t v => t * 31 + v) 0
        pure folded }
  | sum n => {
      params := List.replicate n .i64
      result := some .i64
      body := fun args => pure (weightedSum 1 (words _ args))
      arity := by simp; omega }

end Sample

end CallBridge.Script
