/-!
Reading bytes as UTF-8. Every byte sequence reads as some text: a maximal run of bytes that starts
like a character but does not finish one becomes a single replacement character.
-/

namespace CallBridge.Utf8

def replacement : Char := '\uFFFD'

/-- What a lead byte announces: the bits it contributes, how many bytes follow, and the range of
the first of them. The ranges keep out overlong forms, surrogates and values past the last code
point. -/
structure Lead where
  bits : Nat
  more : Nat
  low : Nat := 0x80
  high : Nat := 0xBF

def Lead.ofByte? (b : UInt8) : Option Lead :=
  let n := b.toNat
  if 0xC2 ≤ n ∧ n ≤ 0xDF then some { bits := n - 0xC0, more := 1 }
  else if n = 0xE0 then some { bits := 0, more := 2, low := 0xA0 }
  else if n = 0xED then some { bits := 0xD, more := 2, high := 0x9F }
  else if 0xE1 ≤ n ∧ n ≤ 0xEF then some { bits := n - 0xE0, more := 2 }
  else if n = 0xF0 then some { bits := 0, more := 3, low := 0x90 }
  else if 0xF1 ≤ n ∧ n ≤ 0xF3 then some { bits := n - 0xF0, more := 3 }
  else if n = 0xF4 then some { bits := 4, more := 3, high := 0x8F }
  else none

/-- Take the bytes that a lead byte announced. The text ends in a replacement character where one
is missing, and reading goes on at the byte that did not fit. -/
def finish (bits : Nat) : (more low high : Nat) → List UInt8 → Char × List UInt8
  | 0, _, _, rest => (Char.ofNat bits, rest)
  | _ + 1, _, _, [] => (replacement, [])
  | more + 1, low, high, b :: rest =>
    if low ≤ b.toNat ∧ b.toNat ≤ high then finish (bits * 64 + (b.toNat - 0x80)) more 0x80 0xBF rest
    else (replacement, b :: rest)

theorem finish_length (bits more low high : Nat) (bytes : List UInt8) :
    (finish bits more low high bytes).2.length ≤ bytes.length := by
  induction more generalizing bits low high bytes with
  | zero => simp [finish]
  | succ more ih =>
    cases bytes with
    | nil => simp [finish]
    | cons b rest =>
      unfold finish
      split
      · exact Nat.le_succ_of_le (ih ..)
      · exact Nat.le_refl _

/-- The first character of a non-empty byte sequence, and the bytes after it. -/
def next (b : UInt8) (rest : List UInt8) : Char × List UInt8 :=
  if b.toNat < 0x80 then (Char.ofNat b.toNat, rest)
  else match Lead.ofByte? b with
    | some lead => finish lead.bits lead.more lead.low lead.high rest
    | none => (replacement, rest)

theorem next_length (b : UInt8) (rest : List UInt8) : (next b rest).2.length ≤ rest.length := by
  unfold next
  split
  · exact Nat.le_refl _
  · split
    · exact finish_length ..
    · exact Nat.le_refl _

/-- The text of any byte sequence. -/
def decodeLossy : List UInt8 → List Char
  | [] => []
  | b :: rest => (next b rest).1 :: decodeLossy (next b rest).2
termination_by bytes => bytes.length
decreasing_by exact Nat.lt_succ_of_le (next_length b rest)

def encode (cs : List Char) : List UInt8 := cs.flatMap String.utf8EncodeChar

/-- The text that the bytes encode exactly, if they are well formed. -/
def decode? (bytes : List UInt8) : Option (List Char) :=
  let cs := decodeLossy bytes
  if encode cs = bytes then some cs else none

/-- The bytes of a text. -/
def bytes (s : String) : List UInt8 := encode s.toList

end CallBridge.Utf8
