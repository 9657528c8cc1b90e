import CallBridge.Text.Utf8
import Mathlib.Tactic.SplitIfs

/-!
Reading UTF-8 undoes writing it. A written character is a lead byte that announces exactly the
bytes after it, whatever follows them.
-/

namespace CallBridge.Utf8

theorem toNat_byte {n : Nat} (h : n < 256) : (UInt8.ofNat n).toNat = n :=
  UInt8.toNat_ofNat_of_lt h

/-- One announced byte in its range adds six bits. -/
theorem finish_cons {bits more low high n : Nat} {rest : List UInt8} (hn : n < 64)
    (hlow : low ≤ n + 0x80) (hhigh : n + 0x80 ≤ high) :
    finish bits (more + 1) low high (UInt8.ofNat (n + 0x80) :: rest) =
      finish (bits * 64 + n) more 0x80 0xBF rest := by
  have hbyte : (UInt8.ofNat (n + 0x80)).toNat = n + 0x80 := toNat_byte (by omega)
  rw [finish, hbyte, if_pos ⟨hlow, hhigh⟩, Nat.add_sub_cancel]

theorem next_lead {n : Nat} {lead : Lead} {rest : List UInt8} (hn : n < 256) (hlarge : 0x80 ≤ n)
    (hlead : Lead.ofByte? (UInt8.ofNat n) = some lead) :
    next (UInt8.ofNat n) rest = finish lead.bits lead.more lead.low lead.high rest := by
  rw [next, toNat_byte hn, if_neg (Nat.not_lt.2 hlarge), hlead]

section Leads

variable {n : Nat}

theorem ofByte?_two (h : 0xC2 ≤ n) (h' : n ≤ 0xDF) :
    Lead.ofByte? (UInt8.ofNat n) = some { bits := n - 0xC0, more := 1 } := by
  rw [Lead.ofByte?, toNat_byte (by omega), if_pos ⟨h, h'⟩]

/-- The first byte after the lead keeps out overlong forms and surrogates. -/
theorem ofByte?_three (h : 0xE0 ≤ n) (h' : n ≤ 0xEF) :
    Lead.ofByte? (UInt8.ofNat n) = some {
      bits := n - 0xE0
      more := 2
      low := (if n = 0xE0 then 0xA0 else 0x80)
      high := (if n = 0xED then 0x9F else 0xBF) } := by
  rw [Lead.ofByte?, toNat_byte (by omega)]
  split_ifs <;> first | omega | simp_all

theorem ofByte?_four (h : 0xF0 ≤ n) (h' : n ≤ 0xF4) :
    Lead.ofByte? (UInt8.ofNat n) = some {
      bits := n - 0xF0
      more := 3
      low := (if n = 0xF0 then 0x90 else 0x80)
      high := (if n = 0xF4 then 0x8F else 0xBF) } := by
  rw [Lead.ofByte?, toNat_byte (by omega)]
  split_ifs <;> first | omega | simp_all

end Leads

/-- A written character is read back, and nothing of what follows it is touched. -/
theorem next_encodeChar (c : Char) (rest : List UInt8) :
    ∃ b bs, String.utf8EncodeChar c = b :: bs ∧ next b (bs ++ rest) = (c, rest) := by
  have hvalid : c.toNat < 0xD800 ∨ 0xDFFF < c.toNat ∧ c.toNat < 0x110000 := c.valid
  have hc : Char.ofNat c.toNat = c := Char.ofNat_toNat c
  have hval : c.val.toNat = c.toNat := rfl
  generalize hv : c.toNat = v at *
  unfold String.utf8EncodeChar
  simp only [hval]
  split_ifs with h1 h2 h3
  · refine ⟨_, _, rfl, ?_⟩
    have hbyte : (UInt8.ofNat v).toNat = v := toNat_byte (by omega)
    rw [next, hbyte, if_pos (by omega), hc]
    rfl
  · refine ⟨_, _, rfl, ?_⟩
    rw [next_lead (by omega) (by omega) (ofByte?_two (by omega) (by omega))]
    have hbits : (v / 64 % 32 + 192 - 192) * 64 + v % 64 = v := by omega
    simp only [List.cons_append, List.nil_append]
    rw [finish_cons (by omega) (by omega) (by omega), hbits, finish, hc]
  · refine ⟨_, _, rfl, ?_⟩
    rw [next_lead (by omega) (by omega) (ofByte?_three (by omega) (by omega))]
    have hbits : ((v / 4096 % 16 + 224 - 224) * 64 + v / 64 % 64) * 64 + v % 64 = v := by omega
    simp only [List.cons_append, List.nil_append]
    rw [finish_cons (by omega) (by split_ifs <;> omega) (by split_ifs <;> omega),
      finish_cons (by omega) (by omega) (by omega), hbits, finish, hc]
  · refine ⟨_, _, rfl, ?_⟩
    rw [next_lead (by omega) (by omega) (ofByte?_four (by omega) (by omega))]
    have hbits : (((v / 262144 % 8 + 240 - 240) * 64 + v / 4096 % 64) * 64 + v / 64 % 64) * 64
        + v % 64 = v := by omega
    simp only [List.cons_append, List.nil_append]
    rw [finish_cons (by omega) (by split_ifs <;> omega) (by split_ifs <;> omega),
      finish_cons (by omega) (by omega) (by omega),
      finish_cons (by omega) (by omega) (by omega), hbits, finish, hc]

theorem decodeLossy_encode (cs : List Char) : decodeLossy (encode cs) = cs := by
  induction cs with
  | nil => simp [encode, decodeLossy]
  | cons c cs ih =>
    obtain ⟨b, bs, hb, hnext⟩ := next_encodeChar c (encode cs)
    have hsplit : encode (c :: cs) = b :: (bs ++ encode cs) := by
      simp [encode, List.flatMap_cons, hb]
    rw [hsplit, decodeLossy, hnext, ih]

theorem zero_ne_byte {n : Nat} (h : n < 256) (hn : n ≠ 0) : (0 : UInt8) ≠ UInt8.ofNat n := by
  intro heq
  have hzero := congrArg UInt8.toNat heq
  rw [toNat_byte h] at hzero
  exact hn hzero.symm

/-- Only the NUL has a zero byte. -/
theorem zero_notMem_encodeChar {c : Char} (hc : c ≠ '\x00') :
    (0 : UInt8) ∉ String.utf8EncodeChar c := by
  have hpos : c.val.toNat ≠ 0 := fun h => hc (Char.ext (UInt32.toNat_inj.1 h))
  have hcont : ∀ n, (0 : UInt8) ≠ UInt8.ofNat (n % 64 + 128) :=
    fun n => zero_ne_byte (by omega) (by omega)
  unfold String.utf8EncodeChar
  dsimp only
  split_ifs <;> simp only [List.mem_cons, List.not_mem_nil, or_false, hcont]
  all_goals exact zero_ne_byte (by omega) (by omega)

theorem zero_notMem_bytes {s : String} (h : '\x00' ∉ s.toList) : (0 : UInt8) ∉ bytes s := by
  unfold bytes encode
  rw [List.mem_flatMap]
  rintro ⟨c, hc, hzero⟩
  exact zero_notMem_encodeChar (fun he => h (he ▸ hc)) hzero

end CallBridge.Utf8
