import CallBridge.Proofs.Marshaling

/-!
Words and data, there and back. Of the words that read as the same data one is canonical: the low
bits of the kind, extended to the whole word. Data becomes its canonical word and reads back from it;
any word goes back into the canonical one among those that read alike.
-/

namespace CallBridge

namespace Kind

/-- Kinds of numbers that can be negative. -/
def isSigned : Kind → Bool
  | i8 | i16 | i32 | i64 | isize => true
  | _ => false

/-- The low bits of the kind extended to a whole word: by their sign for signed kinds, with zeros
for the others. -/
def extend (k : Kind) (x : BitVec k.bits) : Word :=
  if k.isSigned then x.signExtend 64 else x.setWidth 64

theorem bits_le (k : Kind) : k.bits ≤ 64 := by
  cases k <;> decide

/-- Extending keeps the low bits. -/
theorem setWidth_extend (k : Kind) (x : BitVec k.bits) : (k.extend x).setWidth k.bits = x := by
  unfold extend
  split_ifs
  · exact setWidth_signExtend k.bits_le x
  · rw [BitVec.setWidth_setWidth_of_le x k.bits_le, BitVec.setWidth_eq]

/-- Words that are extensions at all are extensions of their own low bits. -/
theorem extend_setWidth_eq_iff {k : Kind} {w : Word} :
    k.extend (w.setWidth k.bits) = w ↔ ∃ x, w = k.extend x := by
  constructor
  · intro h
    exact ⟨_, h.symm⟩
  · rintro ⟨x, rfl⟩
    rw [setWidth_extend]

section Numbers

variable {k : Kind} (hbool : k ≠ .bool) (hstring : k ≠ .cstring)

include hbool hstring

/-- Data read from a word goes back into the extension of the low bits that it was read from. -/
theorem toWord?_ofWord (m : Memory) (w : Word) :
    k.toWord? (k.ofWord m w) = some (k.extend (w.setWidth k.bits)) := by
  cases k with
  | bool => exact absurd rfl hbool
  | cstring => exact absurd rfl hstring
  | i8 | i16 | i32 | u8 | u16 | u32 | f32 => rfl
  | i64 | isize | u64 | usize | f64 | pointer =>
    simp [ofWord, toWord?, extend, isSigned, bits]

/-- Words read as the same data exactly if they have the same low bits. -/
theorem ofWord_eq_iff (m m' : Memory) (w w' : Word) :
    k.ofWord m w = k.ofWord m' w' ↔ k.Agree w w' := by
  have hword := toWord?_ofWord hbool hstring m w
  have hword' := toWord?_ofWord hbool hstring m' w'
  constructor
  · intro h
    rw [h, hword', Option.some.injEq] at hword
    rw [Agree, ← k.setWidth_extend (w.setWidth k.bits), ← hword, k.setWidth_extend]
  · intro h
    rw [← show w.setWidth k.bits = w'.setWidth k.bits from h] at hword'
    rw [← ofWord_toWord? hword m, ofWord_toWord? hword' m]

end Numbers

theorem toWord?_ofWord_bool (m : Memory) (w : Word) :
    toWord? .bool (ofWord m .bool w) = some (if w.setWidth 8 = 0 then 0 else 1) := by
  by_cases h : w.setWidth 8 = 0 <;> simp [ofWord, toWord?, h]

theorem ofWord_bool_eq_iff (m m' : Memory) (w w' : Word) :
    ofWord m .bool w = ofWord m' .bool w' ↔ (w.setWidth 8 = 0 ↔ w'.setWidth 8 = 0) := by
  rw [ofWord, ofWord, Bool.eq_iff_iff, bne_iff_ne, bne_iff_ne, not_iff_not]

end Kind

namespace Value

theorem ofWord_eq_ofWord_iff {m m' : Memory} {k : Kind} {w w' : Word} :
    ofWord m k w = ofWord m' k w' ↔ k.ofWord m w = k.ofWord m' w' := by
  simp [ofWord]

/-- The conversions between values and words are inverse to each other as far as they can be. A value
that can be returned has the same word as a result and as an argument, and it reads back from it, as
do floats, bit for bit. Any word that is read as a number or an address goes back into the extension
of the low bits of the kind; so the extensions are the words that stay as they are, and a second
round trip changes nothing. A word read as a truth value goes back into one or zero. Two words read
alike exactly if they have the same low bits, or, as truth values, if both or neither has a low byte
of zero. -/
theorem conversions_canonical :
    (∀ v : Value, v.kind.isReturnable = true →
      ∃ w, v.resultWord = .ok w ∧ ∀ m, v.pass? m = some (w, m) ∧ ofWord m v.kind w = v) ∧
    (∀ v : Value, v.kind.isFloat = true →
      ∃ w, ∀ m, v.pass? m = some (w, m) ∧ ofWord m v.kind w = v) ∧
    (∀ k : Kind, k.isReturnable = true → k ≠ .bool → ∀ (m m' : Memory) (w : Word),
      let extended := k.extend (w.setWidth k.bits)
      (ofWord m k w).resultWord = .ok extended ∧
      (extended = w ↔ ∃ x, w = k.extend x) ∧
      (ofWord m' k extended).resultWord = .ok extended) ∧
    (∀ (m : Memory) (w : Word),
      (ofWord m .bool w).resultWord = .ok (if w.setWidth 8 = 0 then 0 else 1)) ∧
    (∀ k : Kind, k ≠ .bool → k ≠ .cstring → ∀ (m m' : Memory) (w w' : Word),
      ofWord m k w = ofWord m' k w' ↔ k.Agree w w') ∧
    ∀ (m m' : Memory) (w w' : Word),
      ofWord m .bool w = ofWord m' .bool w' ↔ (w.setWidth 8 = 0 ↔ w'.setWidth 8 = 0) := by
  refine ⟨fun v hv => ?_, fun v hv => ?_, fun k hk hbool m m' w => ?_, fun m w => ?_,
    fun k hbool hstring m m' w w' => ?_, fun m m' w w' => ?_⟩
  · obtain ⟨w, hw, hpass⟩ := exists_word_of_ne (Kind.ne_cstring_of_isReturnable hv)
    exact ⟨w, resultWord_of_word? hv hw, hpass⟩
  · obtain ⟨w, -, hpass⟩ := exists_word_of_ne (Kind.ne_cstring_of_isFloat hv)
    exact ⟨w, hpass⟩
  · have hstring := Kind.ne_cstring_of_isReturnable hk
    have hword : ∀ (m : Memory) (w : Word),
        (ofWord m k w).resultWord = .ok (k.extend (w.setWidth k.bits)) :=
      fun m w => resultWord_of_word? hk (Kind.toWord?_ofWord hbool hstring m w)
    intro extended
    refine ⟨hword m w, Kind.extend_setWidth_eq_iff, ?_⟩
    rw [hword m' extended, Kind.setWidth_extend]
  · exact resultWord_of_word? rfl (Kind.toWord?_ofWord_bool m w)
  · rw [ofWord_eq_ofWord_iff]
    exact Kind.ofWord_eq_iff hbool hstring m m' w w'
  · rw [ofWord_eq_ofWord_iff]
    exact Kind.ofWord_bool_eq_iff m m' w w'

/-- A negative number, a float that is not a number, and a word with bits above those of the kind:
read with a sign and without one, it goes back into two other words. -/
theorem conversions_canonical_high_bits :
    let v : Value := ⟨.i16, -2⟩
    let nan : Value := ⟨.f32, 0x7FA00001⟩
    let w : Word := 0x1234567800008001
    (v.resultWord = .ok 0xFFFFFFFFFFFFFFFE ∧ v.pass? {} = some (0xFFFFFFFFFFFFFFFE, {})) ∧
      (∃ x, nan.pass? {} = some (x, {}) ∧ ofWord {} .f32 x = nan) ∧
      (ofWord {} .i16 w).resultWord = .ok 0xFFFFFFFFFFFF8001 ∧
      (ofWord {} .u16 w).resultWord = .ok 0x8001 ∧
      ofWord {} .i16 w = ofWord {} .i16 0xFFFFFFFFFFFF8001 := by
  intro v nan w
  obtain ⟨hreturned, hfloat, hextended, -, hread, -⟩ := conversions_canonical
  obtain ⟨x, hx, hpass⟩ := hreturned v rfl
  have hx' : x = 0xFFFFFFFFFFFFFFFE := Except.ok.inj (hx.symm.trans (by decide))
  subst hx'
  obtain ⟨y, hy⟩ := hfloat nan rfl
  obtain ⟨hsigned, -⟩ := hextended .i16 rfl (by decide) {} {} w
  obtain ⟨hunsigned, -⟩ := hextended .u16 rfl (by decide) {} {} w
  have hsame : Kind.Agree .i16 w 0xFFFFFFFFFFFF8001 :=
    show w.setWidth 16 = BitVec.setWidth 16 0xFFFFFFFFFFFF8001#64 by decide
  refine ⟨⟨hx, (hpass {}).1⟩, ⟨y, hy {}⟩, ?_, ?_,
    (hread .i16 (by decide) (by decide) {} {} w _).2 hsame⟩
  · rw [hsigned]
    decide
  · rw [hunsigned]
    decide

end Value

end CallBridge
