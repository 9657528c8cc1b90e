import CallBridge.Proofs.Utf8
import CallBridge.Violation
import Mathlib.Tactic.Common

/-!
Passing a value as a word and reading the word back. Numbers and pointers come back from their low
bits, whatever the others are. A string comes back as long as its copy is where it was put and has
an address at all.
-/

namespace CallBridge

theorem setWidth_signExtend {n v : Nat} (h : n ≤ v) (x : BitVec n) :
    (x.signExtend v).setWidth n = x := by
  ext i hi
  rw [BitVec.getElem_setWidth, BitVec.getLsbD_signExtend]
  have hv : i < v := by omega
  simp [hi, hv]

/-- Reading a word as the kind it was made for gives the data back, whatever memory holds. -/
theorem Kind.ofWord_toWord? {k : Kind} {x : k.Carrier} {w : Word} (h : k.toWord? x = some w)
    (m : Memory) : k.ofWord m w = x := by
  cases k with
  | bool =>
    cases x <;> cases h <;> rfl
  | cstring => cases h
  | i8 | i16 | i32 =>
    cases h
    exact setWidth_signExtend (by decide) x
  | u8 | u16 | u32 | f32 =>
    cases h
    exact BitVec.setWidth_setWidth_of_le x (by decide)
  | i64 | isize | u64 | usize | f64 | pointer =>
    cases h
    rfl

namespace Kind

theorem ne_cstring_of_isReturnable {k : Kind} (h : k.isReturnable = true) : k ≠ .cstring := by
  rintro rfl
  cases h

theorem ne_cstring_of_isFloat {k : Kind} (h : k.isFloat = true) : k ≠ .cstring := by
  rintro rfl
  cases h

/-- How many bits of a word data of the kind take. A truth value takes a byte. -/
def bits : Kind → Nat
  | bool | i8 | u8 => 8
  | i16 | u16 => 16
  | i32 | u32 | f32 => 32
  | i64 | isize | u64 | usize | f64 | pointer | cstring => 64

/-- Two words have the same low bits, as many as the kind has. -/
def Agree (k : Kind) (w w' : Word) : Prop := w.setWidth k.bits = w'.setWidth k.bits

theorem ofWord_congr {k : Kind} {w w' : Word} (h : k.Agree w w') (m : Memory) :
    k.ofWord m w = k.ofWord m w' := by
  unfold Agree at h
  cases k with
  | bool => exact congrArg (· != 0) h
  | i8 | u8 | i16 | u16 | i32 | u32 | f32 => exact h
  | i64 | isize | u64 | usize | f64 | pointer | cstring =>
    rw [bits, BitVec.setWidth_eq, BitVec.setWidth_eq] at h
    rw [h]

end Kind

namespace Memory

theorem textAt_null (m : Memory) : m.textAt 0 = "" := by
  have hout : ¬ m.Holds 0 := fun h => absurd h.1 (by decide)
  rw [textAt, stringAt, bytesAt, if_neg hout, if_pos rfl, List.takeWhile_nil, Utf8.decodeLossy]

/-- Every byte has an address: the copies end before the addresses do. -/
def Fits (m : Memory) : Prop := origin.toNat + m.bytes.length ≤ wordCount

theorem bytes_append (l l' : List (List UInt8)) (e : Word → List UInt8) :
    bytes ⟨l ++ l', e⟩ = bytes ⟨l, e⟩ ++ bytes ⟨l', e⟩ :=
  List.flatMap_append

theorem bytes_cons (copy : List UInt8) (l : List (List UInt8)) (e : Word → List UInt8) :
    bytes ⟨copy :: l, e⟩ = copy ++ 0 :: bytes ⟨l, e⟩ := by
  simp [bytes, List.flatMap_cons]

theorem takeWhile_ne_zero {copy : List UInt8} (h : (0 : UInt8) ∉ copy) (rest : List UInt8) :
    (copy ++ 0 :: rest).takeWhile (· ≠ 0) = copy := by
  rw [List.takeWhile_append_of_pos]
  · simp
  · intro b hb
    have hne : b ≠ 0 := fun he => h (he ▸ hb)
    simp [hne]

theorem top_toNat {m : Memory} (h : origin.toNat + m.bytes.length < wordCount) :
    m.top.toNat = origin.toNat + m.bytes.length := by
  unfold wordCount at h
  have hlen : m.bytes.length < 2 ^ 64 := by omega
  rw [top, BitVec.toNat_add, BitVec.toNat_ofNat, Nat.mod_eq_of_lt hlen, Nat.mod_eq_of_lt h]

/-- The bytes at an address up to the first NUL. What comes after the NUL is left open. -/
def HoldsAt (m : Memory) (address : Word) (b : List UInt8) : Prop :=
  ∃ before after, m.bytes = before ++ (b ++ 0 :: after) ∧
    address.toNat = origin.toNat + before.length

theorem HoldsAt.holds {m : Memory} {address : Word} {b : List UInt8} (h : m.HoldsAt address b) :
    m.Holds address := by
  obtain ⟨before, after, hbytes, haddress⟩ := h
  refine ⟨?_, ?_⟩
  · rw [BitVec.le_def]
    omega
  · rw [hbytes, List.length_append, List.length_append, List.length_cons]
    omega

theorem stringAt_of_holdsAt {m : Memory} {address : Word} {b : List UInt8}
    (h : m.HoldsAt address b) (hzero : (0 : UInt8) ∉ b) : m.stringAt address = b := by
  have hholds : m.Holds address := h.holds
  obtain ⟨before, after, hbytes, haddress⟩ := h
  rw [stringAt, bytesAt, if_pos hholds, haddress, Nat.add_sub_cancel_left, hbytes, List.drop_left,
    takeWhile_ne_zero hzero]

/-- A copy is where it was put, whatever was stored after it. -/
theorem holdsAt_copy {l rest : List (List UInt8)} {copy : List UInt8} {e : Word → List UInt8}
    (hfits : Fits ⟨l ++ copy :: rest, e⟩) : HoldsAt ⟨l ++ copy :: rest, e⟩ (top ⟨l, e⟩) copy := by
  have hbytes : bytes ⟨l ++ copy :: rest, e⟩ = bytes ⟨l, e⟩ ++ (copy ++ 0 :: bytes ⟨rest, e⟩) := by
    rw [bytes_append, bytes_cons]
  refine ⟨bytes ⟨l, e⟩, bytes ⟨rest, e⟩, hbytes, top_toNat ?_⟩
  unfold Fits at hfits
  rw [hbytes, List.length_append, List.length_append, List.length_cons] at hfits
  omega

/-- A copy without a NUL is found at the address it was given, whatever was stored after it. -/
theorem stringAt_copy {l rest : List (List UInt8)} {copy : List UInt8} {e : Word → List UInt8}
    (hzero : (0 : UInt8) ∉ copy) (hfits : Fits ⟨l ++ copy :: rest, e⟩) :
    stringAt ⟨l ++ copy :: rest, e⟩ (top ⟨l, e⟩) = copy :=
  stringAt_of_holdsAt (holdsAt_copy hfits) hzero

end Memory

namespace Value

/-- The copy that passing a value leaves in memory. -/
def copies (v : Value) : List (List UInt8) := (v.text?.map Utf8.bytes).toList

/-- A value that native code can be given: a string has no NUL inside. -/
def Passable (v : Value) : Prop := ∀ s, v.text? = some s → '\x00' ∉ s.toList

theorem pass?_of_word? {v : Value} {w : Word} (h : v.word? = some w) (m : Memory) :
    v.pass? m = some (w, m) ∧ v.copies = [] := by
  obtain ⟨k, x⟩ := v
  cases k with
  | cstring => cases h
  | _ =>
    have hw : Kind.toWord? _ x = some w := h
    simp [pass?, hw, copies, text?]

theorem pass?_of_not_passable {v : Value} (h : ¬ v.Passable) (m : Memory) : v.pass? m = none := by
  unfold Passable at h
  push Not at h
  obtain ⟨s, hs, hnul⟩ := h
  obtain ⟨k, x⟩ := v
  cases k with
  | cstring =>
    cases hs
    exact if_pos hnul
  | _ => cases hs

theorem word?_eq_none {v : Value} (h : v.word? = none) : ∃ s, v = ⟨.cstring, s⟩ := by
  obtain ⟨k, x⟩ := v
  cases k with
  | cstring => exact ⟨x, rfl⟩
  | _ => cases h

/-- A value that is no string is passed in a word of its own and reads back from it. -/
theorem exists_word_of_ne {v : Value} (h : v.kind ≠ .cstring) :
    ∃ w, v.word? = some w ∧ ∀ m, v.pass? m = some (w, m) ∧ ofWord m v.kind w = v := by
  cases hw : v.word? with
  | none =>
    obtain ⟨s, rfl⟩ := word?_eq_none hw
    exact absurd rfl h
  | some w =>
    refine ⟨w, rfl, fun m => ⟨(pass?_of_word? hw m).1, ?_⟩⟩
    rw [ofWord, Kind.ofWord_toWord? hw]

/-- The word passes the value: in the bits that the kind has it is the word that native code is
given for the value, and a string is still where it was copied to. -/
def LiesIn (m : Memory) (v : Value) (w : Word) : Prop :=
  ∃ before x after, v.pass? before = some (x, after) ∧ v.kind.Agree w x ∧
    ∀ s, v.text? = some s → m.stringAt x = Utf8.bytes s

variable {m : Memory} {v : Value} {w w' : Word}

theorem LiesIn.congr (h : v.LiesIn m w) (hw : v.kind.Agree w' w) : v.LiesIn m w' := by
  obtain ⟨before, x, after, hpass, hagree, htext⟩ := h
  exact ⟨before, x, after, hpass, hw.trans hagree, htext⟩

/-- A word is read as the value that it passes. -/
theorem LiesIn.ofWord_eq (h : v.LiesIn m w) : ofWord m v.kind w = v := by
  obtain ⟨before, x, after, hpass, hagree, htext⟩ := h
  rw [ofWord, Kind.ofWord_congr hagree]
  cases hx : v.word? with
  | some y =>
    rw [(pass?_of_word? hx before).1] at hpass
    cases hpass
    rw [Kind.ofWord_toWord? hx]
  | none =>
    obtain ⟨s, rfl⟩ := word?_eq_none hx
    rw [Kind.ofWord, Memory.textAt, htext s rfl, Utf8.bytes, Utf8.decodeLossy_encode,
      String.ofList_toList]

/-- A value lies in the word that it was passed in, as long as its copy is kept. -/
theorem liesIn_pass (hv : v.Passable) (m : Memory) :
    ∃ w, v.pass? m = some (w, { m with copies := m.copies ++ v.copies }) ∧
      ∀ rest, Memory.Fits { m with copies := m.copies ++ v.copies ++ rest } →
        v.LiesIn { m with copies := m.copies ++ v.copies ++ rest } w := by
  cases hw : v.word? with
  | some w =>
    obtain ⟨hpass, hcopies⟩ := pass?_of_word? hw m
    refine ⟨w, by simp [hpass, hcopies], fun rest _ => ⟨m, w, m, hpass, rfl, ?_⟩⟩
    intro s hs
    obtain ⟨k, x⟩ := v
    cases k with
    | cstring => cases hw
    | _ => cases hs
  | none =>
    obtain ⟨s, rfl⟩ := word?_eq_none hw
    have hs : '\x00' ∉ s.toList := hv s rfl
    have hpass : pass? ⟨.cstring, s⟩ m =
        some (m.top, { m with copies := m.copies ++ copies ⟨.cstring, s⟩ }) := by
      simp [pass?, hs, Memory.store, copies, text?]
    refine ⟨m.top, hpass, fun rest hfits => ⟨m, m.top, _, hpass, rfl, ?_⟩⟩
    rintro _ ⟨⟩
    have hlist : m.copies ++ copies ⟨.cstring, s⟩ ++ rest =
        m.copies ++ Utf8.bytes s :: rest := by simp [copies, text?]
    rw [hlist] at hfits ⊢
    exact Memory.stringAt_copy (Utf8.zero_notMem_bytes hs) hfits

/-- Passing succeeds, adds the copy to memory and nothing else, and the word reads back as the
value for as long as the copy is there. -/
theorem pass?_spec {v : Value} (hv : v.Passable) (m : Memory) :
    ∃ w, v.pass? m = some (w, { m with copies := m.copies ++ v.copies }) ∧
      ∀ rest, Memory.Fits { m with copies := m.copies ++ v.copies ++ rest } →
        ofWord { m with copies := m.copies ++ v.copies ++ rest } v.kind w = v := by
  obtain ⟨w, hpass, hlies⟩ := liesIn_pass hv m
  exact ⟨w, hpass, fun rest hfits => (hlies rest hfits).ofWord_eq⟩

/-- A result word is the word that the value is passed in. -/
theorem word?_of_resultWord {v : Value} {w : Word} (h : v.resultWord = .ok w) :
    v.word? = some w := by
  unfold resultWord at h
  split_ifs at h
  cases hw : v.word? with
  | none => simp [hw] at h
  | some x =>
    simp only [hw, Except.ok.injEq] at h
    rw [h]

/-- The result word of a value reads back as the value. -/
theorem ofWord_resultWord {v : Value} {w : Word} (h : v.resultWord = .ok w) (m : Memory) :
    ofWord m v.kind w = v := by
  rw [ofWord, Kind.ofWord_toWord? (word?_of_resultWord h)]

theorem resultWord_of_word? {v : Value} {w : Word} (h : v.kind.isReturnable = true)
    (hw : v.word? = some w) : v.resultWord = .ok w := by
  rw [resultWord, if_pos h, hw]

/-- Values of returnable kinds have a result word. -/
theorem resultWord_isOk {v : Value} (h : v.kind.isReturnable = true) :
    ∃ w, v.resultWord = .ok w := by
  obtain ⟨w, hw, -⟩ := exists_word_of_ne (Kind.ne_cstring_of_isReturnable h)
  exact ⟨w, resultWord_of_word? h hw⟩

end Value

end CallBridge
