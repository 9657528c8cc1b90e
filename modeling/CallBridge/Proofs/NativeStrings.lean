import CallBridge.Process.Gateway
import CallBridge.Proofs.LossyText
import CallBridge.Proofs.Marshaling

/-!
Strings between the library and native code. A string is passed as the address of a copy and comes
back from it for as long as the copy is kept, whatever is passed after it. Bytes that native code
keeps for a string are read up to the first NUL, and whatever text they come to can be passed on.
-/

namespace CallBridge

namespace Memory

/-- Pass a value as one more argument. One that is refused leaves memory as it is. -/
def pass (m : Memory) (v : Value) : Except CallError Word × Memory :=
  match v.pass? m with
  | some (w, m') => (.ok w, m')
  | none => (.error .invalidString, m)

/-- Memory after values were passed, or refused, one after the other. -/
def passing (m : Memory) (vs : List Value) : Memory := vs.foldl (fun m v => (m.pass v).2) m

variable {m : Memory} {address : Word} {b : List UInt8}

theorem textAt_of_holdsAt (h : m.HoldsAt address b) (hzero : (0 : UInt8) ∉ b) :
    m.textAt address = String.ofList (Utf8.decodeLossy b) := by
  rw [textAt, stringAt_of_holdsAt h hzero]

/-- A string that memory holds is read back. -/
theorem textAt_of_bytes {s : String} (h : m.HoldsAt address (Utf8.bytes s))
    (hs : '\x00' ∉ s.toList) : m.textAt address = s := by
  rw [textAt_of_holdsAt h (Utf8.zero_notMem_bytes hs), Utf8.bytes, Utf8.decodeLossy_encode,
    String.ofList_toList]

/-- Copies are only ever added behind the others. -/
theorem exists_copies_pass (m : Memory) (v : Value) :
    ∃ l, (m.pass v).2 = { m with copies := m.copies ++ l } := by
  unfold pass
  cases h : v.pass? m with
  | none => exact ⟨[], by simp⟩
  | some r =>
    have hv : v.Passable := by
      by_contra hnot
      rw [Value.pass?_of_not_passable hnot] at h
      cases h
    obtain ⟨w, hpass, -⟩ := Value.pass?_spec hv m
    rw [hpass, Option.some.injEq] at h
    subst h
    exact ⟨v.copies, rfl⟩

theorem exists_copies_passing (m : Memory) (vs : List Value) :
    ∃ l, m.passing vs = { m with copies := m.copies ++ l } := by
  unfold passing
  induction vs generalizing m with
  | nil => exact ⟨[], by simp⟩
  | cons v vs ih =>
    obtain ⟨l, hl⟩ := exists_copies_pass m v
    obtain ⟨l', hl'⟩ := ih (m.pass v).2
    refine ⟨l ++ l', ?_⟩
    rw [List.foldl_cons, hl', hl, List.append_assoc]

/-- A string is refused if it has a NUL. Otherwise one copy is added, and it is held at the address
that is passed for as long as it is kept. -/
theorem pass_string (m : Memory) (s : String) :
    ('\x00' ∈ s.toList ∧ m.pass ⟨.cstring, s⟩ = (.error .invalidString, m)) ∨
    ('\x00' ∉ s.toList ∧ ∃ address,
      m.pass ⟨.cstring, s⟩ = (.ok address, { m with copies := m.copies ++ [Utf8.bytes s] }) ∧
      ∀ vs, (passing { m with copies := m.copies ++ [Utf8.bytes s] } vs).Fits →
        (passing { m with copies := m.copies ++ [Utf8.bytes s] } vs).HoldsAt address
          (Utf8.bytes s)) := by
  by_cases hs : '\x00' ∈ s.toList
  · refine .inl ⟨hs, ?_⟩
    have hpass : Value.pass? ⟨.cstring, s⟩ m = none := if_pos hs
    rw [pass, hpass]
  · have hpass : Value.pass? ⟨.cstring, s⟩ m = some (m.store (Utf8.bytes s)) := if_neg hs
    refine .inr ⟨hs, m.top, ?_, fun vs hfits => ?_⟩
    · rw [pass, hpass]
      rfl
    · obtain ⟨l, hl⟩ := exists_copies_passing { m with copies := m.copies ++ [Utf8.bytes s] } vs
      rw [hl, List.append_assoc, List.singleton_append] at hfits ⊢
      exact holdsAt_copy hfits

/-- What refuses a value refuses the call that it is an argument of. -/
theorem place_of_refused {m : Memory} {v : Value} {e : CallError} (h : m.pass v = (.error e, m))
    (count index : Nat) (c : Classifier) (w : ArgumentWords) (rest : List (Value × Kind)) :
    TypedCall.place count index c m w ((v, v.kind) :: rest) = .error e := by
  unfold pass at h
  cases hpass : v.pass? m with
  | none =>
    rw [hpass] at h
    cases h
    rw [TypedCall.place, if_neg (not_not.2 rfl), hpass]
  | some r =>
    rw [hpass] at h
    cases h

/-- A string with a NUL is refused, also in a call, and memory stays as it is; any other is read
back from the address that is passed, whatever is passed after it. Bytes without a NUL are read as
the one text in which each maximal ill-formed part is replaced, which is the text that they encode
if they encode one, wherever they lie and whatever is behind the NUL that ends them. That text has
no NUL, and is read back from the bytes that encode it. -/
theorem strings_survive :
    (∀ (m : Memory) (s : String),
      ('\x00' ∈ s.toList ∧ m.pass ⟨.cstring, s⟩ = (.error .invalidString, m) ∧
        ∀ count index c w rest, TypedCall.place count index c m w
          ((⟨.cstring, s⟩, .cstring) :: rest) = .error .invalidString) ∨
      ('\x00' ∉ s.toList ∧ ∃ address,
        m.pass ⟨.cstring, s⟩ = (.ok address, { m with copies := m.copies ++ [Utf8.bytes s] }) ∧
        ∀ vs, (passing { m with copies := m.copies ++ [Utf8.bytes s] } vs).Fits →
          (passing { m with copies := m.copies ++ [Utf8.bytes s] } vs).textAt address = s)) ∧
    (∀ m : Memory, m.textAt 0 = "") ∧
    ∀ b : List UInt8, 0 ∉ b → ∃ text : String,
      (∀ m address, HoldsAt m address b → m.textAt address = text) ∧
      Utf8.Reads b text.toList ∧ (∀ s, Utf8.bytes s = b → s = text) ∧ '\x00' ∉ text.toList ∧
      ∀ m address, HoldsAt m address (Utf8.bytes text) → m.textAt address = text := by
  refine ⟨fun m s => ?_, textAt_null, fun b hzero => ?_⟩
  · rcases pass_string m s with ⟨hs, hpass⟩ | ⟨hs, address, hpass, hheld⟩
    · exact .inl ⟨hs, hpass, place_of_refused hpass⟩
    · exact .inr ⟨hs, address, hpass, fun vs hfits => textAt_of_bytes (hheld vs hfits) hs⟩
  · have hreads := Utf8.reads_decodeLossy b
    have hnul := Utf8.nul_notMem_of_reads hreads hzero
    rw [← String.toList_ofList (l := Utf8.decodeLossy b)] at hreads hnul
    refine ⟨String.ofList (Utf8.decodeLossy b), fun m address h => textAt_of_holdsAt h hzero,
      hreads, ?_, hnul, fun m address h => textAt_of_bytes h hnul⟩
    rintro s rfl
    rw [Utf8.bytes, Utf8.decodeLossy_encode, String.ofList_toList]

/-- A string before a refused one and another, and a character that breaks off before a letter. -/
theorem strings_survive_broken_off :
    ('\x00' ∉ "né".toList ∧
      ∃ address m', pass {} ⟨.cstring, "né"⟩ = (.ok address, m') ∧
        (m'.passing [⟨.cstring, "a\x00"⟩, ⟨.cstring, "b"⟩]).Fits ∧
        (m'.passing [⟨.cstring, "a\x00"⟩, ⟨.cstring, "b"⟩]).textAt address = "né") ∧
    (0 ∉ [(0x63 : UInt8), 0xE4, 0xBD, 0x41] ∧
      HoldsAt { copies := [[0x63, 0xE4, 0xBD, 0x41, 0, 0x80]] } origin [0x63, 0xE4, 0xBD, 0x41] ∧
      textAt { copies := [[0x63, 0xE4, 0xBD, 0x41, 0, 0x80]] } origin = "c\uFFFDA") := by
  have hnul : '\x00' ∉ "né".toList := by decide
  have hfits : (passing { copies := [] ++ [Utf8.bytes "né"] }
      [⟨.cstring, "a\x00"⟩, ⟨.cstring, "b"⟩]).Fits := by
    unfold Fits
    decide
  have hzero : 0 ∉ [(0x63 : UInt8), 0xE4, 0xBD, 0x41] := by decide
  have hheld : HoldsAt { copies := [[0x63, 0xE4, 0xBD, 0x41, 0, 0x80]] } origin
      [0x63, 0xE4, 0xBD, 0x41] := ⟨[], [0x80, 0], rfl, rfl⟩
  obtain ⟨hpass, -, hread⟩ := strings_survive
  refine ⟨⟨hnul, ?_⟩, hzero, hheld, ?_⟩
  · rcases hpass {} "né" with ⟨hin, -⟩ | ⟨-, address, heq, hlater⟩
    · exact absurd hin hnul
    · exact ⟨address, _, heq, hfits, hlater _ hfits⟩
  · obtain ⟨text, htext, hreads, -⟩ := hread _ hzero
    rw [htext _ _ hheld, ← String.ofList_toList (s := text), ← Utf8.reads_iff.1 hreads]
    simp [Utf8.decodeLossy, Utf8.next, Utf8.Lead.ofByte?, Utf8.finish, Utf8.replacement]

end Memory

end CallBridge
