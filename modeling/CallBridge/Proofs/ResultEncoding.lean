import CallBridge.Proofs.Validation

/-!
The word that a value of a callback becomes. A number is extended to a whole word, by its sign if its
kind has one, and reading the word back gives the number. Validation keeps out the kinds that have no
word, so the outcome of an invocation is settled by what is declared and what is returned.
-/

namespace CallBridge

/-- The word holds the data, extended to its whole width: by the sign for signed kinds, with zeros
for unsigned ones. A truth value is one or zero, and an address is itself. No other kind has a word
of its own that fits the integer result register. -/
def Kind.ExtendsTo : (k : Kind) → k.Carrier → Word → Prop
  | bool, b, w => w = if b then 1 else 0
  | i8, x, w => w.toInt = x.toInt
  | i16, x, w => w.toInt = x.toInt
  | i32, x, w => w.toInt = x.toInt
  | i64, x, w | isize, x, w => w.toInt = x.toInt
  | u8, x, w => w.toNat = x.toNat
  | u16, x, w => w.toNat = x.toNat
  | u32, x, w => w.toNat = x.toNat
  | u64, x, w | usize, x, w => w.toNat = x.toNat
  | pointer, x, w => w = x
  | f32, _, _ | f64, _, _ | cstring, _, _ => False

theorem Kind.extendsTo_of_toWord? {k : Kind} {x : k.Carrier} {w : Word}
    (hk : k.isReturnable = true) (h : k.toWord? x = some w) : k.ExtendsTo x w := by
  cases k with
  | f32 | f64 | cstring => cases hk
  | i8 | i16 | i32 =>
    cases h
    exact BitVec.toInt_signExtend_of_le (by decide)
  | u8 | u16 | u32 =>
    cases h
    exact BitVec.toNat_setWidth_of_le (by decide)
  | bool | i64 | isize | u64 | usize | pointer =>
    cases h
    rfl

/-- The declared result of a valid signature fits the integer result register. -/
theorem Signature.returnable_of_ok {β : Type} {c : Callback β} {s : Signature} (h : of c = .ok s) :
    ∀ k ∈ s.result, k.isReturnable = true := by
  have hjudged : Judged c.params c.results (of c) := ofTypes_judged c.params c.results
  rw [h] at hjudged
  intro k hk
  cases hjudged with
  | fine _ returns _ => exact Kind.isReturnable_iff.2 (returns.2 k hk)

namespace Binding

section Encode

variable {s : Signature}

/-- A value of the declared kind has a word, and the word reads back as the value. -/
theorem encode_of_declared {k : Kind} (hs : s.result = some k) (hk : k.isReturnable = true)
    (x : k.Carrier) :
    ∃ w, encode s (some ⟨k, x⟩) = .ok (.word w) ∧ k.ExtendsTo x w ∧ ∀ m, k.ofWord m w = x := by
  obtain ⟨w, hw⟩ := Value.resultWord_isOk (v := ⟨k, x⟩) hk
  have hword : k.toWord? x = some w := Value.word?_of_resultWord hw
  refine ⟨w, ?_, Kind.extendsTo_of_toWord? hk hword, Kind.ofWord_toWord? hword⟩
  simp only [encode, hs, if_true, hw]
  rfl

theorem encode_of_other {k : Kind} (hs : s.result = some k) {returned : Option Value}
    (h : returned.map Value.kind ≠ some k) :
    encode s returned = .error (.resultMismatch k returned) := by
  cases returned with
  | none => simp only [encode, hs]
  | some v =>
    have hne : v.kind ≠ k := fun he => h (congrArg some he)
    simp only [encode, hs, if_neg hne]

/-- Without a declared result there is no word, and a value that was returned is reported. -/
theorem encode_of_undeclared (hs : s.result = none) (returned : Option Value) :
    ∃ e, encode s returned = .ok e ∧ e.word? = none ∧
      e.records = returned.toList.map fun v => .event (.callbackResultDropped v.kind.name) := by
  cases returned with
  | none => exact ⟨.nothing, by simp only [encode, hs], rfl, rfl⟩
  | some v => exact ⟨.dropped v.kind, by simp only [encode, hs], rfl, rfl⟩

/-- A kind without a result word is not declared, so it is turned away for not being the declared
one. -/
theorem encode_ne_unsupported (hs : ∀ k ∈ s.result, k.isReturnable = true)
    (returned : Option Value) (kind : Kind) :
    encode s returned ≠ .error (.unsupportedResult kind) := by
  cases hr : s.result with
  | none =>
    obtain ⟨e, he, -⟩ := encode_of_undeclared hr returned
    rw [he]
    exact nofun
  | some k =>
    by_cases hkind : returned.map Value.kind = some k
    · obtain ⟨⟨_, x⟩, rfl, rfl⟩ := Option.map_eq_some_iff.1 hkind
      obtain ⟨w, he, -⟩ := encode_of_declared hr (hs _ hr) x
      rw [he]
      exact nofun
    · rw [encode_of_other hr hkind]
      exact nofun

end Encode

variable {β σ : Type} {b : Binding β} {x : Execution β σ} {block : Block} {st : σ}

/-- A block fails to be decoded only where it ends too early. -/
theorem overrun_of_decode {m : Memory} {v : Violation} (h : b.decode m block = .error v) :
    ∃ index, v = .blockOverrun index block.words.length := by
  rcases Nat.lt_or_ge block.words.length (neededWords b.signature.params) with hshort | hlong
  · obtain ⟨-, index, -, -, -, -, hdecode, -⟩ := decode_outside m hshort
    rw [hdecode] at h
    cases h
    exact ⟨index, rfl⟩
  · obtain ⟨⟨args, hargs⟩, -⟩ := decode_inside m hlong
    rw [hargs] at h
    cases h

/-- Behind a body that returned, an invocation is settled by what that returned. -/
theorem invoke_of_returned {args : List Value} (hd : b.decode (x.memory st) block = .ok args)
    {returned : Option Value} {q : σ} {l : List Record}
    (hbody : x.body b.held.callback.body args st = ⟨.ok returned, q, l⟩) :
    (∀ e, encode b.signature returned = .ok e →
      b.invoke x block st = ⟨.ok e.word?, q, l ++ e.records⟩) ∧
    ∀ v, encode b.signature returned = .error v →
      b.invoke x block st =
        ⟨.error (.panic (.violation v)), q, l ++ [.event (.ofViolation v)]⟩ := by
  rw [invoke_of_decode hd, Action.bind_of_ok hbody]
  refine ⟨fun e he => ?_, fun v hv => ?_⟩
  · rw [finish_of_encode he]
  · rw [finish_of_violation hv]

/-- What becomes of the value that a body returned. Without a declared result nothing comes back, and
a value is dropped with a warning. A value of the declared kind comes back as its extension to a
word, which reads as the value again; nothing is reported. Anything else is reported and ends in a
panic. The panic for values without a word is never among them: it can only come from the body
itself. -/
theorem invoke_encodes (hb : Signature.of b.held.callback = .ok b.signature)
    (x : Execution β σ) (block : Block) (st : σ) :
    (∀ args returned q l, b.decode (x.memory st) block = .ok args →
      x.body b.held.callback.body args st = ⟨.ok returned, q, l⟩ →
      (b.signature.result = none → b.invoke x block st =
        ⟨.ok none, q,
          l ++ returned.toList.map fun v => .event (.callbackResultDropped v.kind.name)⟩) ∧
      ∀ k, b.signature.result = some k →
        (∀ data : k.Carrier, returned = some ⟨k, data⟩ →
          ∃ w, b.invoke x block st = ⟨.ok (some w), q, l⟩ ∧ k.ExtendsTo data w ∧
            ∀ m, k.ofWord m w = data) ∧
        (returned.map Value.kind ≠ some k → b.invoke x block st =
          ⟨.error (.panic (.violation (.resultMismatch k returned))), q,
            l ++ [.event (.ofViolation (.resultMismatch k returned))]⟩)) ∧
    ∀ kind, (b.invoke x block st).ended = .error (.panic (.violation (.unsupportedResult kind))) →
      ∃ args, b.decode (x.memory st) block = .ok args ∧
        (x.body b.held.callback.body args st).ended =
          .error (.panic (.violation (.unsupportedResult kind))) := by
  have hreturnable := Signature.returnable_of_ok hb
  refine ⟨fun args returned q l hd hbody => ?_, fun kind hended => ?_⟩
  · obtain ⟨hencoded, hviolated⟩ := invoke_of_returned hd hbody
    refine ⟨fun hnone => ?_, fun k hk => ⟨?_, fun hother => ?_⟩⟩
    · obtain ⟨e, he, hword, hrecords⟩ := encode_of_undeclared hnone returned
      rw [hencoded e he, hword, hrecords]
    · rintro data rfl
      obtain ⟨w, he, hextends, hreads⟩ := encode_of_declared hk (hreturnable k hk) data
      refine ⟨w, ?_, hextends, hreads⟩
      rw [hencoded _ he]
      exact congrArg (Run.mk _ _) (List.append_nil l)
    · exact hviolated _ (encode_of_other hk hother)
  · cases hd : b.decode (x.memory st) block with
    | error v =>
      obtain ⟨index, rfl⟩ := overrun_of_decode hd
      rw [invoke_of_violation hd] at hended
      cases hended
    | ok args =>
      refine ⟨args, rfl, ?_⟩
      rcases hbody : x.body b.held.callback.body args st with ⟨e | returned, q, l⟩
      · obtain ⟨-, hstopped, -⟩ := invoke_spec (x := x) hd
        rw [hstopped e (by rw [hbody])] at hended
        cases hended
        rfl
      · obtain ⟨hencoded, hviolated⟩ := invoke_of_returned hd hbody
        cases he : encode b.signature returned with
        | ok e =>
          rw [hencoded e he] at hended
          cases hended
        | error v =>
          rw [hviolated v he] at hended
          cases hended
          exact absurd he (encode_ne_unsupported hreturnable returned kind)

/-- A callback that declares a short number and returns one, or a truth value instead. -/
theorem invoke_encodes_short :
    let c : Callback Value :=
      { params := [.scalar .i8], results := [.scalar .i16], body := ⟨.i16, -2⟩ }
    let c' : Callback Value := { c with body := ⟨.bool, true⟩ }
    let s : Signature := { params := [.i8], result := some .i16 }
    let x : Execution Value Unit := { memory := fun _ => {}, body := fun v _ => pure (some v) }
    let block : Block := { words := List.replicate 64 0 }
    (Binding.invoke x { held := { callback := c }, signature := s } block ()).ended =
        .ok (some 0xFFFFFFFFFFFFFFFE) ∧
      (Binding.invoke x { held := { callback := c' }, signature := s } block ()).ended =
        .error (.panic (.violation (.resultMismatch .i16 (some ⟨.bool, true⟩)))) := by
  intro c c' s x block
  let b : Binding Value := { held := { callback := c }, signature := s }
  let b' : Binding Value := { held := { callback := c' }, signature := s }
  have hb : Signature.of b.held.callback = .ok b.signature := rfl
  have hb' : Signature.of b'.held.callback = .ok b'.signature := rfl
  obtain ⟨hreturned, -⟩ := invoke_encodes hb x block ()
  obtain ⟨hreturned', -⟩ := invoke_encodes hb' x block ()
  obtain ⟨-, hdeclared⟩ := hreturned [⟨.i8, 0⟩] (some ⟨.i16, -2⟩) () [] rfl rfl
  obtain ⟨-, hdeclared'⟩ := hreturned' [⟨.i8, 0⟩] (some ⟨.bool, true⟩) () [] rfl rfl
  obtain ⟨w, hw, hextends, -⟩ := (hdeclared .i16 rfl).1 (-2) rfl
  refine ⟨?_, ?_⟩
  · rw [show b.invoke x block () = _ from hw]
    have hword : w = 0xFFFFFFFFFFFFFFFE := BitVec.eq_of_toInt_eq hextends
    rw [hword]
  · rw [show b'.invoke x block () = _ from (hdeclared' .i16 rfl).2 (by simp)]

end Binding

end CallBridge
