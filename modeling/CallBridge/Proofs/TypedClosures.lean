import CallBridge.Backend
import CallBridge.Closure
import CallBridge.Proofs.BlockLength
import CallBridge.Proofs.HostContract

/-!
Typed closures keep every promise that is checked around a callback. What a closure describes is
always a valid signature, what is decoded by that signature always converts to its parameters, and
what it returns always has a result word. Only its own body can end a call of it.
-/

namespace CallBridge

theorem classCount_add (kinds : List Kind) :
    classCount .integer kinds + classCount .float kinds = kinds.length := by
  unfold classCount
  induction kinds with
  | nil => rfl
  | cons k ks ih =>
    rw [List.map_cons]
    cases hk : k.registerClass with
    | integer =>
      rw [List.count_cons_self, List.count_cons_of_ne (by decide), List.length_cons]
      omega
    | float =>
      rw [List.count_cons_self, List.count_cons_of_ne (by decide), List.length_cons]
      omega

/-- Twenty parameters never need a whole block. -/
theorem neededWords_le {kinds : List Kind} (h : kinds.length ≤ 20) :
    neededWords kinds ≤ maxFrameWords := by
  have hadd := classCount_add kinds
  have h6 : intRegisterCount = 6 := rfl
  have h8 : floatRegisterCount = 8 := rfl
  have h64 : maxFrameWords = 64 := rfl
  rw [neededWords, spilledWords, h6, h8, h64]
  split_ifs <;> omega

/-- Values of the declared kinds are arguments. -/
theorem Args.ofValues_of_kinds {ks : List Kind} {vs : List Value} (h : vs.map Value.kind = ks) :
    ∃ args, ofValues ks vs = .ok args ∧ toValues ks args = vs := by
  induction vs generalizing ks with
  | nil =>
    cases h
    exact ⟨(), rfl, rfl⟩
  | cons v vs ih =>
    cases h
    obtain ⟨rest, hof, hto⟩ := ih rfl
    have hcons : ofValues (v.kind :: vs.map Value.kind) (v :: vs) = .ok (v.data, rest) := by
      rw [ofValues, dif_pos rfl, hof]
    exact ⟨(v.data, rest), hcons, congrArg (v :: ·) hto⟩

namespace Outcome

/-- What a closure returns has the declared kind. -/
theorem value?_kind {result : Option Kind} (o : Outcome result) :
    (value? result o).map Value.kind = result := by
  cases result <;> rfl

/-- The word that comes back for what a closure returned. -/
def word? (result : Option Kind) (o : Outcome result) : Option Word :=
  (value? result o).bind Value.word?

/-- A result that fits the integer result register has a word. -/
theorem word?_isSome {result : Option Kind} (h : ∀ k ∈ result, k.isReturnable = true)
    (o : Outcome result) : (word? result o).isSome = result.isSome := by
  cases result with
  | none => rfl
  | some k =>
    have hreturnable : (⟨k, o⟩ : Value).kind.isReturnable = true := h k rfl
    obtain ⟨w, hw, -⟩ := Value.exists_word_of_ne (Kind.ne_cstring_of_isReturnable hreturnable)
    rw [show word? (some k) o = some w from hw]
    rfl

/-- What a closure returns is always encoded, if its result is the one that is declared. -/
theorem encode_value? {s : Signature} {result : Option Kind} (hresult : s.result = result)
    (h : ∀ k ∈ result, k.isReturnable = true) (o : Outcome result) :
    ∃ e, Binding.encode s (value? result o) = .ok e ∧ e.word? = word? result o ∧
      e.records = [] := by
  obtain ⟨params, declared⟩ := s
  cases hresult
  cases declared with
  | none => exact ⟨.nothing, rfl, rfl, rfl⟩
  | some k =>
    have hk : (⟨k, o⟩ : Value).kind.isReturnable = true := h k rfl
    have hsome := word?_isSome h o
    obtain ⟨w, hw⟩ := Option.isSome_iff_exists.1 hsome
    refine ⟨.word w, ?_, hw.symm, rfl⟩
    have hword : (⟨k, o⟩ : Value).resultWord = .ok w := Value.resultWord_of_word? hk hw
    show (if k = k then (⟨k, o⟩ : Value).resultWord.map _ else _) = _
    rw [if_pos rfl, hword]
    rfl

end Outcome

namespace Binding

variable {β : Type} {b : Binding β} {m : Memory} {block : Block}

theorem readAll_kinds {l : List (Kind × Nat)} {vs : List Value} (h : readAll m block l = .ok vs) :
    vs.map Value.kind = l.map Prod.fst := by
  induction l generalizing vs with
  | nil =>
    cases h
    rfl
  | cons entry rest ih =>
    obtain ⟨k, index⟩ := entry
    cases hw : block.word index with
    | error v => simp [readAll, hw, bind, Except.bind] at h
    | ok w =>
      cases hr : readAll m block rest with
      | error v => simp [readAll, hw, hr, bind, Except.bind] at h
      | ok values =>
        simp only [readAll, hw, hr, bind, Except.bind, Except.ok.injEq] at h
        rw [← h, List.map_cons, List.map_cons, ih hr]
        rfl

/-- Decoded values are as many as there are parameters, and of their kinds. -/
theorem decode_kinds {vs : List Value} (h : b.decode m block = .ok vs) :
    vs.map Value.kind = b.signature.params := by
  rw [readAll_kinds h]
  exact List.map_fst_zip (frameIndices_length _).ge

end Binding

/-- A reply to a registration that had nothing to object to in the signature: no rejection is
reported, and every error is one of the given ones. -/
structure Reply.Admitted {τ : Type} (refusal : RegistrationError → Prop)
    (r : Reply RegistrationError τ Word) : Prop where
  unrejected : ∀ e, .callbackRejected e ∉ r.events
  refused : ∀ e, r.answer = .error e → refusal e

namespace Reply.Admitted

variable {τ : Type} {refusal : RegistrationError → Prop}

theorem ok {a : Word} {l : List Event} {s : τ} (h : ∀ e, .callbackRejected e ∉ l) :
    Admitted refusal (.ok a l s) :=
  ⟨h, nofun⟩

theorem stop {o : Overflow} {s : τ} : Admitted refusal (.stop o [] s) :=
  ⟨fun _ => List.not_mem_nil, nofun⟩

theorem refuse {e : RegistrationError} {l : List Event} {s : τ} (he : refusal e)
    (h : ∀ e, .callbackRejected e ∉ l) : Admitted refusal (.refuse e l s) := by
  refine ⟨h, ?_⟩
  rintro e' ⟨⟩
  exact he

end Reply.Admitted

section Registration

variable {β η : Type} {held : HeldCallback β} {identity : Option Identity} {signature : Signature}

theorem Trampoline.compile_admitted (hs : Signature.of held.callback = .ok signature)
    (t : Trampoline β) :
    (t.compile held identity).Admitted fun e => e = .capacityExceeded t.capacity := by
  cases hknown : identity.bind t.registry.addressOf? with
  | some a =>
    rw [compile_known hknown]
    exact .ok (by simp)
  | none =>
    cases hfree : t.registry.free with
    | nil =>
      rw [compile_full hknown hs hfree]
      exact .refuse rfl (by simp)
    | cons k free =>
      cases he : t.table.locate k with
      | error o =>
        rw [compile_lost hknown hs hfree he]
        exact .stop
      | ok a =>
        rw [compile_bound hknown hs hfree he]
        exact .ok (by simp)

/-- The errors with which a host and its bookkeeping turn away a valid binding: there is no room, or
the host refuses it. -/
def HostBackend.Refusal [Registrar η β] (b : HostBackend η) (binding : Binding β)
    (e : RegistrationError) : Prop :=
  e = .capacityExceeded b.capacity.toNat ∨ (Registrar.register b.host binding).1 = .error e

theorem HostBackend.bind_admitted [Registrar η β]
    (hs : Signature.of held.callback = .ok signature) (b : HostBackend η) :
    (b.bind held).Admitted (b.Refusal { held, signature }) := by
  by_cases hlive : b.live = BitVec.allOnes 64
  · rw [bind_stopped hs hlive]
    exact .stop
  by_cases hroom : b.live < b.capacity
  · rcases hhost : Registrar.register b.host { held, signature } with ⟨e' | a, host⟩
    · rw [bind_refused hs hlive hroom hhost]
      exact .refuse (.inr (congrArg Prod.fst hhost)) (by simp)
    · rw [bind_bound hs hlive hroom hhost]
      exact .ok (by simp)
  · rw [bind_full hs hlive hroom]
    exact .refuse (.inl rfl) (by simp)

theorem HostBackend.compile_admitted [Registrar η β]
    (hs : Signature.of held.callback = .ok signature) (b : HostBackend η) :
    (b.compile held identity).Admitted (b.Refusal { held, signature }) := by
  have hbind := bind_admitted hs b
  unfold compile
  cases identity.bind b.addressOf? with
  | some a => exact .ok (by simp)
  | none =>
    -- What is remembered of a shared callback changes neither the answer nor the events.
    cases hanswer : (b.bind held).answer <;> cases identity <;> simp only [hanswer] <;>
      exact ⟨hbind.unrejected, fun e he => hbind.refused e (hanswer ▸ he)⟩

/-- The errors with which a backend turns away a valid binding. -/
def Backend.Refusal [Registrar η β] (b : Backend β η) (binding : Binding β)
    (e : RegistrationError) : Prop :=
  match b with
  | .trampoline t => e = .capacityExceeded t.capacity
  | .host h => h.Refusal binding e

/-- Neither backend finds fault with a callback whose signature is valid. -/
theorem Backend.register_admitted [Registrar η β] {c : Callback β}
    (hs : Signature.of c = .ok signature) (b : Backend β η) (i : Identity) :
    (b.register c).Admitted (b.Refusal { held := { callback := c }, signature }) ∧
      (b.registerShared ⟨c, i⟩).Admitted
        (b.Refusal { held := { callback := c, identity := some i }, signature }) := by
  let shared : SharedCallback β := ⟨c, i⟩
  cases b with
  | trampoline t =>
    have hplain : (t.compile { callback := c } none).Admitted _ := t.compile_admitted hs
    have hshared : (t.compile shared.held (some i)).Admitted _ := t.compile_admitted hs
    exact ⟨⟨hplain.unrejected, hplain.refused⟩, ⟨hshared.unrejected, hshared.refused⟩⟩
  | host h =>
    have hplain : (h.compile { callback := c } none).Admitted _ := h.compile_admitted hs
    have hshared : (h.compile shared.held (some i)).Admitted _ := h.compile_admitted hs
    rw [← HostBackend.register_eq_compile] at hplain
    rw [← HostBackend.registerShared_eq_compile h shared] at hshared
    exact ⟨⟨hplain.unrejected, hplain.refused⟩, ⟨hshared.unrejected, hshared.refused⟩⟩

end Registration

namespace Closure

variable {β σ : Type}

theorem describe_valid (c : Closure σ) (t : β) :
    Signature.of (c.describe t) = .ok { params := c.params, result := c.result } := by
  have hresults : Signature.resultOf (c.describe t).results = .ok c.result := by
    obtain ⟨params, result, body, arity, returnable⟩ := c
    cases result with
    | none => rfl
    | some k => exact if_pos (returnable k rfl)
  rw [Signature.of_eq_ite rfl hresults, if_pos (neededWords_le c.arity)]

/-- Values of the declared kinds go to the body as they are, and what it returns goes on. -/
theorem run_of_kinds (c : Closure σ) {vs : List Value} (h : vs.map Value.kind = c.params) :
    ∃ args, Args.toValues c.params args = vs ∧
      c.run vs = c.body args >>= fun o => pure (Outcome.value? c.result o) := by
  obtain ⟨args, hof, hto⟩ := Args.ofValues_of_kinds h
  refine ⟨args, hto, ?_⟩
  unfold run
  rw [hof]
  rfl

variable {x : Execution β σ} {b : Binding β} {block : Block}

/-- Behind decoded arguments, a binding of a closure ends as the body of the closure does, with the
word for what that returned. -/
theorem invoke_of_args (c : Closure σ) (hparams : b.signature.params = c.params)
    (hresult : b.signature.result = c.result) (hbody : x.body b.held.callback.body = c.run) {st : σ}
    {vs : List Value} (h : b.decode (x.memory st) block = .ok vs) :
    ∃ args, Args.toValues c.params args = vs ∧
      b.invoke x block st =
        ⟨(c.body args st).ended.map (Outcome.word? c.result), (c.body args st).state,
          (c.body args st).records⟩ := by
  obtain ⟨args, hargs, hrun⟩ := c.run_of_kinds ((Binding.decode_kinds h).trans hparams)
  refine ⟨args, hargs, ?_⟩
  rw [Binding.invoke_of_decode h, hbody, hrun]
  rcases hended : c.body args st with ⟨e | o, st', l⟩
  · rw [Action.bind_of_error (Action.bind_of_error hended)]
    rfl
  · have hreturned : (c.body args >>= fun o => pure (Outcome.value? c.result o)) st =
        ⟨.ok (Outcome.value? c.result o), st', l⟩ := by
      rw [Action.bind_of_ok hended, Action.pure_apply, List.append_nil]
    obtain ⟨e, hencode, hword, hrecords⟩ := Outcome.encode_value? hresult c.returnable o
    rw [Action.bind_of_ok hreturned, Binding.finish_of_encode hencode, hword, hrecords,
      List.append_nil]
    rfl

/-- No typed closure breaks a promise that is checked around it. Its signature is valid, so that a
registration fails for want of room or by the will of a host only. Over every block of full length
its binding reads inside of the block and decodes arguments of the declared kinds, as many as
there are parameters; the body runs on these, and what it returns, which is of the declared kind,
becomes a word exactly if a result is declared. Nothing is reported besides, and a call panics only
where the body does. -/
theorem never_violates (c : Closure σ) (t : β) :
    let s : Signature := { params := c.params, result := c.result }
    Signature.of (c.describe t) = .ok s ∧
    (∀ {η : Type} [Registrar η β] (backend : Backend β η) (i : Identity),
      (backend.register (c.describe t)).Admitted
          (backend.Refusal { held := { callback := c.describe t }, signature := s }) ∧
        (backend.registerShared ⟨c.describe t, i⟩).Admitted
          (backend.Refusal
            { held := { callback := c.describe t, identity := some i }, signature := s })) ∧
    ∀ (x : Execution β σ) (b : Binding β), x.body t = c.run → b.held.callback = c.describe t →
      Signature.of b.held.callback = .ok b.signature →
      ∀ (st : σ) (block : Block), block.words.length = maxFrameWords →
        (∀ j ∈ b.fetched (x.memory st) block, j < block.words.length) ∧
        ∃ args : Args c.params,
          let values := Args.toValues c.params args
          let body := c.body args st
          let r := b.invoke x block st
          b.decode (x.memory st) block = .ok values ∧ values.map Value.kind = c.params ∧
          r = ⟨body.ended.map (Outcome.word? c.result), body.state, body.records⟩ ∧
          (∀ o, body.ended = .ok o → (Outcome.value? c.result o).map Value.kind = c.result ∧
            (Outcome.word? c.result o).isSome = c.result.isSome) ∧
          ((∀ p, body.ended ≠ .error (.panic p)) → ∀ p, r.ended ≠ .error (.panic p)) := by
  intro s
  have hof := c.describe_valid t
  refine ⟨hof, fun backend i => backend.register_admitted hof i, ?_⟩
  intro x b hbody hheld hb st block hblock
  have hsignature : b.signature = s := by
    rw [hheld, hof] at hb
    exact (Except.ok.inj hb).symm
  have hneeded : neededWords b.signature.params ≤ block.words.length := by
    rw [hblock]
    exact Signature.needed_of_ok hb
  obtain ⟨⟨vs, hvs⟩, hfetched⟩ := Binding.decode_inside (x.memory st) hneeded
  refine ⟨?_, ?_⟩
  · rw [hfetched]
    exact (frameIndices_lt_iff _ _).2 hneeded
  have hparams : b.signature.params = c.params := congrArg Signature.params hsignature
  have hresult : b.signature.result = c.result := congrArg Signature.result hsignature
  have htag : x.body b.held.callback.body = c.run := by rw [hheld]; exact hbody
  obtain ⟨args, rfl, hinvoke⟩ := c.invoke_of_args hparams hresult htag hvs
  refine ⟨args, hvs, (Binding.decode_kinds hvs).trans hparams, hinvoke, fun o _ => ?_, ?_⟩
  · exact ⟨Outcome.value?_kind o, Outcome.word?_isSome c.returnable o⟩
  · intro hcalm p
    rw [hinvoke]
    cases hended : (c.body args st).ended with
    | ok o => exact nofun
    | error e =>
      rintro ⟨⟩
      exact hcalm p hended

/-- A closure that counts its calls and returns its first argument wider. A block of null words
whose ninth is all ones, the first integer register, makes it answer minus one. -/
theorem never_violates_widening :
    let c : Closure Nat := {
      params := [.i8, .f64, .cstring]
      result := some .i32
      body := fun (n, _) => do
        Action.modify (· + 1)
        pure (BitVec.signExtend 32 n) }
    let x : Execution Unit Nat := { memory := fun _ => {}, body := fun _ => c.run }
    let b : Binding Unit :=
      { held := { callback := c.describe () }
        signature := { params := [.i8, .f64, .cstring], result := some .i32 } }
    let block : Block :=
      { words := List.replicate 8 0 ++ BitVec.allOnes 64 :: List.replicate 55 0 }
    Signature.of b.held.callback = .ok b.signature ∧ block.words.length = maxFrameWords ∧
      b.decode {} block = .ok [⟨.i8, -1⟩, ⟨.f64, 0⟩, ⟨.cstring, ""⟩] ∧
      b.invoke x block 0 = ⟨.ok (some (BitVec.allOnes 64)), 1, []⟩ ∧
      ∀ p, (b.invoke x block 0).ended ≠ .error (.panic p) := by
  intro c x b block
  obtain ⟨hof, -, hall⟩ := never_violates c ()
  have hblock : block.words.length = maxFrameWords := by decide
  obtain ⟨-, ⟨n, f, s, _⟩, hdecode, -, hinvoke, -, hcalm⟩ := hall x b rfl rfl hof 0 block hblock
  have hvalues : b.decode {} block = .ok [⟨.i8, -1⟩, ⟨.f64, 0⟩, ⟨.cstring, ""⟩] := by
    rw [← Memory.textAt_null {}]
    rfl
  have hn : n = -1 := by
    have hlist := Except.ok.inj (hdecode.symm.trans hvalues)
    simpa [Args.toValues, c] using (List.cons.inj hlist).1
  subst hn
  exact ⟨hof, hblock, hvalues, hinvoke.trans rfl, hcalm fun p => nofun⟩

end Closure

end CallBridge
