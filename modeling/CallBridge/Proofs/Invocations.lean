import CallBridge.Proofs.Actions
import CallBridge.Proofs.Registrations

/-!
What running a binding comes to: the panic of a block that cannot be decoded, the end of a body that
gave up, or what the value became that the body returned. Properties of actions that compose carry
over from bodies to dispatching.
-/

namespace CallBridge

namespace Binding

variable {β σ : Type} {b : Binding β} {x : Execution β σ} {block : Block} {st : σ}

/-- What becomes of the value that a body returned, with what is reported of it. -/
def finish (s : Signature) (returned : Option Value) : Action σ (Option Word) := do
  match ← Action.require (encode s returned) with
  | .nothing => pure none
  | .word w => pure (some w)
  | .dropped kind => do
    Action.emit (.callbackResultDropped kind.name)
    pure none

theorem invoke_of_decode {args : List Value} (h : b.decode (x.memory st) block = .ok args) :
    b.invoke x block st = (x.body b.held.callback.body args >>= finish b.signature) st := by
  unfold invoke
  rw [Action.get_bind, h]
  rfl

theorem runAt_records (b : Binding β) (x : Execution β σ) (slot : Nat) (block : Block) (st : σ) :
    .event (.callbackInvoked slot) :: (b.invoke x block st).records <+:
      (b.runAt x slot block st).records := by
  unfold runAt
  rw [Action.emit_bind, List.prefix_cons_inj]
  exact Action.records_prefix_bind _ _ _

theorem runAt_of_ok {slot : Nat} {o : Option Word} {st' : σ} {l : List Record}
    (h : b.invoke x block st = ⟨.ok o, st', l⟩) :
    b.runAt x slot block st = ⟨.ok (.ok o), st', .event (.callbackInvoked slot) :: l⟩ := by
  unfold runAt
  rw [Action.emit_bind, Action.bind_of_ok h]
  simp only [Action.pure_apply, List.append_nil]

/-- A value of the declared kind becomes its word. -/
theorem finish_of_value {s : Signature} {v : Value} {w : Word} (hs : s.result = some v.kind)
    (hw : v.resultWord = .ok w) (st : σ) : finish s (some v) st = ⟨.ok (some w), st, []⟩ := by
  have hencode : encode s (some v) = .ok (.word w) := by
    simp only [encode, hs, if_true, hw]
    rfl
  unfold finish
  rw [hencode]
  rfl

/-- Without a declared result nothing comes back, whatever the body returned. -/
theorem finish_of_none {s : Signature} (hs : s.result = none) (returned : Option Value) (st : σ) :
    ∃ l, finish s returned st = ⟨.ok none, st, l⟩ := by
  unfold finish
  cases returned with
  | none =>
    have hencode : encode s none = .ok .nothing := by simp only [encode, hs]
    rw [hencode]
    exact ⟨[], rfl⟩
  | some v =>
    have hencode : encode s (some v) = .ok (.dropped v.kind) := by simp only [encode, hs]
    rw [hencode]
    exact ⟨_, rfl⟩

/-- The result word that a dispatch answers. -/
def Encoded.word? : Encoded → Option Word
  | word w => some w
  | _ => none

/-- What is reported of a value that is not encoded. -/
def Encoded.records : Encoded → List Record
  | dropped kind => [.event (.callbackResultDropped kind.name)]
  | _ => []

theorem finish_of_encode {s : Signature} {returned : Option Value} {e : Encoded}
    (h : encode s returned = .ok e) (st : σ) :
    finish s returned st = ⟨.ok e.word?, st, e.records⟩ := by
  unfold finish
  rw [h]
  cases e <;> rfl

theorem finish_of_violation {s : Signature} {returned : Option Value} {v : Violation}
    (h : encode s returned = .error v) (st : σ) :
    finish s returned st = ⟨.error (.panic (.violation v)), st, [.event (.ofViolation v)]⟩ := by
  unfold finish
  rw [h]
  rfl

theorem finish_state (s : Signature) (returned : Option Value) (st : σ) :
    (finish s returned st).state = st := by
  cases h : encode s returned with
  | ok e => rw [finish_of_encode h]
  | error v => rw [finish_of_violation h]

theorem invoke_of_violation {v : Violation} (h : b.decode (x.memory st) block = .error v) :
    b.invoke x block st =
      ⟨.error (.panic (.violation v)), st, [.event (.ofViolation v)]⟩ := by
  unfold invoke
  rw [Action.get_bind, h]
  rfl

/-- Behind a block that can be decoded, a binding ends and leaves the state as its body does, and
then encodes what that returned. -/
theorem invoke_spec {args : List Value} (h : b.decode (x.memory st) block = .ok args) :
    let body := x.body b.held.callback.body args st
    let r := b.invoke x block st
    r.state = body.state ∧ (∀ e, body.ended = .error e → r.ended = .error e) ∧
      ∀ returned, body.ended = .ok returned →
        (∀ v, encode b.signature returned = .error v →
          r.ended = .error (.panic (.violation v))) ∧
        ∀ e, encode b.signature returned = .ok e → r.ended = .ok e.word? := by
  intro body r
  have hr : r = (x.body b.held.callback.body args >>= finish b.signature) st := invoke_of_decode h
  rw [hr]
  refine ⟨Action.bind_state (finish_state b.signature), fun e he => Action.bind_ended_of_error he,
    fun returned hreturned => ?_⟩
  rw [Action.bind_ended_of_ok hreturned]
  refine ⟨fun v hv => ?_, fun e he => ?_⟩
  · rw [finish_of_violation hv]
  · rw [finish_of_encode he]

end Binding

/-- Properties of actions that carry over from bodies to dispatching: what stands around a body has
them, and they compose. -/
structure Action.Carried {σ : Type} (Q : ∀ α : Type, Action σ α → Prop) : Prop where
  pure : ∀ {α : Type} (a : α), Q α (Pure.pure a)
  get : Q σ Action.get
  require : ∀ {α : Type} (r : Except Violation α), Q α (Action.require r)
  invoked : ∀ k, Q Unit (Action.emit (.callbackInvoked k))
  dropped : ∀ kind, Q Unit (Action.emit (.callbackResultDropped kind))
  bind : ∀ {α γ : Type} {x : Action σ α} {f : α → Action σ γ}, Q α x → (∀ a, Q γ (f a)) →
    Q γ (x >>= f)

section Dispatch

variable {β σ : Type} {x : Execution β σ} {P : σ → Prop} {Q : ∀ α : Type, Action σ α → Prop}

namespace Action

theorem Carried.invoke (hQ : Carried Q) (hbody : ∀ c args, Q _ (x.body c args)) (b : Binding β)
    (block : Block) : Q _ (b.invoke x block) := by
  unfold Binding.invoke
  refine hQ.bind hQ.get fun s => ?_
  refine hQ.bind (hQ.require _) fun args => ?_
  refine hQ.bind (hbody _ args) fun returned => ?_
  refine hQ.bind (hQ.require _) fun encoded => ?_
  cases encoded with
  | nothing => exact hQ.pure _
  | word w => exact hQ.pure _
  | dropped k => exact hQ.bind (hQ.dropped _) fun _ => hQ.pure _

theorem Carried.dispatch (hQ : Carried Q) (hbody : ∀ c args, Q _ (x.body c args))
    (registry : σ → Registry β) (k : Nat) (block : Block) :
    Q _ (CallBridge.dispatch x registry k block) := by
  unfold CallBridge.dispatch
  refine hQ.bind hQ.get fun s => ?_
  cases (registry s).binding? k with
  | none => exact hQ.pure _
  | some b =>
    refine hQ.bind (hQ.invoked k) fun _ => ?_
    exact hQ.bind (hQ.invoke hbody b block) fun _ => hQ.pure _

theorem Carried.dispatchAddress (hQ : Carried Q) (hbody : ∀ c args, Q _ (x.body c args))
    (registry : σ → Registry β) (a : Word) (block : Block) :
    Q _ (CallBridge.dispatchAddress x registry a block) := by
  unfold CallBridge.dispatchAddress
  refine hQ.bind hQ.get fun s => ?_
  cases (registry s).slotAt? a with
  | none => exact hQ.pure _
  | some k => exact hQ.dispatch hbody registry k block

theorem keeps_carried (P : σ → Prop) : Carried fun _ => Keeps P where
  pure := keeps_pure
  get := keeps_get
  require := keeps_require
  invoked _ := keeps_emit _
  dropped _ := keeps_emit _
  bind := Keeps.bind

end Action

theorem keeps_dispatch (hbody : ∀ c args, Action.Keeps P (x.body c args))
    (registry : σ → Registry β) (k : Nat) (block : Block) :
    Action.Keeps P (dispatch x registry k block) :=
  (Action.keeps_carried P).dispatch hbody registry k block

theorem keeps_dispatchAddress (hbody : ∀ c args, Action.Keeps P (x.body c args))
    (registry : σ → Registry β) (a : Word) (block : Block) :
    Action.Keeps P (dispatchAddress x registry a block) :=
  (Action.keeps_carried P).dispatchAddress hbody registry a block

end Dispatch

end CallBridge
