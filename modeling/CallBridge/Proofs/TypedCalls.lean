import CallBridge.Proofs.EntryPoints
import CallBridge.Proofs.NativeCalls
import CallBridge.Proofs.PreparedWords

/-!
Typed calls of callbacks behind the library's own table. A call goes out through the gateway, enters
the table, finds its slot by the mark that the entry leaves, and comes back with the word that the
body's value became. Each layer has one equation, and the call is their composition.
-/

namespace CallBridge

theorem Kind.isFloat_of_isReturnable {k : Kind} (h : k.isReturnable = true) :
    k.isFloat = false := by
  cases k with
  | f32 | f64 => cases h
  | _ => rfl

namespace Process

variable {β η ε : Type} {p : Process β η ε}

section Dispatch

variable {x : Execution β (Process β η ε)} {t : Trampoline β} {k : Nat} {s : Slot β}

/-- Entering the library's own table runs what the slot is bound to. -/
theorem enterEntry_of_bound (hn : p.native = .ready t) (h : p.Holds t)
    (hs : t.registry.slot? k = some s) {e : EntryWords} {args : List Value}
    (hd : s.binding.decode (x.memory p) { words := e.block } = .ok args) (left : ResultWords) :
    let r := (x.body s.binding.held.callback.body args >>=
      Binding.finish s.binding.signature) p
    .event (.callbackInvoked k) :: r.records <+: (enterEntry x left s.address e p).records ∧
      ∀ o q l, r = ⟨.ok o, q, l⟩ → enterEntry x left s.address e p =
        ⟨.ok { left with r1 := o.getD 0 }, q, .event (.callbackInvoked k) :: l⟩ := by
  intro r
  have hinvoke : s.binding.invoke x { words := e.block } p = r := Binding.invoke_of_decode hd
  rw [enterEntry_of_slot hn h hs, ← hinvoke]
  refine ⟨(s.binding.runAt_records x k _ p).trans (leaveEntry_records _ _), fun o q l hr => ?_⟩
  rw [Binding.runAt_of_ok hr]
  rfl

end Dispatch

section Runs

variable [Registrar η β] {P : Process β η ε → Prop}

/-- A property that no step of a run ends. -/
def Lasting (P : Process β η ε → Prop) : Prop := ∀ ⦃p q⦄, P p → Step p q → P q

/-- Changes outside of the library are steps. -/
theorem Lasting.keeps_modify (hP : Lasting P) {f : Process β η ε → Process β η ε}
    (hf : ∀ p, Agrees p (f p)) : Action.Keeps P (Action.modify f) :=
  fun p hp => hP hp (.outside (hf p))

theorem Lasting.keeps_readSettings (hP : Lasting P) :
    Action.Keeps P (readSettings : Action (Process β η ε) Settings) :=
  fun _ hp => hP hp .readsSettings

theorem Lasting.keeps_enterFrame (hP : Lasting P) {enter : NativeCode (Process β η ε)}
    (henter : ∀ a w, Action.Keeps P (enter a w)) (f : Frame) (s : Settings) :
    Action.Keeps P (enterFrame enter f s) := by
  unfold enterFrame
  refine Action.Keeps.bind (henter _ _) fun r => Action.Keeps.bind Action.keeps_get fun p => ?_
  refine Action.Keeps.bind (hP.keeps_modify fun p => ⟨rfl, rfl, rfl, rfl⟩) fun _ => ?_
  exact Action.Keeps.bind (Action.keeps_emit _) fun _ => Action.keeps_pure _

/-- A call out of the library is a piece of a run, if the native function is one. -/
theorem Lasting.keeps_callFrame (hP : Lasting P) {enter : NativeCode (Process β η ε)}
    (henter : ∀ a w, Action.Keeps P (enter a w)) (f : Frame) :
    Action.Keeps P (callFrame enter f) := by
  rw [callFrame_eq]
  split_ifs
  · exact Action.keeps_pure _
  · refine Action.Keeps.bind hP.keeps_readSettings fun s => ?_
    refine Action.Keeps.bind (Action.keeps_emit _) fun _ => ?_
    exact Action.Keeps.bind (hP.keeps_modify (clearErrno_agrees s)) fun _ =>
      hP.keeps_enterFrame henter f s

theorem Lasting.keeps_call (hP : Lasting P) {enter : NativeCode (Process β η ε)}
    (henter : ∀ a w, Action.Keeps P (enter a w)) (c : TypedCall) (args : List Value) :
    Action.Keeps P (call enter c args) := by
  unfold call
  refine Action.Keeps.bind Action.keeps_get fun p => ?_
  cases c.prepare p.memory args with
  | error e => exact Action.keeps_pure _
  | ok prepared =>
    refine Action.Keeps.bind (hP.keeps_modify fun p => ⟨rfl, rfl, rfl, rfl⟩) fun _ => ?_
    have hframe := hP.keeps_callFrame henter { function := c.function, words := prepared.2 }
    refine Action.Keeps.bind (hframe.ensuring fun q hq => hP hq (.outside ⟨rfl, rfl, rfl, rfl⟩))
      fun called => ?_
    rcases called with ⟨e | ⟨⟩, f⟩
    · exact Action.keeps_pure _
    · exact Action.Keeps.bind Action.keeps_get fun q => Action.keeps_pure _

/-- Native code that enters the library's own table stays within a run, if all bodies do. -/
theorem Lasting.keeps_enterEntry (hP : Lasting P) {x : Execution β (Process β η ε)}
    (hbody : ∀ b args, Action.Keeps P (x.body b args)) (left : ResultWords) (a : Word)
    (e : EntryWords) : Action.Keeps P (enterEntry x left a e) := by
  have hopen : Action.Keeps P (nativeTrampoline : Action (Process β η ε) _) :=
    fun _ hp => hP hp .opensTable
  unfold enterEntry dispatchEntry
  refine Action.Keeps.bind Action.keeps_get fun p => ?_
  refine Action.Keeps.bind (Action.Keeps.bind ?_ fun outcome => ?_) fun _ => Action.keeps_pure _
  · exact (Action.Keeps.bind hopen fun t => keeps_dispatch hbody _ _ _).attempt
  · rcases outcome with e | e | w
    · exact Action.Keeps.bind (Action.keeps_emit _) fun _ => Action.keeps_stop _
    · exact Action.Keeps.bind (Action.keeps_emit _) fun _ => Action.keeps_stop _
    · exact Action.keeps_pure _

end Runs

/-- The process as the body of a callback finds it: string arguments have their copies in memory,
and the error number is cleared if the settings ask for it. -/
def entered (p : Process β η ε) (args : List Value) : Process β η ε :=
  clearErrno (p.settings.getD {})
    { p with memory := { p.memory with copies := p.memory.copies ++ args.flatMap Value.copies } }

/-- The process as the caller finds it, after the body left `q` behind. -/
def returned (p q : Process β η ε) : Process β η ε :=
  { q with
    memory := q.memory.release p.memory.copies.length
    stats := { q.stats with calls := q.stats.calls + 1 } }

/-- The error number that the call reports, after the body left `q` behind. -/
def reported (p q : Process β η ε) : Word :=
  if (p.settings.getD {}).captureErrno then q.errorWord else 0

@[simp] theorem entered_memory (p : Process β η ε) (args : List Value) :
    (p.entered args).memory =
      { p.memory with copies := p.memory.copies ++ args.flatMap Value.copies } := by
  unfold entered clearErrno
  split_ifs <;> rfl

theorem entered_agrees (p : Process β η ε) (args : List Value) : Agrees p (p.entered args) := by
  unfold entered clearErrno
  split_ifs <;> exact ⟨rfl, rfl, rfl, rfl⟩

section Exact

variable {p : Process β η ε} {t : Trampoline β} {k : Nat} {s : Slot β}
  {x : Execution β (Process β η ε)} {c : TypedCall} {args : List Value}

/-- A call of a slot in use runs the body on the arguments, and goes on with what it returns. -/
theorem call_of_bound (hn : p.native = .ready t) (h : p.Holds t) (hbase : p.nativeBase ≠ 0)
    (hs : t.registry.slot? k = some s) (hx : x.memory = Process.memory) {w : ArgumentWords}
    {around : Surroundings} (hprepare : c.prepare p.memory args = .ok ((p.entered args).memory, w))
    (hd : s.binding.decode (p.entered args).memory { words := (w.loaded around.stack).block } =
      .ok args) (hc : c.function = s.address) :
    let r := (x.body s.binding.held.callback.body args >>= Binding.finish s.binding.signature)
      (p.entered args)
    .event (.nativeCall c.function) :: .event (.callbackInvoked k) :: r.records <+:
        (call (enterTable x around) c args p).records ∧
      ∀ o q l, r = ⟨.ok o, q, l⟩ →
        (call (enterTable x around) c args p).ended =
          .ok (.ok (c.result.map fun k =>
            .ofWord (q.memory.release p.memory.copies.length) k
              (if k.isFloat then around.left.f0 else o.getD 0), p.reported q)) ∧
        (call (enterTable x around) c args p).state = p.returned q := by
  intro r
  obtain ⟨settings, hsettings⟩ := Option.isSome_iff_exists.1 h.settled
  have hentered : clearErrno settings { p with memory := (p.entered args).memory } =
      p.entered args := by
    rw [entered_memory, entered, hsettings]
    rfl
  have hagrees := p.entered_agrees args
  have hdecode : s.binding.decode (x.memory (p.entered args))
      { words := (w.loaded around.stack).block } = .ok args := by
    rw [hx]
    exact hd
  obtain ⟨hbody, hreturn⟩ :=
    enterEntry_of_bound (hagrees.native.trans hn) (h.agrees hagrees) hs hdecode around.left
  have hfunction : c.function ≠ 0 := by
    rw [hc]
    exact h.address_ne_zero hbase hs
  let p' : Process β η ε := { p with memory := (p.entered args).memory }
  have hread : readSettings p' = ⟨.ok settings, p', []⟩ := readSettings_of_some hsettings
  have hcall : call (enterTable x around) c args p = leaveCall c p.memory.copies.length
      (((leaveFrame { function := c.function, words := w } settings
        (enterEntry x around.left c.function (w.loaded around.stack) (p.entered args))).after
          [.event (.nativeCall c.function)]).map accepted) := by
    rw [call_of_prepared hprepare, callFrame_of_read hfunction hread, hentered]
    rfl
  rw [← hc] at hbody hreturn
  refine ⟨?_, fun o q l hr => ?_⟩
  · rw [hcall]
    exact (List.prefix_cons_inj _).2 (hbody.trans (leaveFrame_records _ _ _))
  · rw [hcall, hreturn o q l hr, leaveCall_of_returned]
    unfold reported
    rw [hsettings]
    exact ⟨rfl, rfl⟩

end Exact

/-- A typed call of a callback that is live behind the library's own table, in any state of any run.
The callback body gets exactly the arguments, in their order, whatever registers and stack words
they travel in and whatever lies behind these; a value of the declared kind that it returns is what
the caller gets, and without a declared result the caller gets none. No library's table lies at the
null address, and every byte of the string copies has an address. -/
theorem call_exact [Registrar η β] {p : Process β η ε} (hp : p.Reached) {a : Word} {c : Callback β}
    (hlive : p.LiveAt a c) (hbase : p.nativeBase ≠ 0) {params : List Kind} {result : Option Kind}
    (hparams : c.params = params.map .scalar) (hresults : c.results = result.toList.map .scalar)
    {args : List Value} (hkinds : args.map Value.kind = params) (hpass : ∀ v ∈ args, v.Passable)
    (hstack : stackWords params ≤ maxCallArgs - intRegisterCount)
    (hfits : Memory.Fits { p.memory with copies := p.memory.copies ++ args.flatMap Value.copies })
    (body : β → List Value → Action (Process β η ε) (Option Value)) (around : Surroundings) :
    let ran := body c.body args (p.entered args)
    let called := call (enterTable { memory := Process.memory, body } around)
      { function := a, params, result } args p
    (∃ k, .event (.nativeCall a) :: .event (.callbackInvoked k) :: ran.records <+:
      called.records) ∧
    (∀ v, result = some v.kind → ran.ended = .ok (some v) →
      called.ended = .ok (.ok (some v, p.reported ran.state)) ∧
        called.state = p.returned ran.state) ∧
    (result = none → ∀ o, ran.ended = .ok o →
      called.ended = .ok (.ok (none, p.reported ran.state)) ∧
        called.state = p.returned ran.state) := by
  intro ran called
  obtain ⟨t, k, s, hn, ha, hs, rfl⟩ := hlive
  have h : p.Holds t := hp.sound t hn
  have haddress : s.address = a := by
    obtain ⟨s', hs', ha'⟩ := h.sound.indexed.slotAt_iff.1 ha
    rw [hs] at hs'
    cases hs'
    exact ha'
  obtain ⟨hsignature, hreturnable⟩ :=
    Signature.of_eq_ok hparams hresults (h.sound.validated k s hs)
  have hsparams : s.binding.signature.params = params := by rw [hsignature]
  have hsresult : s.binding.signature.result = result := by rw [hsignature]
  let x : Execution β (Process β η ε) := { memory := Process.memory, body }
  let call : TypedCall := { function := a, params, result }
  obtain ⟨m', w, hprepare, hpasses⟩ :=
    TypedCall.prepare_passes (c := call) hkinds hpass hstack p.memory
  obtain rfl : m' = (p.entered args).memory := by rw [entered_memory, hpasses.copies]
  have hd := hpasses.decode hsparams (by rwa [entered_memory]) around.stack
  obtain ⟨hrecords, hreturn⟩ :=
    call_of_bound (x := x) hn h hbase hs rfl hprepare hd haddress.symm
  refine ⟨⟨k, ?_⟩, ?_, ?_⟩
  · refine List.IsPrefix.trans ?_ hrecords
    rw [List.prefix_cons_inj, List.prefix_cons_inj]
    exact Action.records_prefix_bind _ _ _
  · intro v hv hended
    have hreturns : v.kind.isReturnable = true := hreturnable v.kind hv
    obtain ⟨r, hr⟩ := Value.resultWord_isOk hreturns
    have hran : x.body s.binding.held.callback.body args (p.entered args) =
        ⟨.ok (some v), ran.state, ran.records⟩ := by rw [← hended]
    have hfinish := Binding.finish_of_value (hsresult.trans hv) hr ran.state
    obtain ⟨hanswer, hstate⟩ := hreturn (some r) ran.state (ran.records ++ [])
      (by rw [Action.bind_of_ok hran, hfinish])
    refine ⟨hanswer.trans ?_, hstate⟩
    rw [show call.result = some v.kind from hv, Option.map_some,
      Kind.isFloat_of_isReturnable hreturns]
    exact congrArg (fun u => Except.ok (Except.ok (some u, p.reported ran.state)))
      (Value.ofWord_resultWord hr _)
  · intro hnone o hended
    have hran : x.body s.binding.held.callback.body args (p.entered args) =
        ⟨.ok o, ran.state, ran.records⟩ := by rw [← hended]
    obtain ⟨l, hfinish⟩ := Binding.finish_of_none (hsresult.trans hnone) o ran.state
    obtain ⟨hanswer, hstate⟩ := hreturn none ran.state (ran.records ++ l)
      (by rw [Action.bind_of_ok hran, hfinish])
    refine ⟨hanswer.trans ?_, hstate⟩
    rw [show call.result = none from hnone, Option.map_none]

/-- A callback that answers only if it got what was passed: a negative byte, a float that is not a
number, and a string. -/
theorem call_exact_three_kinds :
    let fresh : Process Unit Empty Unit :=
      { files := .ofFiles "" [], nativeBase := 0x400000, client := () }
    let c : Callback Unit :=
      { params := [.scalar .i8, .scalar .f32, .scalar .cstring], results := [.scalar .i32]
        body := () }
    let p := (register c (install { capacity := 2 } fresh).state).state
    let args : List Value := [⟨.i8, -1⟩, ⟨.f32, 0x7FC00001⟩, ⟨.cstring, "two"⟩]
    let v : Value := ⟨.i32, -2⟩
    let body := fun (_ : Unit) (got : List Value) =>
      (pure (if got = args then some v else none) : Action (Process Unit Empty Unit) (Option Value))
    p.Reached ∧ p.LiveAt 0x400000 c ∧
      (call (enterTable { memory := Process.memory, body } { stack := fun n => n })
        { function := 0x400000, params := [.i8, .f32, .cstring], result := some .i32 }
        args p).ended = .ok (.ok (some v, 0)) := by
  intro fresh c p args v body
  have hsettled : (install { capacity := 2 } fresh).state.Reached :=
    (Reached.fresh ⟨rfl, rfl, rfl⟩).next (.installs _)
  have hp : p.Reached := hsettled.next (.registers c)
  have hlive : p.LiveAt 0x400000 c := register_liveAt hsettled.sound rfl rfl
  have hparams : c.params = [Kind.i8, .f32, .cstring].map TypeDesc.scalar := rfl
  have hresults : c.results = (some Kind.i32).toList.map TypeDesc.scalar := rfl
  have hpass : ∀ v ∈ args, v.Passable := by simp [args, Value.Passable, Value.text?]
  have hfits :
      Memory.Fits { p.memory with copies := p.memory.copies ++ args.flatMap Value.copies } := by
    unfold Memory.Fits
    decide
  have hcall := call_exact hp hlive (by decide) hparams hresults rfl hpass (by decide) hfits body
    { stack := fun n => n }
  obtain ⟨-, hvalue, -⟩ := hcall
  exact ⟨hp, hlive, (hvalue v rfl rfl).1⟩

end Process

end CallBridge
