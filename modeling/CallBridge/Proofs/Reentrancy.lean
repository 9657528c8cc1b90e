import CallBridge.Proofs.Invocations
import CallBridge.Proofs.SlotMap

/-!
Callbacks that use the backend they are bound in: their bodies register and release, and dispatch to
other callbacks or to themselves, and so on. What a dispatch runs is fixed when it begins, and all it
does to the backend is what bodies ask of it on the way.
-/

namespace CallBridge

namespace Action

variable {σ α γ : Type} {x y : Action σ α}

/-- Each run of the second action that does not end at the bound on nesting is one of the first. -/
def Extends (y x : Action σ α) : Prop := ∀ s, (x s).ended ≠ .error .exhausted → y s = x s

theorem Extends.refl (x : Action σ α) : Extends x x := fun _ _ => rfl

theorem Extends.bind {f g : α → Action σ γ} (h : Extends y x) (hf : ∀ a, Extends (g a) (f a)) :
    Extends (y >>= g) (x >>= f) := by
  intro s hs
  rcases hr : x s with ⟨e | a, s', l⟩
  · rw [bind_of_error hr] at hs ⊢
    have he : e ≠ .exhausted := fun he => hs (congrArg Except.error he)
    have hy : y s = x s := h s (by simpa [hr] using he)
    rw [bind_of_error (hy.trans hr)]
  · have hy : y s = x s := h s (by simp [hr])
    rw [bind_of_ok hr] at hs ⊢
    rw [bind_of_ok (hy.trans hr), hf a s' hs]

theorem Extends.attempt (h : Extends y x) : Extends (attempt y) (attempt x) := by
  intro s hs
  have hx : (x s).ended ≠ .error .exhausted := by
    intro he
    rcases hr : x s with ⟨ended, s', l⟩
    rw [hr] at he
    cases he
    rw [attempt_of_exhausted hr] at hs
    exact hs rfl
  simp only [Action.attempt, h s hx]

end Action

/-- The second execution with a higher bound on nesting. -/
structure Execution.Extends {β σ : Type} (y x : Execution β σ) : Prop where
  memory_eq : y.memory = x.memory
  body : ∀ c args, Action.Extends (y.body c args) (x.body c args)

section Extends

variable {β σ : Type} {x y : Execution β σ} {registry : σ → Registry β}

theorem Binding.invoke_extends (h : y.Extends x) (b : Binding β) (block : Block) :
    Action.Extends (b.invoke y block) (b.invoke x block) := by
  unfold invoke
  refine Action.Extends.bind (.refl _) fun s => ?_
  rw [h.memory_eq]
  refine Action.Extends.bind (.refl _) fun args => ?_
  exact Action.Extends.bind (h.body _ args) fun returned => .refl _

theorem dispatch_extends (h : y.Extends x) (k : Nat) (block : Block) :
    Action.Extends (dispatch y registry k block) (dispatch x registry k block) := by
  unfold dispatch
  refine Action.Extends.bind (.refl _) fun s => ?_
  cases (registry s).binding? k with
  | none => exact .refl _
  | some b =>
    refine Action.Extends.bind (.refl _) fun _ => ?_
    exact Action.Extends.bind (b.invoke_extends h block) fun _ => .refl _

theorem dispatchAddress_extends (h : y.Extends x) (a : Word) (block : Block) :
    Action.Extends (dispatchAddress y registry a block) (dispatchAddress x registry a block) := by
  unfold dispatchAddress
  refine Action.Extends.bind (.refl _) fun s => ?_
  cases (registry s).slotAt? a with
  | none => exact .refl _
  | some k => exact dispatch_extends h k block

end Extends

/-- A backend in use: what was asked of it in order, and whatever else callbacks keep. -/
structure Session (β ε : Type) where
  backend : Trampoline β
  asked : List (Trampoline.Operation β) := []
  client : ε

/-- What a body does. It goes on with the answers it gets, also with a panic of what it asked for or
dispatched, which it may pass on or not. -/
inductive Program (β ε : Type) where
  | returns (v : Option Value)
  | panics (p : Panic)
  | asks (o : Trampoline.Operation β)
      (next : Except Panic (Except RegistrationError (Option Word)) → Program β ε)
  | dispatches (slot : Nat) (block : Block)
      (next : Except Panic (Except RegistrationError (Option Word)) → Program β ε)
  | dispatchesAt (address : Word) (block : Block)
      (next : Except Panic (Except RegistrationError (Option Word)) → Program β ε)
  /-- Look at the backend and change what callbacks keep. -/
  | does (f : Trampoline β → ε → ε) (next : Trampoline β → ε → Program β ε)

namespace Session

variable {β ε : Type}

def registry (st : Session β ε) : Registry β := st.backend.registry

/-- An operation on the backend. -/
def ask (o : Trampoline.Operation β) :
    Action (Session β ε) (Except RegistrationError (Option Word)) :=
  Action.perform fun st =>
    (o.perform st.backend).within fun backend => { st with backend, asked := st.asked ++ [o] }

/-- The second session is the first after some operations, and nothing else was done to its
backend. -/
def Follows (st st' : Session β ε) : Prop :=
  ∃ done, st'.asked = st.asked ++ done ∧ st'.backend = (Trampoline.run done st.backend).2

variable {st st' : Session β ε}

theorem Follows.refl (st : Session β ε) : st.Follows st := ⟨[], by simp, rfl⟩

theorem Follows.ask (h : st.Follows st') (o : Trampoline.Operation β) :
    st.Follows (ask o st').state := by
  obtain ⟨done, hasked, hbackend⟩ := h
  refine ⟨done ++ [o], ?_, ?_⟩
  · show st'.asked ++ [o] = _
    rw [hasked, List.append_assoc]
  · rw [Trampoline.run_append, ← hbackend]
    rfl

/-- Where nothing was asked, nothing has changed. -/
theorem Follows.backend_eq (h : st.Follows st') (hasked : st'.asked = st.asked) :
    st'.backend = st.backend := by
  obtain ⟨done, hdone, hbackend⟩ := h
  rw [hasked, List.self_eq_append_right] at hdone
  rw [hbackend, hdone]
  rfl

end Session

namespace Program

variable {β ε : Type}

/-- Run a program, whose dispatches run bodies in turn. -/
def perform (x : Execution β (Session β ε)) : Program β ε → Action (Session β ε) (Option Value)
  | returns v => pure v
  | panics p => Action.panic p
  | asks o next => do
    let answer ← Action.attempt (Session.ask o)
    (next answer).perform x
  | dispatches slot block next => do
    let answer ← Action.attempt (dispatch x Session.registry slot block)
    (next answer).perform x
  | dispatchesAt address block next => do
    let answer ← Action.attempt (dispatchAddress x Session.registry address block)
    (next answer).perform x
  | does f next => do
    let st ← Action.get
    Action.modify fun st => { st with client := f st.backend st.client }
    (next st.backend st.client).perform x

variable {x y : Execution β (Session β ε)} {st₀ : Session β ε}
  {Q : ∀ α : Type, Action (Session β ε) α → Prop}

/-- Properties of actions that carry over from bodies to programs, and so to bodies that are
programs. -/
structure Carried (Q : ∀ α : Type, Action (Session β ε) α → Prop) : Prop
    extends Action.Carried Q where
  stop : ∀ {α : Type} (e : Stop), Q α (Action.stop e)
  ask : ∀ o, Q _ (Session.ask o)
  attempt : ∀ {α : Type} {y : Action (Session β ε) α}, Q _ y → Q _ (Action.attempt y)
  client : ∀ f : Trampoline β → ε → ε,
    Q Unit (Action.modify fun st => { st with client := f st.backend st.client })

theorem Carried.perform (hQ : Carried Q) (hbody : ∀ c args, Q _ (x.body c args))
    (p : Program β ε) : Q _ (p.perform x) := by
  induction p with
  | returns v => exact hQ.pure v
  | panics p => exact hQ.stop (.panic p)
  | asks o next ih => exact hQ.bind (hQ.attempt (hQ.ask o)) ih
  | dispatches k block next ih => exact hQ.bind (hQ.attempt (hQ.dispatch hbody _ k block)) ih
  | dispatchesAt a block next ih =>
    exact hQ.bind (hQ.attempt (hQ.dispatchAddress hbody _ a block)) ih
  | does f next ih =>
    refine hQ.bind hQ.get fun st => ?_
    exact hQ.bind (hQ.client f) fun _ => ih st.backend st.client

theorem follows_carried (st₀ : Session β ε) : Carried fun _ => Action.Keeps st₀.Follows where
  toCarried := Action.keeps_carried st₀.Follows
  stop e := Action.keeps_stop e
  ask o := fun _ h => h.ask o
  attempt := Action.Keeps.attempt
  client _ := fun _ h => h

theorem perform_extends (h : y.Extends x) (p : Program β ε) :
    Action.Extends (p.perform y) (p.perform x) := by
  induction p with
  | returns v => exact .refl _
  | panics p => exact .refl _
  | asks o next ih => exact Action.Extends.bind (.refl _) ih
  | dispatches k block next ih => exact Action.Extends.bind (dispatch_extends h k block).attempt ih
  | dispatchesAt a block next ih =>
    exact Action.Extends.bind (dispatchAddress_extends h a block).attempt ih
  | does f next ih =>
    refine Action.Extends.bind (.refl _) fun st => ?_
    exact Action.Extends.bind (.refl _) fun _ => ih st.backend st.client

end Program

section Nested

variable {β ε : Type}

/-- Bodies as programs, nested in each other up to a depth. -/
def nested (memory : Session β ε → Memory) (code : β → List Value → Program β ε) :
    Nat → Execution β (Session β ε)
  | 0 => { memory, body := fun _ _ => Action.stop .exhausted }
  | depth + 1 => { memory, body := fun c args => (code c args).perform (nested memory code depth) }

variable (memory : Session β ε → Memory) (code : β → List Value → Program β ε)

theorem nested_memory (depth : Nat) : (nested memory code depth).memory = memory := by
  cases depth <;> rfl

/-- What carries over to programs holds of bodies however deep they are nested. -/
theorem Program.Carried.nested {Q : ∀ α : Type, Action (Session β ε) α → Prop}
    (hQ : Program.Carried Q) (depth : Nat) (c : β) (args : List Value) :
    Q _ ((nested memory code depth).body c args) := by
  induction depth generalizing c args with
  | zero => exact hQ.stop .exhausted
  | succ depth ih => exact hQ.perform ih (code c args)

/-- However deep bodies are nested, all that becomes of the backend is what they ask of it. -/
theorem follows_nested (st₀ : Session β ε) (depth : Nat) (c : β) (args : List Value) :
    Action.Keeps st₀.Follows ((nested memory code depth).body c args) :=
  (Program.follows_carried st₀).nested memory code depth c args

/-- A run that does not end at the bound is the same under every higher one. -/
theorem nested_extends (depth more : Nat) :
    (nested memory code (depth + more)).Extends (nested memory code depth) := by
  induction depth with
  | zero =>
    -- At the bound nothing is run, so there is no run to extend.
    refine ⟨by rw [nested_memory, nested_memory], fun c args st hst => ?_⟩
    exact absurd rfl hst
  | succ depth ih =>
    refine ⟨by rw [nested_memory, nested_memory], fun c args => ?_⟩
    rw [Nat.add_right_comm]
    exact (code c args).perform_extends ih

/-- Whatever body a bound slot has, and whatever that asks of the backend or dispatches in turn, its
own slot included: the block is decoded, the body run and the result encoded by the binding that the
slot had when the dispatch began. Nothing is done to the backend but what the bodies asked of it, in
their order, whether they return or panic and whether the arguments and the result are in order;
registrations stay accounted for. By the address of the slot the same happens, and a higher bound
on nesting makes no difference to a run that keeps to this one. -/
theorem dispatch_isolated {table : EntryTable} {n : Nat} {t₀ : Trampoline β}
    (hcreate : Trampoline.create table n = .ok t₀) (ops : List (Trampoline.Operation β))
    {st : Session β ε} (hst : st.backend = (Trampoline.run ops t₀).2) {k : Nat} {b : Binding β}
    (hb : st.registry.binding? k = some b) (depth : Nat) (block : Block) :
    let r := dispatch (nested memory code (depth + 1)) Session.registry k block st
    (∀ v, b.decode (memory st) block = .error v →
      r.ended = .error (.panic (.violation v)) ∧ r.state = st) ∧
    (∀ args, b.decode (memory st) block = .ok args →
      let body := (code b.held.callback.body args).perform (nested memory code depth) st
      r.state = body.state ∧ (∀ e, body.ended = .error e → r.ended = .error e) ∧
      ∀ returned, body.ended = .ok returned →
        (∀ v, Binding.encode b.signature returned = .error v →
          r.ended = .error (.panic (.violation v))) ∧
        ∀ e, Binding.encode b.signature returned = .ok e → r.ended = .ok (.ok e.word?)) ∧
    st.Follows r.state ∧ (r.state.asked = st.asked → r.state.backend = st.backend) ∧
    r.state.backend.Guarded ∧ (Separates table.locate n → r.state.backend.Sound) ∧
    (∀ a, st.registry.slotAt? a = some k →
      dispatchAddress (nested memory code (depth + 1)) Session.registry a block st = r) ∧
    ∀ more, r.ended ≠ .error .exhausted →
      dispatch (nested memory code (depth + 1 + more)) Session.registry k block st = r := by
  intro r
  obtain ⟨-, rfl⟩ := Trampoline.create_eq_ok hcreate
  obtain ⟨s, hs, rfl⟩ := Option.map_eq_some_iff.1 hb
  have hr : r = s.binding.runAt (nested memory code (depth + 1)) k block st := dispatch_of_bound hs
  obtain ⟨hended, hstate⟩ := s.binding.runAt_spec (nested memory code (depth + 1)) k block st
  rw [← hr] at hended hstate
  have hfollows : st.Follows r.state :=
    keeps_dispatch (follows_nested memory code st (depth + 1)) _ k block st (.refl st)
  -- Operations of the bodies prolong the run that led to this state.
  obtain ⟨done, -, hbackend⟩ := id hfollows
  rw [hst, ← Trampoline.run_append] at hbackend
  have hsound := Trampoline.empty_sound (β := β) table n
  refine ⟨?_, ?_, hfollows, hfollows.backend_eq, ?_, ?_, ?_, ?_⟩
  · intro v hv
    rw [hended, hstate, Binding.invoke_of_violation hv]
    exact ⟨rfl, rfl⟩
  · intro args hargs body
    obtain ⟨hbody, herror, hok⟩ := Binding.invoke_spec (x := nested memory code (depth + 1)) hargs
    refine ⟨hstate.trans hbody, fun e he => ?_, fun returned hreturned => ⟨?_, ?_⟩⟩
    · rw [hended, herror e he]
      rfl
    · intro v hv
      rw [hended, (hok returned hreturned).1 v hv]
      rfl
    · intro e he
      rw [hended, (hok returned hreturned).2 e he]
      rfl
  · rw [hbackend]
    exact hsound.guarded.run _
  · intro hsep
    rw [hbackend]
    exact hsound.run hsep _
  · intro a ha
    exact dispatchAddress_of_bound ha
  · intro more hmore
    exact dispatch_extends (nested_extends memory code (depth + 1) more) k block st hmore

end Nested

/-- The only slot holds a callback that releases it, has it taken by another one, dispatches to that,
and returns its argument. The other callback has neither parameters nor a result; the argument is
read and returned as the first one declares it. -/
theorem dispatch_isolated_own_slot :
    let outer : Callback Bool := { params := [.scalar .i64], results := [.scalar .i64], body := true }
    let inner : Callback Bool := { params := [], results := [], body := false }
    let block : Block := { words := List.replicate 8 0 ++ [7] }
    let code (isOuter : Bool) (args : List Value) : Program Bool Unit :=
      if isOuter then
        .asks (.release 0) fun _ => .asks (.register inner) fun _ =>
          .dispatches 0 block fun _ => .returns args[0]?
      else .returns none
    let t₀ : Trampoline Bool := { registry := .empty 1, table := { base := 0x1000, stride := 5 } }
    let st : Session Bool Unit :=
      { backend := (Trampoline.run [.register outer] t₀).2, client := () }
    let r := dispatch (nested (fun _ => {}) code 2) Session.registry 0 block st
    Trampoline.create t₀.table 1 = .ok t₀ ∧
      (st.registry.binding? 0).map (·.held.callback) = some outer ∧
      r.ended = .ok (.ok (some 7)) ∧
      r.state.backend = (Trampoline.run [.release 0, .register inner] st.backend).2 ∧
      (r.state.registry.binding? 0).map (·.held.callback) = some inner ∧
      r.state.backend.Guarded := by
  intro outer inner block code t₀ st r
  let b : Binding Bool :=
    { held := { callback := outer }, signature := { params := [.i64], result := some .i64 } }
  have hcreate : Trampoline.create t₀.table 1 = .ok t₀ := rfl
  have hb : st.registry.binding? 0 = some b := by decide
  have hdecode : b.decode {} block = .ok [⟨.i64, 7⟩] := by rfl
  have hreturned : ((code true [⟨.i64, 7⟩]).perform (nested (fun _ => {}) code 1) st).ended =
      .ok (some ⟨.i64, 7⟩) := by rfl
  have hencode : Binding.encode b.signature (some ⟨.i64, 7⟩) = .ok (.word 7) := by rfl
  have hlog : r.state.asked = [.release 0, .register inner] := by rfl
  obtain ⟨-, hruns, ⟨done, hasked, hbackend⟩, -, hguarded, -⟩ :=
    dispatch_isolated (fun _ => {}) code hcreate [.register outer] rfl hb 1 block
  obtain ⟨-, -, hok⟩ := hruns _ hdecode
  have hdone : done = [.release 0, .register inner] := hasked.symm.trans hlog
  rw [hdone] at hbackend
  refine ⟨hcreate, by decide, (hok _ hreturned).2 _ hencode, hbackend, ?_, hguarded⟩
  have hinner : ((Trampoline.run [.release 0, .register inner] st.backend).2.registry.binding? 0).map
      (·.held.callback) = some inner := by decide
  rw [← hinner, ← hbackend]
  rfl

end CallBridge
