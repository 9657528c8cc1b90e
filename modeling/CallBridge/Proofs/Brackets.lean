import CallBridge.Proofs.Failures
import CallBridge.Proofs.Reentrancy

/-!
Registrations that are released in reverse order. A release undoes what the registration did to the
slot, the free stack and both indexes, whether it names the address, the identity or the slot. What
happens in between leaves all of these alone, so that after the last release the table is the same
one as before the first registration.
-/

namespace CallBridge

namespace Registry

variable {β : Type} {r r' : Registry β} {entry : Nat → Except Overflow Word}

/-- Emptying a slot that an operation has filled undoes the operation. -/
theorem Change.unbind_filled (hr : Accounted r) (hi : Indexed entry r)
    (hsep : Separates entry r.capacity) {b : Bool} (hc : Change entry r b r') {k : Nat} {s : Slot β}
    (hfree : r.slot? k = none) (hs : r'.slot? k = some s) : r'.unbind k s = r := by
  cases hc with
  | unchanged => simp [hfree] at hs
  | loses => simp [hfree] at hs
  | @binds j free s' hstack hentry hnew =>
    obtain ⟨hpop, hj, -, hslot⟩ := hr.pop hstack
    have hlt : j < r.slots.length := hpop.slots_length ▸ hj
    rw [slot?_bind (hpop.slots_length ▸ hj)] at hs
    by_cases hk : k = j
    · subst hk
      rw [if_pos rfl] at hs
      cases hs
      have haddress : r.slotAt? s.address = none := by
        rw [Option.eq_none_iff_forall_ne_some]
        intro i hslotAt
        obtain ⟨t, ht, hta⟩ := hi.slotAt_iff.1 hslotAt
        exact hi.address_ne hr hsep hstack hentry i t ht hta
      exact unbind_bind hstack hlt hslot haddress fun i hid => hi.addressOf?_eq_none (hnew i hid)
    · simp [hk, hfree] at hs
  | unbinds => simp [slot?_unbind, hfree] at hs

end Registry

namespace Trampoline

variable {β : Type} {t t₀ : Trampoline β} {k : Nat} {s : Slot β}

/-- The operation releases slot `k`, which is in use as `s`: by its address, by its identity, or by
its number. -/
inductive Operation.Releases (k : Nat) (s : Slot β) : Operation β → Prop where
  | unregister : Releases k s (.unregister s.address)
  | unregisterShared {i : Identity} (hi : s.identity = some i) : Releases k s (.unregisterShared i)
  | release : Releases k s (.release k)

/-- The operation registers a callback under an identity that has an address already. -/
def Operation.Repeats (t : Trampoline β) (o : Operation β) : Prop :=
  ∃ held i a, o.request? = some (held, some i) ∧ t.registry.addressOf? i = some a

theorem Operation.perform_of_releases (h : t.Sound) (hs : t.registry.slot? k = some s)
    {o : Operation β} (ho : o.Releases k s) :
    o.perform t = .ok none [.callbackReleased k s.address]
      { t with registry := t.registry.unbind k s } := by
  cases ho with
  | unregister =>
    rw [perform, unregister_of_bound h hs]
    rfl
  | unregisterShared hi =>
    rw [perform, unregisterShared_of_bound h hs hi]
    rfl
  | release =>
    rw [perform, release_of_bound hs]
    rfl

theorem Operation.perform_of_repeats {o : Operation β} (ho : o.Repeats t) :
    (o.perform t).state = t := by
  obtain ⟨held, i, a, hrequest, ha⟩ := ho
  have hknown : (some i).bind t.registry.addressOf? = some a := ha
  rw [o.perform_of_request hrequest, compile_known hknown]
  rfl

theorem Operation.unbind_filled (h : t.Sound)
    (hsep : Separates t.table.locate t.registry.capacity) {o : Operation β}
    (hfree : t.registry.slot? k = none) (hs : (o.perform t).state.registry.slot? k = some s) :
    { (o.perform t).state with registry := (o.perform t).state.registry.unbind k s } = t := by
  have hback := (o.perform_change t).unbind_filled h.accounted h.indexed hsep hfree hs
  simp only [hback, o.perform_table t]

/-- Emptying the slots one after the other leads from the second trampoline back to the first. -/
inductive Opened (t₀ : Trampoline β) : List (Nat × Slot β) → Trampoline β → Prop where
  | nil : Opened t₀ [] t₀
  | cons {taken k s t} (hs : t.registry.slot? k = some s)
      (hrest : Opened t₀ taken { t with registry := t.registry.unbind k s }) :
      Opened t₀ ((k, s) :: taken) t

end Trampoline

section Programs

variable {β ε : Type}

/-- An answer as a program gets it, where an overflow is a panic. -/
def Verdict.attempted {ε α : Type} : Verdict ε α → Except Panic (Except ε α)
  | ok a => .ok (.ok a)
  | error e => .ok (.error e)
  | overflow o => .error (.overflow o)

/-- The session after an operation on its backend. -/
def Session.after (st : Session β ε) (o : Trampoline.Operation β) : Session β ε :=
  { st with backend := (o.perform st.backend).state, asked := st.asked ++ [o] }

theorem Session.attempt_ask (st : Session β ε) (o : Trampoline.Operation β) :
    Action.attempt (Session.ask o) st = ⟨.ok (o.perform st.backend).answer.attempted, st.after o,
      (o.perform st.backend).events.map .event⟩ := by
  unfold Session.ask
  cases hanswer : (o.perform st.backend).answer <;>
    simp only [Action.attempt, Action.perform, Reply.within, hanswer] <;> rfl

/-- A run of a program that gives back every slot it takes, the one taken last first. In between it
repeats registrations, fails, looks at the backend, and dispatches to callbacks that ask nothing of
it. The list of slots holds those that are taken and not given back so far, the last one first, and
the list of answers those to the releases. -/
inductive Bracketed (x : Execution β (Session β ε)) :
    List (Nat × Slot β) → Session β ε → Program β ε →
      List (Verdict RegistrationError (Option Word)) → Prop where
  | returns {st v} : Bracketed x [] st (.returns v) []
  | panics {st p} : Bracketed x [] st (.panics p) []
  | takes {taken st o next k s answers} (hfree : st.registry.slot? k = none)
      (hs : (st.after o).registry.slot? k = some s)
      (hnext : Bracketed x ((k, s) :: taken) (st.after o)
        (next (o.perform st.backend).answer.attempted) answers) :
      Bracketed x taken st (.asks o next) answers
  | gives {taken st o next k s answers} (ho : o.Releases k s)
      (hnext : Bracketed x taken (st.after o)
        (next (o.perform st.backend).answer.attempted) answers) :
      Bracketed x ((k, s) :: taken) st (.asks o next) ((o.perform st.backend).answer :: answers)
  | repeats {taken st o next answers} (ho : o.Repeats st.backend)
      (hnext : Bracketed x taken (st.after o)
        (next (o.perform st.backend).answer.attempted) answers) :
      Bracketed x taken st (.asks o next) answers
  | fails {taken st o next e answers} (he : (o.perform st.backend).answer = .error e)
      (hnext : Bracketed x taken (st.after o) (next (.ok (.error e))) answers) :
      Bracketed x taken st (.asks o next) answers
  | looks {taken st f next answers}
      (hnext : Bracketed x taken { st with client := f st.backend st.client }
        (next st.backend st.client) answers) :
      Bracketed x taken st (.does f next) answers
  | dispatches {taken st k block next answer st' l answers}
      (hrun : Action.attempt (dispatch x Session.registry k block) st = ⟨.ok answer, st', l⟩)
      (hasked : st'.asked = st.asked) (hnext : Bracketed x taken st' (next answer) answers) :
      Bracketed x taken st (.dispatches k block next) answers
  | dispatchesAt {taken st a block next answer st' l answers}
      (hrun : Action.attempt (dispatchAddress x Session.registry a block) st =
        ⟨.ok answer, st', l⟩)
      (hasked : st'.asked = st.asked) (hnext : Bracketed x taken st' (next answer) answers) :
      Bracketed x taken st (.dispatchesAt a block next) answers

namespace Bracketed

variable {x : Execution β (Session β ε)} {taken : List (Nat × Slot β)} {st : Session β ε}
  {p : Program β ε} {answers : List (Verdict RegistrationError (Option Word))}

/-- An action that asks nothing of the backend leaves it alone, also if it panics. -/
theorem backend_of_quiet {α : Type} {y : Action (Session β ε) α} {st st' : Session β ε}
    (hy : Action.Keeps st.Follows y) {answer : Except Panic α} {l : List Record}
    (hrun : Action.attempt y st = ⟨.ok answer, st', l⟩) (hasked : st'.asked = st.asked) :
    st'.backend = st.backend := by
  have hfollows := hy.attempt st (.refl st)
  rw [hrun] at hfollows
  exact hfollows.backend_eq hasked

/-- What is left to be undone is undone, and every release succeeds. -/
theorem restores (hx : ∀ (st : Session β ε) c args, Action.Keeps st.Follows (x.body c args))
    (h : Bracketed x taken st p answers) {t₀ : Trampoline β} (hst : st.backend.Orderly)
    (hopened : Trampoline.Opened t₀ taken st.backend) :
    (p.perform x st).state.backend = t₀ ∧ ∀ answer ∈ answers, answer = .ok none := by
  induction h with
  | returns =>
    cases hopened
    exact ⟨rfl, by simp⟩
  | panics =>
    cases hopened
    exact ⟨rfl, by simp⟩
  | @takes taken st o next k s answers hfree hs _ ih =>
    rw [Program.perform, Action.bind_of_ok (st.attempt_ask o)]
    apply ih (hst.perform o)
    apply Trampoline.Opened.cons hs
    have hback := Trampoline.Operation.unbind_filled hst.sound hst.serves.separates hfree hs
    exact hback.symm ▸ hopened
  | @gives taken st o next k s answers ho _ ih =>
    cases hopened with
    | cons hs hrest =>
      have hperform := Trampoline.Operation.perform_of_releases hst.sound hs ho
      have hstate : (st.after o).backend = _ := congrArg Reply.state hperform
      rw [Program.perform, Action.bind_of_ok (st.attempt_ask o)]
      obtain ⟨hend, hall⟩ := ih (hst.perform o) (hstate ▸ hrest)
      refine ⟨hend, List.forall_mem_cons.2 ⟨?_, hall⟩⟩
      rw [hperform, Reply.ok_answer]
  | @repeats taken st o next answers ho _ ih =>
    have hstate : (st.after o).backend = st.backend :=
      Trampoline.Operation.perform_of_repeats ho
    rw [Program.perform, Action.bind_of_ok (st.attempt_ask o)]
    exact ih (hst.perform o) (hstate ▸ hopened)
  | @fails taken st o next e answers he _ ih =>
    have hstate : (st.after o).backend = st.backend := o.perform_undone st.backend e he
    have hrun := st.attempt_ask o
    rw [he] at hrun
    rw [Program.perform, Action.bind_of_ok hrun]
    exact ih (hst.perform o) (hstate ▸ hopened)
  | looks _ ih => exact ih hst hopened
  | dispatches hrun hasked _ ih =>
    have hbackend := backend_of_quiet (keeps_dispatch (hx _) _ _ _) hrun hasked
    rw [Program.perform, Action.bind_of_ok hrun]
    exact ih (hbackend ▸ hst) (hbackend ▸ hopened)
  | dispatchesAt hrun hasked _ ih =>
    have hbackend := backend_of_quiet (keeps_dispatchAddress (hx _) _ _ _) hrun hasked
    rw [Program.perform, Action.bind_of_ok hrun]
    exact ih (hbackend ▸ hst) (hbackend ▸ hopened)

end Bracketed

/-- In whatever state operations have brought a trampoline over a table that serves every slot, a
program that gives back each slot it takes, the last one first, by address, by identity or by
number, has all its releases succeed and leaves the trampoline as it found it: slots, free stack and
both indexes, entry by entry and in the same order. It may repeat registrations in between, fail,
look at the backend, and dispatch to callbacks that ask nothing of it and may panic. -/
theorem bracketed_restores {table : EntryTable} {n : Nat} {t₀ : Trampoline β}
    (hcreate : Trampoline.create table n = .ok t₀) (hserves : table.Serves n)
    (ops : List (Trampoline.Operation β)) {st : Session β ε}
    (hst : st.backend = (Trampoline.run ops t₀).2) (memory : Session β ε → Memory)
    (code : β → List Value → Program β ε) (depth : Nat) {p : Program β ε}
    {answers : List (Verdict RegistrationError (Option Word))}
    (hp : Bracketed (nested memory code depth) [] st p answers) :
    (∀ answer ∈ answers, answer = .ok none) ∧
      (p.perform (nested memory code depth) st).state.backend = st.backend := by
  obtain ⟨-, rfl⟩ := Trampoline.create_eq_ok hcreate
  have horderly : st.backend.Orderly := hst ▸ (Trampoline.empty_orderly hserves).run ops
  have hbodies : ∀ (st : Session β ε) c args,
      Action.Keeps st.Follows ((nested memory code depth).body c args) :=
    fun st => follows_nested memory code st depth
  obtain ⟨hend, hall⟩ := hp.restores hbodies horderly .nil
  exact ⟨hall, hend⟩

end Programs

/-- The middle one of three slots is in use. A program takes the other two, dispatches to the one in
use, repeats a registration and is refused another one, gives the second slot back by its number,
takes it again, and gives both back by address and by identity. -/
theorem bracketed_restores_three_ways :
    let c : Callback Unit := { params := [], results := [], body := () }
    let shared : SharedCallback Unit := ⟨c, .own 0⟩
    let table : EntryTable := { base := 0x1000, stride := 5 }
    let t₀ : Trampoline Unit := { registry := .empty 3, table }
    let ops : List (Trampoline.Operation Unit) := [.register c, .register c, .release 0]
    let st : Session Unit Unit := { backend := (Trampoline.run ops t₀).2, client := () }
    let memory (_ : Session Unit Unit) : Memory := {}
    let code (_ : Unit) (_ : List Value) : Program Unit Unit := .returns none
    let p : Program Unit Unit :=
      .asks (.registerShared shared) fun _ => .dispatches 1 { words := [] } fun _ =>
        .asks (.register c) fun _ => .asks (.registerShared shared) fun _ =>
          .asks (.register c) fun _ => .asks (.release 2) fun _ =>
            .asks (.register c) fun _ => .asks (.unregister 0x100a) fun _ =>
              .asks (.unregisterShared (.own 0)) fun _ => .returns none
    Trampoline.create table 3 = .ok t₀ ∧ table.Serves 3 ∧
      ∃ answers, Bracketed (nested memory code 1) [] st p answers ∧ answers.length = 3 ∧
        (∀ answer ∈ answers, answer = .ok none) ∧
        (p.perform (nested memory code 1) st).state.backend = st.backend := by
  intro c shared table t₀ ops st memory code p
  have hcreate : Trampoline.create table 3 = .ok t₀ := rfl
  have hserves : table.Serves 3 := ⟨by decide, by decide⟩
  let slot (a : Word) (identity : Option Identity) : Slot Unit :=
    ⟨⟨{ callback := c, identity }, { params := [], result := none }⟩, a, identity⟩
  let st₁ := st.after (.registerShared shared)
  let run := dispatch (nested memory code 1) Session.registry 1 { words := [] }
  have hrun : Action.attempt run st₁ =
      ⟨.ok (.ok (.ok none)), st₁, [.event (.callbackInvoked 1)]⟩ := by
    have hs : st₁.registry.slot? 1 = some (slot 0x1005 none) := by decide
    apply Action.attempt_of_ok
    rw [show run st₁ = _ from dispatch_of_bound hs]
    apply Binding.runAt_of_ok
    rfl
  have hp : ∃ answers, Bracketed (nested memory code 1) [] st p answers ∧ answers.length = 3 := by
    apply Exists.intro
    constructor
    · apply Bracketed.takes (k := 0) (s := slot 0x1000 (some (.own 0))) (by decide) (by decide)
      apply Bracketed.dispatches hrun rfl
      apply Bracketed.takes (k := 2) (s := slot 0x100a none) (by decide) (by decide +kernel)
      apply Bracketed.repeats ⟨_, _, 0x1000, rfl, by decide +kernel⟩
      apply Bracketed.fails (e := .capacityExceeded 3) (by decide +kernel)
      apply Bracketed.gives .release
      apply Bracketed.takes (k := 2) (s := slot 0x100a none) (by decide +kernel) (by decide +kernel)
      apply Bracketed.gives .unregister
      apply Bracketed.gives (.unregisterShared rfl)
      apply Bracketed.returns
    · rfl
  obtain ⟨answers, hbracketed, hlength⟩ := hp
  obtain ⟨hall, hend⟩ := bracketed_restores hcreate hserves ops rfl memory code 1 hbracketed
  exact ⟨hcreate, hserves, answers, hbracketed, hlength, hall, hend⟩

end CallBridge
