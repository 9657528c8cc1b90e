import CallBridge.Proofs.HostRuns
import CallBridge.Proofs.SlotMap

/-!
Operations that fail. An error can arise late: after the address of a slot was found, after the free
stack was looked at, after a place was counted at a host. Nothing of that is left behind. A table is
then as it was to the last entry of its indexes; at a host backend the count and the addresses of
shared callbacks are, whatever the host has done to itself.
-/

namespace CallBridge

namespace Reply

variable {ε σ τ α γ : Type} {s : σ} {r : Reply ε σ α}

/-- If the operation failed, the state is what it was before. -/
def Undone (s : σ) (r : Reply ε σ α) : Prop := ∀ e, r.answer = .error e → r.state = s

theorem undone_refuse {e : ε} {l : List Event} : (refuse e l s : Reply ε σ α).Undone s :=
  fun _ _ => rfl

theorem undone_ok {a : α} {l : List Event} {s' : σ} : (ok a l s' : Reply ε σ α).Undone s := by
  intro e h
  contradiction

theorem undone_stop {o : Overflow} {l : List Event} {s' : σ} :
    (stop o l s' : Reply ε σ α).Undone s := by
  intro e h
  contradiction

theorem Undone.map (h : r.Undone s) (f : α → γ) : (r.map f).Undone s := by
  intro e he
  cases hr : r.answer with
  | error e' => exact h e' hr
  | ok a => simp [Reply.map, hr, Verdict.map] at he
  | overflow o => simp [Reply.map, hr, Verdict.map] at he

theorem Undone.within (h : r.Undone s) (put : σ → τ) : (r.within put).Undone (put s) :=
  fun e he => congrArg put (h e he)

end Reply

namespace Registry

variable {β : Type}

theorem allocate_undone (r : Registry β) (b : Binding β) (identity : Option Identity)
    (entry : Nat → Except Overflow Word) : (r.allocate b identity entry).Undone r := by
  cases hf : identity.bind r.registered? with
  | some f =>
    rw [allocate_known hf]
    exact Reply.undone_ok
  | none =>
    cases hfree : r.free with
    | nil =>
      rw [allocate_full hf hfree]
      exact Reply.undone_refuse
    | cons k free =>
      cases he : entry k with
      | error o =>
        rw [allocate_lost hf hfree he]
        exact Reply.undone_stop
      | ok a =>
        rw [allocate_bound hf hfree he]
        exact Reply.undone_ok

theorem release_undone (r : Registry β) (k : Nat) : (r.release k).Undone r := by
  rcases r.release_cases k with ⟨e, h⟩ | ⟨s, -, h⟩
  · rw [h]
    exact Reply.undone_refuse
  · rw [h]
    exact Reply.undone_ok

theorem releaseAddress_undone (r : Registry β) (a : Word) : (r.releaseAddress a).Undone r := by
  rcases r.releaseAddress_cases a with ⟨e, h⟩ | ⟨k, s, -, -, h⟩
  · rw [h]
    exact Reply.undone_refuse
  · rw [h]
    exact Reply.undone_ok

theorem releaseIdentity_undone (r : Registry β) (i : Identity) :
    (r.releaseIdentity i).Undone r := by
  rcases r.releaseIdentity_cases i with ⟨e, h⟩ | ⟨k, s, -, h⟩
  · rw [h]
    exact Reply.undone_refuse
  · rw [h]
    exact Reply.undone_ok

end Registry

namespace Trampoline

variable {β : Type} {t : Trampoline β} {held : HeldCallback β} {identity : Option Identity}

theorem compile_undone (t : Trampoline β) (held : HeldCallback β) (identity : Option Identity) :
    (t.compile held identity).Undone t := by
  rcases t.compile_cases held identity with
    ⟨h, -⟩ | ⟨k, free, o, -, h⟩ | ⟨k, free, signature, a, -, -, h⟩
  · exact fun _ _ => h
  · rw [h]
    exact Reply.undone_stop
  · rw [h]
    exact Reply.undone_ok

/-- A callback that validation rejects takes no slot, under whatever identity it comes. -/
theorem compile_of_rejected {e : RegistrationError} (hs : Signature.of held.callback = .error e) :
    (t.compile held identity).state = t := by
  rcases t.compile_cases held identity with
    ⟨h, -⟩ | ⟨k, free, o, -, h⟩ | ⟨k, free, signature, a, -, hok, -⟩
  · exact h
  · cases hknown : identity.bind t.registry.addressOf? with
    | some a => rw [compile_known hknown, Reply.ok_state]
    | none => rw [compile_rejected hknown hs, Reply.refuse_state]
  · rw [hs] at hok
    contradiction

theorem Operation.perform_undone (o : Operation β) (t : Trampoline β) : (o.perform t).Undone t := by
  cases o with
  | register c => exact (t.compile_undone _ _).map some
  | registerShared s => exact (t.compile_undone _ _).map some
  | compile held identity => exact (t.compile_undone held identity).map some
  | unregister a => exact (((t.registry.releaseAddress_undone a).within _).map _).map _
  | unregisterShared i => exact (((t.registry.releaseIdentity_undone i).within _).map _).map _
  | release k => exact ((t.registry.release_undone k).within _).map _

end Trampoline

theorem Registry.Operation.perform_undone {β : Type} (o : Registry.Operation β) (r : Registry β) :
    (o.perform r).Undone r := by
  cases o with
  | compile table held identity =>
    exact ((Trampoline.compile_undone ⟨r, table⟩ held identity).within Trampoline.registry).map _
  | allocate b identity entry => exact (r.allocate_undone b identity entry).map _
  | release k => exact r.release_undone k
  | releaseAddress a => exact (r.releaseAddress_undone a).map _
  | releaseIdentity i => exact (r.releaseIdentity_undone i).map _

section Host

variable {η β α γ : Type} {b : HostBackend η} {w : Word}

/-- What a request comes to that is worth `w` to the count, over any host: a refusal that keeps the
books, a stop at a count that is no word, or a success. -/
inductive HostBackend.Outcome (b : HostBackend η) (w : Word) :
    Reply RegistrationError (HostBackend η) α → Prop where
  | refused {e l host} : Outcome b w (.refuse e l { b with host })
  | stopped {o l} : Outcome b w (.stop o l b)
  | done {a l host issued} : Outcome b w (.ok a l { host, issued, live := b.live + w })

variable [Registrar η β]

/-- What a request is worth if it succeeds: one for a callback that has no address yet, and one less
for a release. -/
def Request.worth (b : HostBackend η) : Request β → Word
  | .register _ => 1
  | .registerShared s => if (b.addressOf? s.identity).isSome then 0 else 1
  | .unregister _ => -1
  | .unregisterShared _ => -1

namespace HostBackend

omit [Registrar η β] in
theorem Outcome.map {r : Reply RegistrationError (HostBackend η) α} (h : b.Outcome w r)
    (f : α → γ) : b.Outcome w (r.map f) := by
  cases h with
  | refused => exact .refused
  | stopped => exact .stopped
  | done => exact .done

theorem compile_outcome (b : HostBackend η) (held : HeldCallback β) (identity : Option Identity) :
    b.Outcome (if (identity.bind b.addressOf?).isSome then 0 else 1)
      (b.compile held identity) := by
  cases hknown : identity.bind b.addressOf? with
  | some a =>
    rw [compile_known hknown, Option.isSome_some, if_pos rfl]
    have hdone : b.Outcome 0 (.ok a [.callbackDeduplicated a] { b with live := b.live + 0 }) := .done
    simpa using hdone
  | none =>
    rw [Option.isSome_none, if_neg Bool.false_ne_true]
    rcases b.bind_cases held with ⟨e, l, host, hbind⟩ | hbind | ⟨a, host, hbind⟩
    · rw [compile_of_failed hknown (by simp [hbind]), hbind]
      exact .refused
    · rw [compile_of_failed hknown (by simp [hbind]), hbind]
      exact .stopped
    · unfold compile
      rw [hknown, hbind]
      cases identity <;> exact .done

theorem unregister_outcome (b : HostBackend η) (a : Word) : b.Outcome (-1) (b.unregister a) := by
  unfold unregister
  rcases b.release_cases a with ⟨e, host, h⟩ | ⟨host, h⟩
  · rw [h]
    exact .refused
  · rw [h, BitVec.sub_eq_add_neg]
    exact .done

theorem unregisterShared_outcome (b : HostBackend η) (i : Identity) :
    b.Outcome (-1) (b.unregisterShared i) := by
  unfold unregisterShared
  cases b.issued.lookup i with
  | none => exact .refused
  | some a =>
    rcases b.release_cases a with ⟨e, host, h⟩ | ⟨host, h⟩
    · simp only [h]
      exact .refused
    · simp only [h, BitVec.sub_eq_add_neg]
      exact .done

end HostBackend

theorem Request.onHost_outcome (r : Request β) (b : HostBackend η) :
    b.Outcome (r.worth b) (r.onHost b) := by
  cases r with
  | register c =>
    have h := b.compile_outcome { callback := c } none
    rw [← HostBackend.register_eq_compile] at h
    exact h.map some
  | registerShared s =>
    have h := b.compile_outcome s.held (some s.identity)
    rw [← HostBackend.registerShared_eq_compile] at h
    exact h.map some
  | unregister a => exact (b.unregister_outcome a).map _
  | unregisterShared i => exact (b.unregisterShared_outcome i).map _

/-- An operation that fails leaves a trampoline as it was: slots, free stack and both indexes, entry
by entry. So does every operation on its table, and a callback that is rejected takes no slot even
where it is answered by its identity. Over any host at all, a request that fails leaves the count and
the addresses of shared callbacks as they were; one that succeeds counts one more for a new
registration, nothing for one that is known, and one less, modulo the number of words, for a
release. -/
theorem failures_change_nothing (t : Trampoline β) (b : HostBackend η) :
    (∀ (o : Trampoline.Operation β) e, (o.perform t).answer = .error e →
      (o.perform t).state = t) ∧
    (∀ (o : Registry.Operation β) e, (o.perform t.registry).answer = .error e →
      (o.perform t.registry).state = t.registry) ∧
    (∀ (o : Trampoline.Operation β) held identity e, o.request? = some (held, identity) →
      Signature.of held.callback = .error e → (o.perform t).state = t) ∧
    ∀ r : Request β,
      (∀ e, (r.onHost b).answer = .error e →
        (r.onHost b).state.live = b.live ∧ (r.onHost b).state.issued = b.issued) ∧
      ∀ a, (r.onHost b).answer = .ok a → (r.onHost b).state.live = b.live + r.worth b := by
  refine ⟨fun o => o.perform_undone t, fun o => o.perform_undone t.registry, ?_, ?_⟩
  · intro o held identity e ho hs
    rw [o.perform_of_request ho]
    exact Trampoline.compile_of_rejected hs
  · intro r
    have houtcome := r.onHost_outcome b
    generalize r.onHost b = reply at houtcome ⊢
    cases houtcome with
    | refused => exact ⟨fun _ _ => ⟨rfl, rfl⟩, fun _ h => by contradiction⟩
    | stopped => exact ⟨fun _ h => by contradiction, fun _ h => by contradiction⟩
    | done => exact ⟨fun _ h => by contradiction, fun _ _ => rfl⟩

end Host

/-- A host that issues one address over and over and releases whatever it is asked to. -/
structure Careless where
deriving DecidableEq

instance : Registrar Careless Unit where
  register h _ := (.ok 7, h)
  unregister h _ := (.ok (), h)
  capacity _ := 2

/-- A careless host that turns every other request away: a release of what was never registered
brings the count below zero, and the refusal that follows leaves it there. A table with its only
slot taken refuses a second callback after it has looked for a slot. -/
theorem failures_change_nothing_careless :
    let c : Callback Unit := { params := [], results := [], body := () }
    let t : Trampoline Unit :=
      (Trampoline.run [.registerShared ⟨c, .own 0⟩]
        { registry := .empty 1, table := { base := 0x1000, stride := 5 } }).2
    let b₀ : HostBackend (Reluctant Careless) := { host := { host := {} } }
    let release : Request Unit := .unregister 9
    let b := (release.onHost b₀).state
    let add : Trampoline.Operation Unit := .register c
    (release.onHost b₀).answer = .ok none ∧ b.live = BitVec.allOnes 64 ∧
      (release.onHost b).answer = .error (.host "busy") ∧ (release.onHost b).state.live = b.live ∧
      (add.perform t).answer = .error (.capacityExceeded 1) ∧ (add.perform t).state = t := by
  intro c t b₀ release b add
  obtain ⟨-, -, -, hb₀⟩ := failures_change_nothing t b₀
  obtain ⟨ht, -, -, hb⟩ := failures_change_nothing t b
  have hreleased : (release.onHost b₀).answer = .ok none := rfl
  have hbusy : (release.onHost b).answer = .error (.host "busy") := rfl
  have hfull : (add.perform t).answer = .error (.capacityExceeded 1) := by decide
  have hlive : b.live = b₀.live + release.worth b₀ := (hb₀ release).2 none hreleased
  have hbelow : b₀.live + release.worth b₀ = BitVec.allOnes 64 := by decide
  have hkept : (release.onHost b).state.live = b.live := ((hb release).1 _ hbusy).1
  exact ⟨hreleased, hlive.trans hbelow, hbusy, hkept, hfull, ht add _ hfull⟩

end CallBridge
