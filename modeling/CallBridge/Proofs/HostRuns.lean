import CallBridge.Proofs.TwoBackends

/-!
A host backend over a host that fails as it likes. A place is counted before the host has answered
and given back when it refuses; an address is forgotten after the host has released it, and the host
may give it out again. Whatever mix of these a run consists of, the count is that of the bindings at
the host, and every shared callback that has an address is bound there.
-/

namespace CallBridge

/-- The callback that a request is to register, as the host gets it. -/
def Request.held? {β : Type} : Request β → Option (HeldCallback β)
  | .register c => some { callback := c }
  | .registerShared s => some s.held
  | .unregister _ => none
  | .unregisterShared _ => none

/-- Only shared callbacks have an identity. -/
theorem Request.eq_registerShared {β : Type} {r : Request β} {held : HeldCallback β} {i : Identity}
    (h : r.held? = some held) (hi : held.identity = some i) :
    ∃ s : SharedCallback β, r = .registerShared s ∧ s.held = held ∧ s.identity = i := by
  cases r with
  | register c =>
    cases h
    contradiction
  | registerShared s =>
    cases h
    exact ⟨s, rfl, rfl, Option.some.inj hi⟩
  | unregister a => contradiction
  | unregisterShared j => contradiction

namespace HostBackend

variable {η β : Type} [Registrar η β] {bound : η → Bindings β} {b b' : HostBackend η}

/-- All that a request can do to a host backend and to what the host has bound. -/
inductive Change (bound : η → Bindings β) (b : HostBackend η) (r : Request β) :
    HostBackend η → Prop where
  | kept {host : η} (hhost : bound host = bound b.host) : Change bound b r { b with host }
  | binds {host : η} {issued : List (Identity × Word)} {a : Word} {held : HeldCallback β}
      {signature : Signature} (hasked : r.held? = some held)
      (hs : Signature.of held.callback = .ok signature) (hroom : b.live < b.capacity)
      (ha : a ∉ bound b.host) (hhost : bound host = (bound b.host).insert a { held, signature }) :
      Change bound b r { host, issued, live := b.live + 1 }
  | releases {host : η} {issued : List (Identity × Word)} {a : Word} (ha : a ∈ bound b.host)
      (hhost : bound host = (bound b.host).erase a) :
      Change bound b r { host, issued, live := b.live - 1 }

namespace InStep

variable {r : Request β}

theorem compile (hb : InStep bound b) (hl : Registrar.Lawful bound) {held : HeldCallback β}
    {identity : Option Identity} (hid : held.identity = identity) (hasked : r.held? = some held) :
    Change bound b r (b.compile held identity).state ∧
      InStep bound (b.compile held identity).state := by
  -- Where the host is not asked, the backend is as it was.
  have hsame : Change bound b r b ∧ InStep bound b := ⟨.kept rfl, hb⟩
  cases hknown : identity.bind b.addressOf? with
  | some a => rwa [compile_known hknown]
  | none =>
    cases hs : Signature.of held.callback with
    | error e => rwa [compile_rejected hknown hs]
    | ok signature =>
      by_cases hlive : b.live = BitVec.allOnes 64
      · have hbind := bind_stopped hs hlive
        rwa [compile_of_failed hknown (by simp [hbind]), hbind]
      by_cases hroom : b.live < b.capacity
      · rcases hhost : Registrar.register b.host { held, signature } with ⟨_ | a, host⟩
        · have hbind := bind_refused hs hlive hroom hhost
          have hkept := hl.register_error hhost
          rw [compile_of_failed hknown (by simp [hbind]), hbind]
          exact ⟨.kept hkept, hb.withHost hkept⟩
        · obtain ⟨ha, hinsert⟩ := hl.register_ok hhost
          obtain ⟨issued, hcompile, hstep⟩ :=
            compile_issued hb hl hknown hid hs hlive hroom hhost
          rw [hcompile]
          exact ⟨.binds hasked hs hroom ha hinsert, hstep⟩
      · have hbind := bind_full hs hlive hroom
        rwa [compile_of_failed hknown (by simp [hbind]), hbind]

theorem unregister (hb : InStep bound b) (hl : Registrar.Lawful bound) (a : Word) :
    Change bound b r (b.unregister a).state ∧ InStep bound (b.unregister a).state := by
  rcases hhost : Registrar.unregister b.host a with ⟨_ | _, host⟩
  · have hkept := hl.unregister_error hhost
    rw [unregister_refused hhost]
    exact ⟨.kept hkept, hb.withHost hkept⟩
  · obtain ⟨ha, herase⟩ := hl.unregister_ok hhost
    obtain ⟨issued, hunregister, hstep⟩ := unregister_released hb hl hhost
    rw [hunregister]
    exact ⟨.releases ha herase, hstep⟩

theorem unregisterShared (hb : InStep bound b) (hl : Registrar.Lawful bound) (i : Identity) :
    Change bound b r (b.unregisterShared i).state ∧
      InStep bound (b.unregisterShared i).state := by
  cases hi : b.addressOf? i with
  | none =>
    rw [unregisterShared_of_unknown hi]
    exact ⟨.kept rfl, hb⟩
  | some a =>
    rcases hhost : Registrar.unregister b.host a with ⟨_ | _, host⟩
    · have hkept := hl.unregister_error hhost
      rw [unregisterShared_refused hi hhost]
      exact ⟨.kept hkept, hb.withHost hkept⟩
    · obtain ⟨ha, herase⟩ := hl.unregister_ok hhost
      obtain ⟨issued, hunregister, hstep⟩ := unregisterShared_released hb hl hi hhost
      rw [hunregister]
      exact ⟨.releases ha herase, hstep⟩

/-- Whatever is asked and however the host answers, the books stay in step with it. -/
theorem step (hb : InStep bound b) (hl : Registrar.Lawful bound) (r : Request β) :
    Change bound b r (r.onHost b).state ∧ InStep bound (r.onHost b).state := by
  cases r with
  | register c =>
    have hid : ({ callback := c } : HeldCallback β).identity = none := rfl
    have hstep := hb.compile hl hid (rfl : (Request.register c).held? = _)
    rwa [← register_eq_compile] at hstep
  | registerShared s =>
    have hid : s.held.identity = some s.identity := rfl
    have hstep := hb.compile hl hid (rfl : (Request.registerShared s).held? = _)
    rwa [← registerShared_eq_compile] at hstep
  | unregister a => exact hb.unregister hl a
  | unregisterShared i => exact hb.unregisterShared hl i

end InStep

/-- The state after one request after the other. -/
def run : List (Request β) → HostBackend η → HostBackend η
  | [], b => b
  | r :: rs, b => run rs (r.onHost b).state

/-- What holds of a backend that was asked nothing but the given requests, over a host of the given
capacity. -/
structure Kept (n : Word) (bound : η → Bindings β) (asked : List (Request β))
    (b : HostBackend η) : Prop where
  inStep : InStep bound b
  live_le : b.live ≤ n
  bindings : ∀ {a binding}, (bound b.host).lookup a = some binding →
    Signature.of binding.held.callback = .ok binding.signature ∧
      ∃ r ∈ asked, r.held? = some binding.held

namespace Kept

variable {n : Word} {asked : List (Request β)} {r : Request β}

omit [Registrar η β] in
theorem empty {host : η} (hempty : bound host = ∅) : Kept n bound asked { host } where
  inStep := .empty hempty
  live_le := by simp [BitVec.le_def]
  bindings := by simp [hempty]

theorem change (hb : Kept n bound asked b) (hcapacity : b.capacity = n) (hr : r ∈ asked)
    (hc : Change bound b r b') (hstep : InStep bound b') : Kept n bound asked b' := by
  cases hc with
  | kept hhost =>
    refine ⟨hstep, hb.live_le, fun {a binding} hlookup => ?_⟩
    rw [hhost] at hlookup
    exact hb.bindings hlookup
  | @binds host issued a held signature hasked hs hroom ha hhost =>
    refine ⟨hstep, ?_, fun {a' binding} hlookup => ?_⟩
    · -- The place was below the capacity when it was reserved.
      rw [hcapacity, BitVec.lt_def] at hroom
      have hn := n.isLt
      rw [BitVec.le_def, BitVec.toNat_add_of_lt]
      · exact hroom
      · exact lt_of_le_of_lt hroom hn
    · by_cases haa : a' = a
      · rw [haa, hhost, Finmap.lookup_insert] at hlookup
        cases hlookup
        exact ⟨hs, r, hr, hasked⟩
      · rw [hhost, Finmap.lookup_insert_of_ne _ haa] at hlookup
        exact hb.bindings hlookup
  | @releases host issued a ha hhost =>
    refine ⟨hstep, ?_, fun {a' binding} hlookup => ?_⟩
    · have hlive := hb.inStep.live_eq
      have hcard := Bindings.card_erase ha
      have hle := hb.live_le
      rw [BitVec.le_def] at hle ⊢
      rw [hstep.live_eq, hhost]
      omega
    · have hne : a' ≠ a := by
        rintro rfl
        rw [hhost, Finmap.lookup_erase] at hlookup
        contradiction
      rw [hhost, Finmap.lookup_erase_ne hne] at hlookup
      exact hb.bindings hlookup

theorem run (hl : Registrar.Lawful bound) (hcapacity : ∀ host : η, Registrar.capacity host = n)
    {rs : List (Request β)} (hrs : rs ⊆ asked) (hb : Kept n bound asked b) :
    Kept n bound asked (run rs b) := by
  induction rs generalizing b with
  | nil => exact hb
  | cons r rs ih =>
    obtain ⟨hr, hrest⟩ := List.cons_subset.1 hrs
    obtain ⟨hchange, hstep⟩ := hb.inStep.step hl r
    exact ih hrest (hb.change (hcapacity b.host) hr hchange hstep)

end Kept

/-- Registering counts nothing unless there is an address. -/
theorem bind_live_of_error {held : HeldCallback β} {e : RegistrationError}
    (h : (b.bind held).answer = .error e) : (b.bind held).state.live = b.live := by
  rcases b.bind_cases held with ⟨e', l, host, hbind⟩ | hbind | ⟨a, host, hbind⟩
  · rw [hbind, Reply.refuse_state]
  · rw [hbind, Reply.stop_state]
  · rw [hbind] at h
    contradiction

/-- Whatever the host releases was counted. -/
theorem InStep.release_live (hb : InStep bound b) (hl : Registrar.Lawful bound) {a : Word}
    (h : (b.release a).answer = .ok ()) :
    (b.release a).state.live.toNat + 1 = b.live.toNat := by
  rcases hhost : Registrar.unregister b.host a with ⟨_ | _, host⟩
  · rw [release_refused hhost] at h
    contradiction
  · obtain ⟨ha, -⟩ := hl.unregister_ok hhost
    have hcard := Bindings.card_erase ha
    have hlive := hb.live_eq
    have hone : (1 : Word).toNat = 1 := rfl
    rw [release_bound hhost, Reply.ok_state, BitVec.toNat_sub, hone]
    omega

/-- After any run over a host of constant capacity that may refuse whatever it is asked, the count is
the number of addresses that the host has bound and is at most its capacity. It is given back after a
refusal, and whatever the host releases was counted. The books give each identity at most one
address and each address at most one identity, under which the host has bound the shared callback
that was registered with it; registering that again gives the same address and asks the host
nothing. -/
theorem run_accounts (hl : Registrar.Lawful bound) {n : Word}
    (hcapacity : ∀ host : η, Registrar.capacity host = n) {host : η} (hempty : bound host = ∅)
    (rs : List (Request β)) :
    let b := run rs { host }
    b.live.toNat = (bound b.host).keys.card ∧ b.live ≤ n ∧
    (∀ held e, (b.bind held).answer = .error e → (b.bind held).state.live = b.live) ∧
    (∀ a, (b.release a).answer = .ok () → (b.release a).state.live.toNat + 1 = b.live.toNat) ∧
    (∀ i a, (i, a) ∈ b.issued → ∃ s signature, .registerShared s ∈ rs ∧ s.identity = i ∧
      Signature.of s.callback = .ok signature ∧
      (bound b.host).lookup a = some { held := s.held, signature }) ∧
    (∀ i a j a', (i, a) ∈ b.issued → (j, a') ∈ b.issued → (i = j ↔ a = a')) ∧
    ∀ s a, (s.identity, a) ∈ b.issued →
      b.registerShared s = .ok a [.callbackDeduplicated a] b := by
  intro b
  have hb : Kept n bound rs b := Kept.run hl hcapacity (List.Subset.refl rs) (.empty hempty)
  have hmem : ∀ {i a}, (i, a) ∈ b.issued ↔ b.addressOf? i = some a :=
    fun {_ _} => hb.inStep.keyed.lookup_iff.symm
  refine ⟨hb.inStep.live_eq, hb.live_le, fun _ _ => bind_live_of_error,
    fun _ => hb.inStep.release_live hl, ?_, ?_, ?_⟩
  · intro i a hissued
    obtain ⟨binding, ha, hi⟩ := hb.inStep.addressOf_iff.1 (hmem.1 hissued)
    obtain ⟨hs, r, hr, hheld⟩ := hb.bindings ha
    obtain ⟨s, rfl, hsheld, hsi⟩ := Request.eq_registerShared hheld hi
    refine ⟨s, binding.signature, hr, hsi, ?_, ?_⟩
    · rw [← hs, ← hsheld]
      rfl
    · rw [ha, hsheld]
  · intro i a j a' ha ha'
    rw [hmem] at ha ha'
    constructor
    · rintro rfl
      exact Option.some.inj (ha.symm.trans ha')
    · rintro rfl
      obtain ⟨binding, hbinding, hi⟩ := hb.inStep.addressOf_iff.1 ha
      obtain ⟨binding', hbinding', hj⟩ := hb.inStep.addressOf_iff.1 ha'
      rw [hbinding] at hbinding'
      cases hbinding'
      exact Option.some.inj (hi.symm.trans hj)
  · intro s a hissued
    have hknown : (some s.identity).bind b.addressOf? = some a := hmem.1 hissued
    rw [registerShared_eq_compile, compile_known hknown]

end HostBackend

/-- A host that turns every other request away, whatever it is. -/
structure Reluctant (η : Type) where
  host : η
  willing : Bool := true

namespace Reluctant

variable {η β : Type} [Registrar η β]

/-- Hand a request on, or turn it away. -/
def ask {α : Type} (r : Reluctant η) (f : η → Except RegistrationError α × η) :
    Except RegistrationError α × Reluctant η :=
  if r.willing then ((f r.host).1, { host := (f r.host).2, willing := false })
  else (.error (.host "busy"), { r with willing := true })

instance : Registrar (Reluctant η) β where
  register r b := r.ask (Registrar.register · b)
  unregister r a := r.ask (Registrar.unregister · a)
  capacity r := Registrar.capacity r.host

theorem ask_eq_ok {α : Type} {r r' : Reluctant η} {f : η → Except RegistrationError α × η} {x : α}
    (h : r.ask f = (.ok x, r')) : f r.host = (.ok x, r'.host) := by
  unfold ask at h
  split_ifs at h with hwilling
  · obtain ⟨hanswer, rfl⟩ := Prod.mk.inj h
    exact Prod.ext hanswer rfl
  · cases h

theorem ask_eq_error {α : Type} {r r' : Reluctant η} {f : η → Except RegistrationError α × η}
    {e : RegistrationError} (h : r.ask f = (.error e, r')) :
    f r.host = (.error e, r'.host) ∨ r'.host = r.host := by
  unfold ask at h
  split_ifs at h with hwilling
  · obtain ⟨hanswer, rfl⟩ := Prod.mk.inj h
    exact .inl (Prod.ext hanswer rfl)
  · cases h
    exact .inr rfl

theorem lawful {bound : η → Bindings β} (hl : Registrar.Lawful bound) :
    Registrar.Lawful fun r : Reluctant η => bound r.host where
  register_ok h := hl.register_ok (ask_eq_ok h)
  register_error h := by
    rcases ask_eq_error h with h | h
    · exact hl.register_error h
    · rw [h]
  unregister_ok h := hl.unregister_ok (ask_eq_ok h)
  unregister_error h := by
    rcases ask_eq_error h with h | h
    · exact hl.unregister_error h
    · rw [h]

end Reluctant

/-- Two places at a host that turns every other request away. A shared callback gets the first place
and has it when it is registered again. Another callback is turned away once, then gets the second
place; the first is released at the second attempt and given out again, to the same callback. -/
theorem HostBackend.run_accounts_reluctant :
    let host : Reluctant TwoPlaces := { host := { bound := ∅, keys_subset := by simp } }
    let s : SharedCallback Unit := ⟨{ params := [], results := [], body := () }, .own 0⟩
    let c : Request Unit := .register { params := [.scalar .i32], results := [], body := () }
    let shared : Request Unit := .registerShared s
    let b := run [shared, shared, c, c, c, .unregister 7, .unregister 7, shared, shared] { host }
    b.live = 2 ∧ b.issued = [(.own 0, 7)] ∧ b.host.host.bound.keys.card = 2 ∧
      b.registerShared s = .ok 7 [.callbackDeduplicated 7] b := by
  intro host s c shared b
  have hempty : host.host.bound = ∅ := rfl
  have hcapacity : ∀ host : Reluctant TwoPlaces, Registrar.capacity host = 2 := fun _ => rfl
  obtain ⟨hlive, -, -, -, -, -, hknown⟩ := run_accounts (Reluctant.lawful TwoPlaces.obliging.toLawful)
    hcapacity hempty [shared, shared, c, c, c, .unregister 7, .unregister 7, shared, shared]
  have htwo : b.live = 2 := by decide +kernel
  have hissued : b.issued = [(.own 0, 7)] := by decide +kernel
  refine ⟨htwo, hissued, ?_, hknown s 7 ?_⟩
  · rw [← hlive]
    exact congrArg BitVec.toNat htwo
  · show (s.identity, (7 : Word)) ∈ b.issued
    rw [hissued]
    exact List.mem_singleton.2 rfl

end CallBridge
