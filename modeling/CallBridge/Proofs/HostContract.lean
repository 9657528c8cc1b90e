import CallBridge.HostBackend
import Mathlib.Data.Finmap
import Mathlib.Tactic.ByContra

/-!
What a host has to keep to, and what the books of a host backend are then worth. The addresses that
a host has bound form a finite map; the number of live registrations is its size, and the addresses
of shared callbacks are those under which it holds a callback with an identity.
-/

namespace CallBridge

namespace Index

variable {κ ν : Type} {index : List (κ × ν)} {k : κ} {v : ν}

/-- No key occurs twice. -/
def Keyed (index : List (κ × ν)) : Prop := (index.map Prod.fst).Nodup

theorem Keyed.filter (h : Keyed index) (p : κ × ν → Bool) : Keyed (index.filter p) :=
  h.sublist (List.filter_sublist.map Prod.fst)

variable [DecidableEq κ]

theorem Keyed.put (h : Keyed index) (k : κ) (v : ν) : Keyed (put k v index) := by
  unfold Keyed Index.put
  rw [List.map_cons, List.nodup_cons]
  refine ⟨?_, h.filter _⟩
  intro hk
  obtain ⟨entry, hentry, rfl⟩ := List.mem_map.1 hk
  simp [Index.erase] at hentry

theorem Keyed.lookup_iff (h : Keyed index) : index.lookup k = some v ↔ (k, v) ∈ index := by
  induction index with
  | nil => simp
  | cons entry rest ih =>
    obtain ⟨j, w⟩ := entry
    obtain ⟨hj, hrest⟩ := List.nodup_cons.1 h
    rw [lookup_cons, List.mem_cons, Prod.mk.injEq]
    by_cases hk : k = j
    · subst hk
      have hnot : (k, v) ∉ rest := fun hm => hj (List.mem_map.2 ⟨_, hm, rfl⟩)
      simp [hnot, eq_comm]
    · rw [if_neg hk, ih hrest]
      simp [hk]

/-- Forgetting a value forgets the keys that have it. -/
theorem Keyed.lookup_filter [DecidableEq ν] (h : Keyed index) (a : ν) :
    (index.filter (·.2 != a)).lookup k = some v ↔ index.lookup k = some v ∧ v ≠ a := by
  rw [(h.filter _).lookup_iff, List.mem_filter, h.lookup_iff]
  simp

end Index

/-- What a host has bound, by address. -/
abbrev Bindings (β : Type) := Finmap fun _ : Word => Binding β

namespace Bindings

variable {β : Type} {m : Bindings β} {a : Word}

theorem card_insert (ha : a ∉ m) (b : Binding β) :
    (m.insert a b).keys.card = m.keys.card + 1 := by
  have hkeys : (m.insert a b).keys = insert a m.keys := by
    ext j
    simp [Finmap.mem_keys, Finmap.mem_insert]
  rw [hkeys, Finset.card_insert_of_notMem (by rwa [Finmap.mem_keys])]

theorem card_erase (ha : a ∈ m) : (m.erase a).keys.card + 1 = m.keys.card := by
  rw [Finmap.keys_erase, Finset.card_erase_add_one (Finmap.mem_keys.2 ha)]

end Bindings

namespace Registrar

variable {η β : Type} [Registrar η β]

/-- A host that issues only addresses it has not bound, releases only those it has, and fails
without effect. -/
structure Lawful (bound : η → Bindings β) : Prop where
  register_ok : ∀ {h h' : η} {b a}, register h b = (.ok a, h') →
    a ∉ bound h ∧ bound h' = (bound h).insert a b
  register_error : ∀ {h h' : η} {b e}, register h b = (.error e, h') → bound h' = bound h
  unregister_ok : ∀ {h h' : η} {a}, unregister h a = (.ok (), h') →
    a ∈ bound h ∧ bound h' = (bound h).erase a
  unregister_error : ∀ {h h' : η} {a e}, unregister h a = (.error e, h') → bound h' = bound h

/-- A lawful host of capacity `n` that never fails while it has room, and releases whatever it has
bound. -/
structure Obliging (n : Nat) (bound : η → Bindings β) : Prop extends Lawful bound where
  capacity_eq : ∀ h : η, (capacity h).toNat = n
  accepts : ∀ (h : η) (b : Binding β), (bound h).keys.card < n → ∃ a h', register h b = (.ok a, h')
  releases : ∀ (h : η) (a : Word), a ∈ bound h → ∃ h', unregister h a = (.ok (), h')
  refuses : ∀ (h : η) (a : Word), a ∉ bound h →
    ∃ h', unregister h a = (.error (.notFound (.address a)), h')

end Registrar

namespace HostBackend

variable {η β : Type} {bound : η → Bindings β} {b : HostBackend η} {a : Word} {host : η}

/-- The address given to an identity. -/
def addressOf? (b : HostBackend η) (i : Identity) : Option Word := b.issued.lookup i

/-- The books agree with what the host has bound. -/
structure InStep (bound : η → Bindings β) (b : HostBackend η) : Prop where
  keyed : Index.Keyed b.issued
  live_eq : b.live.toNat = (bound b.host).keys.card
  addressOf_iff : ∀ {i a}, b.addressOf? i = some a ↔
    ∃ binding, (bound b.host).lookup a = some binding ∧ binding.held.identity = some i

namespace InStep

theorem empty {h : η} (hempty : bound h = ∅) : InStep bound { host := h } where
  keyed := List.nodup_nil
  live_eq := by simp [hempty]
  addressOf_iff := by simp [addressOf?, hempty]

variable {binding : Binding β} {issued : List (Identity × Word)}

/-- One binding more, which is entered under its identity if it has one. -/
theorem bind (h : InStep bound b) (hlive : b.live ≠ BitVec.allOnes 64) (ha : a ∉ bound b.host)
    (hhost : bound host = (bound b.host).insert a binding)
    (hnew : ∀ i, binding.held.identity = some i → b.addressOf? i = none)
    (hkeyed : Index.Keyed issued)
    (hissued : ∀ i, issued.lookup i =
      if binding.held.identity = some i then some a else b.addressOf? i) :
    InStep bound { host, issued, live := b.live + 1 } where
  keyed := hkeyed
  live_eq := by
    have hlt : b.live.toNat + 1 < 2 ^ 64 := by
      have hne : b.live.toNat ≠ 2 ^ 64 - 1 := fun he => hlive (BitVec.eq_of_toNat_eq he)
      omega
    rw [hhost, Bindings.card_insert ha, ← h.live_eq, BitVec.toNat_add]
    exact Nat.mod_eq_of_lt hlt
  addressOf_iff {i a'} := by
    have hother : a' ≠ a → (bound host).lookup a' = (bound b.host).lookup a' := by
      intro hne
      rw [hhost, Finmap.lookup_insert_of_ne _ hne]
    have hself : (bound host).lookup a = some binding := by rw [hhost, Finmap.lookup_insert]
    show issued.lookup i = some a' ↔ _
    rw [hissued]
    by_cases hi : binding.held.identity = some i
    · rw [if_pos hi]
      constructor
      · rintro ⟨⟩
        exact ⟨binding, hself, hi⟩
      · rintro ⟨c, hc, hci⟩
        by_cases haa : a' = a
        · rw [haa]
        · rw [hother haa] at hc
          have hold := h.addressOf_iff.2 ⟨c, hc, hci⟩
          rw [hnew i hi] at hold
          contradiction
    · rw [if_neg hi, h.addressOf_iff]
      by_cases haa : a' = a
      · subst haa
        rw [hself, Finmap.lookup_eq_none.2 ha]
        simp [hi]
      · rw [hother haa]

/-- One binding less, which is forgotten under its identity if it has one. -/
theorem unbind (h : InStep bound b) (ha : (bound b.host).lookup a = some binding)
    (hhost : bound host = (bound b.host).erase a) (hkeyed : Index.Keyed issued)
    (hissued : ∀ i, issued.lookup i =
      if binding.held.identity = some i then none else b.addressOf? i) :
    InStep bound { host, issued, live := b.live - 1 } where
  keyed := hkeyed
  live_eq := by
    have hcard := Bindings.card_erase (Finmap.mem_of_lookup_eq_some ha)
    have hone : (1 : Word).toNat = 1 := rfl
    have hlive := h.live_eq
    rw [hhost, BitVec.toNat_sub, hone]
    omega
  addressOf_iff {i a'} := by
    show issued.lookup i = some a' ↔ _
    rw [hissued, hhost]
    by_cases haa : a' = a
    · subst haa
      rw [Finmap.lookup_erase]
      by_cases hi : binding.held.identity = some i
      · simp [hi]
      · rw [if_neg hi, h.addressOf_iff, ha]
        simp [hi]
    · rw [Finmap.lookup_erase_ne haa]
      by_cases hi : binding.held.identity = some i
      · simp only [if_pos hi, reduceCtorEq, false_iff]
        intro hc
        have hold := h.addressOf_iff.2 hc
        rw [h.addressOf_iff.2 ⟨binding, ha, hi⟩] at hold
        exact haa (Option.some.inj hold).symm
      · rw [if_neg hi, h.addressOf_iff]

theorem withHost (h : InStep bound b) (hhost : bound host = bound b.host) :
    InStep bound { b with host } where
  keyed := h.keyed
  live_eq := by
    rw [hhost]
    exact h.live_eq
  addressOf_iff := by
    rw [hhost]
    exact h.addressOf_iff

/-- Forgetting an address forgets the identity of what is bound to it. -/
theorem lookup_filter (h : InStep bound b) (ha : (bound b.host).lookup a = some binding)
    (i : Identity) : (b.issued.filter (·.2 != a)).lookup i =
      if binding.held.identity = some i then none else b.addressOf? i := by
  by_cases hi : binding.held.identity = some i
  · have hlookup : b.issued.lookup i = some a := h.addressOf_iff.2 ⟨binding, ha, hi⟩
    rw [if_pos hi, Option.eq_none_iff_forall_ne_some]
    intro v hv
    obtain ⟨hold, hne⟩ := (h.keyed.lookup_filter a).1 hv
    rw [hlookup] at hold
    exact hne (Option.some.inj hold).symm
  · rw [if_neg hi]
    apply Option.ext
    intro v
    rw [h.keyed.lookup_filter a]
    refine ⟨And.left, fun hv => ⟨hv, ?_⟩⟩
    rintro rfl
    obtain ⟨c, hc, hci⟩ := h.addressOf_iff.1 hv
    rw [ha] at hc
    cases hc
    exact hi hci

/-- The books of a backend never count up to the last word. -/
theorem live_ne (h : InStep bound b) {n : Nat} (hn : n < wordCount / 2)
    (hle : (bound b.host).keys.card ≤ n) : b.live ≠ BitVec.allOnes 64 := by
  intro hlive
  have hhalf : wordCount / 2 < 2 ^ 64 - 1 := by decide
  have heq := h.live_eq
  rw [hlive, BitVec.toNat_allOnes] at heq
  omega

end InStep

section Operations

variable [Registrar η β] {held : HeldCallback β} {identity : Option Identity}
  {signature : Signature}

theorem bind_rejected {e : RegistrationError} (h : Signature.of held.callback = .error e) :
    b.bind held = .refuse e [.callbackRejected e] b := by
  simp only [bind, h]

theorem bind_full (h : Signature.of held.callback = .ok signature)
    (hlive : b.live ≠ BitVec.allOnes 64) (hfull : ¬ b.live < b.capacity) :
    b.bind held = .refuse (.capacityExceeded b.capacity.toNat)
      [.capacityExhausted b.capacity.toNat] b := by
  simp only [bind, h, if_neg hlive, if_neg hfull]

theorem bind_bound (h : Signature.of held.callback = .ok signature)
    (hlive : b.live ≠ BitVec.allOnes 64) (hroom : b.live < b.capacity)
    (hhost : Registrar.register b.host { held, signature } = (.ok a, host)) :
    b.bind held = .ok a [.hostCallbackRegistered a] { b with host, live := b.live + 1 } := by
  simp only [bind, h, if_neg hlive, if_pos hroom, hhost]

theorem bind_stopped (h : Signature.of held.callback = .ok signature)
    (hlive : b.live = BitVec.allOnes 64) : b.bind held = .stop .add [] b := by
  simp only [bind, h, if_pos hlive]

/-- The place that was reserved is given back if the host gives no address. -/
theorem bind_refused {e : RegistrationError} (h : Signature.of held.callback = .ok signature)
    (hlive : b.live ≠ BitVec.allOnes 64) (hroom : b.live < b.capacity)
    (hhost : Registrar.register b.host { held, signature } = (.error e, host)) :
    b.bind held = .refuse e [] { b with host } := by
  simp only [bind, h, if_neg hlive, if_pos hroom, hhost, BitVec.add_sub_cancel]

theorem release_bound (hhost : Registrar.unregister b.host a = (.ok (), host)) :
    b.release a = .ok () [.hostCallbackReleased a] { b with host, live := b.live - 1 } := by
  simp only [release, hhost]

theorem release_refused {e : RegistrationError}
    (hhost : Registrar.unregister b.host a = (.error e, host)) :
    b.release a = .refuse e [] { b with host } := by
  simp only [release, hhost]

/-- All that binding can come to, over any host. A failure counts nothing, whether the host was asked
or not, and an address counts one. -/
theorem bind_cases (b : HostBackend η) (held : HeldCallback β) :
    (∃ e l host, b.bind held = .refuse e l { b with host }) ∨ b.bind held = .stop .add [] b ∨
      ∃ a host, b.bind held = .ok a [.hostCallbackRegistered a]
        { b with host, live := b.live + 1 } := by
  cases hs : Signature.of held.callback with
  | error e => exact .inl ⟨e, _, b.host, bind_rejected hs⟩
  | ok signature =>
    by_cases hlive : b.live = BitVec.allOnes 64
    · exact .inr (.inl (bind_stopped hs hlive))
    by_cases hroom : b.live < b.capacity
    · rcases hhost : Registrar.register b.host { held, signature } with ⟨e | a, host⟩
      · exact .inl ⟨e, [], host, bind_refused hs hlive hroom hhost⟩
      · exact .inr (.inr ⟨a, host, bind_bound hs hlive hroom hhost⟩)
    · exact .inl ⟨_, _, b.host, bind_full hs hlive hroom⟩

/-- A release counts one less, or fails and counts nothing. -/
theorem release_cases (b : HostBackend η) (a : Word) :
    (∃ e host, b.release a = .refuse e [] { b with host }) ∨
      ∃ host, b.release a = .ok () [.hostCallbackReleased a]
        { b with host, live := b.live - 1 } := by
  rcases hhost : Registrar.unregister b.host a with ⟨e | _, host⟩
  · exact .inl ⟨e, host, release_refused hhost⟩
  · exact .inr ⟨host, release_bound hhost⟩

/-- Registering under an identity, if there is one. Both ways to register are cases of it. -/
def compile (b : HostBackend η) (held : HeldCallback β) (identity : Option Identity) :
    Reply RegistrationError (HostBackend η) Word :=
  match identity.bind b.addressOf? with
  | some a => .ok a [.callbackDeduplicated a] b
  | none =>
    let r := b.bind held
    match r.answer, identity with
    | .ok a, some i => { r with state := { r.state with issued := Index.put i a r.state.issued } }
    | _, _ => r

theorem register_eq_compile (b : HostBackend η) (c : Callback β) :
    b.register c = b.compile { callback := c } none := by
  unfold register compile
  cases h : (b.bind { callback := c }).answer <;> simp only [Option.bind_none, h]

theorem registerShared_eq_compile (b : HostBackend η) (s : SharedCallback β) :
    b.registerShared s = b.compile s.held (some s.identity) := by
  unfold registerShared compile
  rw [Option.bind_some, addressOf?]
  cases b.issued.lookup s.identity with
  | some a => rfl
  | none => cases h : (b.bind s.held).answer <;> simp only [h]

theorem compile_known (h : identity.bind b.addressOf? = some a) :
    b.compile held identity = .ok a [.callbackDeduplicated a] b := by
  simp only [compile, h]

/-- Unless there is an address, there is nothing to enter under the identity. -/
theorem compile_of_failed (h : identity.bind b.addressOf? = none)
    (hfailed : ∀ a, (b.bind held).answer ≠ .ok a) : b.compile held identity = b.bind held := by
  unfold compile
  rw [h]
  cases hanswer : (b.bind held).answer with
  | ok a => exact absurd hanswer (hfailed a)
  | error e => simp only [hanswer]
  | overflow o => simp only [hanswer]

theorem compile_rejected {e : RegistrationError} (h : identity.bind b.addressOf? = none)
    (hs : Signature.of held.callback = .error e) :
    b.compile held identity = .refuse e [.callbackRejected e] b := by
  have hbind := bind_rejected (b := b) hs
  rw [compile_of_failed h (by simp [hbind]), hbind]

/-- An address that the host gives out is entered under the identity, if there is one. -/
theorem compile_issued (hb : InStep bound b) (hl : Registrar.Lawful bound)
    (h : identity.bind b.addressOf? = none) (hid : held.identity = identity)
    (hs : Signature.of held.callback = .ok signature) (hlive : b.live ≠ BitVec.allOnes 64)
    (hroom : b.live < b.capacity)
    (hhost : Registrar.register b.host { held, signature } = (.ok a, host)) :
    ∃ issued, b.compile held identity = .ok a [.hostCallbackRegistered a]
        { host, issued, live := b.live + 1 } ∧
      InStep bound { host, issued, live := b.live + 1 } := by
  obtain ⟨ha, hinsert⟩ := hl.register_ok hhost
  have hbind := bind_bound hs hlive hroom hhost
  cases identity with
  | none =>
    refine ⟨b.issued, ?_, hb.bind hlive ha hinsert ?_ hb.keyed ?_⟩
    · simp only [compile, h, hbind, Reply.ok]
    · simp [hid]
    · simp [hid, addressOf?]
  | some i =>
    refine ⟨Index.put i a b.issued, ?_, hb.bind hlive ha hinsert ?_ (hb.keyed.put i a) ?_⟩
    · simp only [compile, h, hbind, Reply.ok]
    · intro j hj
      rw [hid] at hj
      cases hj
      exact h
    · intro j
      rw [Index.lookup_put]
      simp only [hid, Option.some.injEq, eq_comm, addressOf?]

/-- Forgetting the address that was released keeps the books in step. -/
theorem unregister_released (hb : InStep bound b) (hl : Registrar.Lawful bound)
    (hhost : Registrar.unregister b.host a = (.ok (), host)) :
    ∃ issued, b.unregister a = .ok () [.hostCallbackReleased a]
        { host, issued, live := b.live - 1 } ∧
      InStep bound { host, issued, live := b.live - 1 } := by
  obtain ⟨hmem, herase⟩ := hl.unregister_ok hhost
  obtain ⟨binding, ha⟩ := Finmap.mem_iff.1 hmem
  refine ⟨b.issued.filter (·.2 != a), ?_, hb.unbind ha herase (hb.keyed.filter _) fun i => ?_⟩
  · simp only [unregister, release_bound hhost, Reply.ok]
  · exact hb.lookup_filter ha i

theorem unregister_refused {e : RegistrationError}
    (hhost : Registrar.unregister b.host a = (.error e, host)) :
    b.unregister a = .refuse e [] { b with host } := by
  simp only [unregister, release_refused hhost, Reply.refuse]

variable {i : Identity}

theorem unregisterShared_released (hb : InStep bound b) (hl : Registrar.Lawful bound)
    (hi : b.addressOf? i = some a)
    (hhost : Registrar.unregister b.host a = (.ok (), host)) :
    ∃ issued, b.unregisterShared i = .ok () [.hostCallbackReleased a]
        { host, issued, live := b.live - 1 } ∧
      InStep bound { host, issued, live := b.live - 1 } := by
  obtain ⟨-, herase⟩ := hl.unregister_ok hhost
  obtain ⟨binding, ha, hid⟩ := hb.addressOf_iff.1 hi
  have hlookup : b.issued.lookup i = some a := hi
  refine ⟨Index.erase i b.issued, ?_, hb.unbind ha herase (hb.keyed.filter _) fun j => ?_⟩
  · simp only [unregisterShared, hlookup, release_bound hhost, Reply.ok]
  · rw [Index.lookup_erase]
    simp only [hid, Option.some.injEq, eq_comm, addressOf?]

theorem unregisterShared_refused {e : RegistrationError} (hi : b.addressOf? i = some a)
    (hhost : Registrar.unregister b.host a = (.error e, host)) :
    b.unregisterShared i = .refuse e [] { b with host } := by
  have hlookup : b.issued.lookup i = some a := hi
  simp only [unregisterShared, hlookup, release_refused hhost, Reply.refuse]

theorem unregisterShared_of_unknown (hi : b.addressOf? i = none) :
    b.unregisterShared i = .refuse (.notFound (.identity i)) [] b := by
  have hlookup : b.issued.lookup i = none := hi
  simp only [unregisterShared, hlookup]

variable {n : Nat}

theorem compile_full (hb : InStep bound b) (ho : Registrar.Obliging n bound) (hn : n < wordCount / 2)
    (h : identity.bind b.addressOf? = none) (hs : Signature.of held.callback = .ok signature)
    (hfull : (bound b.host).keys.card = n) :
    b.compile held identity = .refuse (.capacityExceeded n) [.capacityExhausted n] b := by
  have hcapacity : b.capacity.toNat = n := ho.capacity_eq b.host
  have hnot : ¬ b.live < b.capacity := by
    rw [BitVec.lt_def, hb.live_eq, hcapacity, hfull]
    exact Nat.lt_irrefl n
  have hbind := bind_full hs (hb.live_ne hn hfull.le) hnot
  rw [compile_of_failed h (by simp [hbind]), hbind, hcapacity]

/-- As long as there is room, a valid callback that is not registered gets an address. -/
theorem compile_bound (hb : InStep bound b) (ho : Registrar.Obliging n bound) (hn : n < wordCount / 2)
    (h : identity.bind b.addressOf? = none) (hs : Signature.of held.callback = .ok signature)
    (hroom : (bound b.host).keys.card < n) (hid : held.identity = identity) :
    ∃ a host issued, a ∉ bound b.host ∧
      bound host = (bound b.host).insert a { held, signature } ∧
      b.compile held identity = .ok a [.hostCallbackRegistered a]
        { host, issued, live := b.live + 1 } ∧
      InStep bound { host, issued, live := b.live + 1 } := by
  have hcapacity : b.capacity.toNat = n := ho.capacity_eq b.host
  have hlive := hb.live_ne hn hroom.le
  have hlt : b.live < b.capacity := by
    rw [BitVec.lt_def, hb.live_eq, hcapacity]
    exact hroom
  obtain ⟨a, host, hhost⟩ := ho.accepts b.host { held, signature } hroom
  obtain ⟨ha, hinsert⟩ := ho.register_ok hhost
  obtain ⟨issued, hcompile, hstep⟩ :=
    compile_issued hb ho.toLawful h hid hs hlive hlt hhost
  exact ⟨a, host, issued, ha, hinsert, hcompile, hstep⟩

theorem unregister_of_bound (hb : InStep bound b) (ho : Registrar.Obliging n bound)
    {binding : Binding β} (ha : (bound b.host).lookup a = some binding) :
    ∃ host issued, bound host = (bound b.host).erase a ∧
      b.unregister a = .ok () [.hostCallbackReleased a] { host, issued, live := b.live - 1 } ∧
      InStep bound { host, issued, live := b.live - 1 } := by
  obtain ⟨host, hhost⟩ := ho.releases b.host a (Finmap.mem_of_lookup_eq_some ha)
  obtain ⟨-, herase⟩ := ho.unregister_ok hhost
  obtain ⟨issued, hunregister, hstep⟩ := unregister_released hb ho.toLawful hhost
  exact ⟨host, issued, herase, hunregister, hstep⟩

theorem unregister_of_unknown (ho : Registrar.Obliging n bound) (ha : a ∉ bound b.host) :
    ∃ host, bound host = bound b.host ∧
      b.unregister a = .refuse (.notFound (.address a)) [] { b with host } := by
  obtain ⟨host, hhost⟩ := ho.refuses b.host a ha
  exact ⟨host, ho.unregister_error hhost, unregister_refused hhost⟩

theorem unregisterShared_of_bound (hb : InStep bound b) (ho : Registrar.Obliging n bound)
    {binding : Binding β} (ha : (bound b.host).lookup a = some binding)
    (hi : binding.held.identity = some i) :
    ∃ host issued, bound host = (bound b.host).erase a ∧
      b.unregisterShared i = .ok () [.hostCallbackReleased a]
        { host, issued, live := b.live - 1 } ∧
      InStep bound { host, issued, live := b.live - 1 } := by
  have hknown : b.addressOf? i = some a := hb.addressOf_iff.2 ⟨binding, ha, hi⟩
  obtain ⟨host, hhost⟩ := ho.releases b.host a (Finmap.mem_of_lookup_eq_some ha)
  obtain ⟨-, herase⟩ := ho.unregister_ok hhost
  obtain ⟨issued, hunregister, hstep⟩ := unregisterShared_released hb ho.toLawful hknown hhost
  exact ⟨host, issued, herase, hunregister, hstep⟩

end Operations

end HostBackend

end CallBridge
