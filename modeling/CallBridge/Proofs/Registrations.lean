import CallBridge.Proofs.SlotRuns

/-!
What the operations of a trampoline answer. The equations below are all that later proofs use of
registering and releasing; the invariant says that the table is in order and that every bound
callback went through validation.
-/

namespace CallBridge

namespace Registry

variable {β : Type} {r : Registry β} {entry : Nat → Except Overflow Word} {k : Nat} {s : Slot β}

/-- An operation that gets no addresses binds nothing. -/
theorem Change.slot?_of_unbinding {r' : Registry β} {b : Bool}
    (hc : Change (fun _ => .error .add) r b r') (hs : r'.slot? k = some s) :
    r.slot? k = some s := by
  cases hc with
  | unchanged => exact hs
  | loses => exact hs
  | binds _ hentry => contradiction
  | unbinds =>
    rw [slot?_unbind] at hs
    split_ifs at hs
    exact hs

theorem registered?_eq_none {i : Identity} (h : r.addressOf? i = none) :
    r.registered? i = none := by
  simp [registered?, h]

theorem bind_registered?_eq_none {identity : Option Identity}
    (h : identity.bind r.addressOf? = none) : identity.bind r.registered? = none := by
  cases identity with
  | none => rfl
  | some i => exact registered?_eq_none h

theorem release_of_bound (hs : r.slot? k = some s) :
    r.release k = .ok () [.callbackReleased k s.address] (r.unbind k s) := by
  simp only [release, hs]

theorem release_of_free (hs : r.slot? k = none) :
    r.release k = .refuse (.slotNotBound k) [] r := by
  simp only [release, hs]

theorem releaseAddress_of_bound (h : Indexed entry r) (hs : r.slot? k = some s) :
    r.releaseAddress s.address = .ok k [.callbackReleased k s.address] (r.unbind k s) := by
  have hk : r.slotAt? s.address = some k := h.slotAt_iff.2 ⟨s, hs, rfl⟩
  simp only [releaseAddress, hk, hs]

theorem releaseAddress_of_unknown {a : Word} (ha : r.slotAt? a = none) :
    r.releaseAddress a = .refuse (.notFound (.address a)) [] r := by
  simp only [releaseAddress, ha]

theorem Indexed.registered?_of_bound (h : Indexed entry r) (hs : r.slot? k = some s)
    {i : Identity} (hi : s.identity = some i) : r.registered? i = some ⟨k, s.address, true⟩ :=
  registered?_eq_some.2
    ⟨h.addressOf_iff.2 ⟨k, s, hs, hi, rfl⟩, h.slotAt_iff.2 ⟨s, hs, rfl⟩, rfl⟩

theorem releaseIdentity_of_bound (h : Indexed entry r) (hs : r.slot? k = some s) {i : Identity}
    (hi : s.identity = some i) :
    r.releaseIdentity i = .ok k [.callbackReleased k s.address] (r.unbind k s) := by
  simp only [releaseIdentity, h.registered?_of_bound hs hi, hs]

theorem releaseIdentity_of_unknown {i : Identity} (hi : r.addressOf? i = none) :
    r.releaseIdentity i = .refuse (.notFound (.identity i)) [] r := by
  simp only [releaseIdentity, registered?_eq_none hi]

theorem addressOf?_eq_none (h : Indexed entry r) {i : Identity} :
    r.addressOf? i = none ↔ ∀ k s, r.slot? k = some s → s.identity ≠ some i := by
  rw [Option.eq_none_iff_forall_ne_some]
  constructor
  · intro hnone k s hs hi
    exact hnone s.address (h.addressOf_iff.2 ⟨k, s, hs, hi, rfl⟩)
  · intro hall a ha
    obtain ⟨k, s, hs, hi, -⟩ := h.addressOf_iff.1 ha
    exact hall k s hs hi

end Registry

namespace Trampoline

variable {β : Type} {t : Trampoline β} {held : HeldCallback β} {identity : Option Identity}

section Compile

theorem compile_known {a : Word} (h : identity.bind t.registry.addressOf? = some a) :
    t.compile held identity = .ok a [.callbackDeduplicated a] t := by
  simp only [compile, h]

theorem compile_rejected {e : RegistrationError} (h : identity.bind t.registry.addressOf? = none)
    (hs : Signature.of held.callback = .error e) :
    t.compile held identity = .refuse e [.callbackRejected e] t := by
  simp only [compile, h, hs]

variable {signature : Signature} {k : Nat} {free : List Nat}

theorem compile_full (h : identity.bind t.registry.addressOf? = none)
    (hs : Signature.of held.callback = .ok signature) (hfree : t.registry.free = []) :
    t.compile held identity = .refuse (.capacityExceeded t.registry.capacity)
      [.capacityExhausted t.registry.capacity] t := by
  have hnew := Registry.bind_registered?_eq_none h
  simp only [compile, h, hs, Registry.allocate_full hnew hfree]
  rfl

theorem compile_lost {o : Overflow} (h : identity.bind t.registry.addressOf? = none)
    (hs : Signature.of held.callback = .ok signature) (hfree : t.registry.free = k :: free)
    (he : t.table.locate k = .error o) :
    t.compile held identity = .stop o [] { t with registry := { t.registry with free } } := by
  have hnew := Registry.bind_registered?_eq_none h
  simp only [compile, h, hs, Registry.allocate_lost hnew hfree he]
  rfl

theorem compile_bound {a : Word} (h : identity.bind t.registry.addressOf? = none)
    (hs : Signature.of held.callback = .ok signature) (hfree : t.registry.free = k :: free)
    (he : t.table.locate k = .ok a) :
    t.compile held identity = .ok a [.callbackRegistered k a]
      { t with
        registry := { t.registry with free }.bind k ⟨⟨held, signature⟩, a, identity⟩ } := by
  have hnew := Registry.bind_registered?_eq_none h
  simp only [compile, h, hs, Registry.allocate_bound hnew hfree he]
  rfl

end Compile

/-- All that compiling can come to. Nothing is bound, and an address is answered only if the identity
had it; or the next slot is lost; or it is bound to the callback as it was validated. -/
theorem compile_cases (t : Trampoline β) (held : HeldCallback β) (identity : Option Identity) :
    ((t.compile held identity).state = t ∧ ∀ a, (t.compile held identity).answer = .ok a →
      identity.bind t.registry.addressOf? = some a) ∨
    (∃ k free o, t.registry.free = k :: free ∧ t.compile held identity =
      .stop o [] { t with registry := { t.registry with free } }) ∨
    ∃ k free signature a, t.registry.free = k :: free ∧
      Signature.of held.callback = .ok signature ∧ t.compile held identity =
        .ok a [.callbackRegistered k a]
          { t with
            registry := { t.registry with free }.bind k ⟨⟨held, signature⟩, a, identity⟩ } := by
  cases hknown : identity.bind t.registry.addressOf? with
  | some a =>
    rw [compile_known hknown]
    refine .inl ⟨rfl, ?_⟩
    rintro a' ⟨⟩
    rfl
  | none =>
    cases hsig : Signature.of held.callback with
    | error e =>
      rw [compile_rejected hknown hsig]
      exact .inl ⟨rfl, by rintro a ⟨⟩⟩
    | ok signature =>
      cases hfree : t.registry.free with
      | nil =>
        rw [compile_full hknown hsig hfree]
        exact .inl ⟨rfl, by rintro a ⟨⟩⟩
      | cons k free =>
        cases he : t.table.locate k with
        | error o => exact .inr (.inl ⟨k, free, o, rfl, compile_lost hknown hsig hfree he⟩)
        | ok a =>
          exact .inr (.inr ⟨k, free, signature, a, rfl, rfl, compile_bound hknown hsig hfree he⟩)

@[simp] theorem compile_table (t : Trampoline β) (held : HeldCallback β)
    (identity : Option Identity) : (t.compile held identity).state.table = t.table := by
  rcases t.compile_cases held identity with
    ⟨h, -⟩ | ⟨k, free, o, -, h⟩ | ⟨k, free, signature, a, -, -, h⟩ <;> simp [h]

/-- A slot holds a callback together with the signature that validation gave it. -/
def Validated (s : Slot β) : Prop := Signature.of s.binding.held.callback = .ok s.binding.signature

/-- The table is in order and every bound callback was validated. -/
structure Sound (t : Trampoline β) : Prop where
  accounted : t.registry.Accounted
  indexed : t.registry.Indexed t.table.locate
  validated : ∀ k s, t.registry.slot? k = some s → Validated s

/-- What a trampoline keeps, whatever the addresses of its slots. -/
structure Guarded (t : Trampoline β) : Prop where
  accounted : t.registry.Accounted
  validated : ∀ k s, t.registry.slot? k = some s → Validated s

theorem Sound.guarded (h : t.Sound) : t.Guarded := ⟨h.accounted, h.validated⟩

theorem create_eq_ok {table : EntryTable} {n : Nat} (h : create table n = .ok t) :
    n < wordCount / 2 ∧ t = { registry := .empty n, table } := by
  unfold create at h
  cases hr : Registry.create (β := β) n with
  | error v => simp [hr, Verdict.map] at h
  | overflow o => simp [hr, Verdict.map] at h
  | ok r =>
    obtain ⟨hn, rfl⟩ := Registry.create_eq_ok hr
    simp only [hr, Verdict.map, Verdict.ok.injEq] at h
    exact ⟨hn, h.symm⟩

theorem empty_sound (table : EntryTable) (n : Nat) :
    Sound ({ registry := .empty n, table } : Trampoline β) where
  accounted := Registry.empty_accounted n
  indexed := Registry.empty_indexed n
  validated k s hs := by simp at hs

theorem Sound.change (h : t.Sound) (hsep : Separates t.table.locate t.registry.capacity)
    {b : Bool} {r : Registry β} (hc : Registry.Change t.table.locate t.registry b r)
    (hnew : ∀ k s, r.slot? k = some s → t.registry.slot? k = some s ∨ Validated s) :
    Sound { t with registry := r } where
  accounted := h.accounted.change hc
  indexed := h.indexed.change h.accounted hsep hc
  validated k s hs := (hnew k s hs).elim (h.validated k s) id

/-- Compiling fills a slot with a validated callback or none at all. -/
theorem compile_slot? (h : t.registry.Accounted) {k : Nat} {s : Slot β}
    (hs : (t.compile held identity).state.registry.slot? k = some s) :
    t.registry.slot? k = some s ∨ Validated s := by
  rcases t.compile_cases held identity with
    ⟨hsame, -⟩ | ⟨j, free, o, -, hlost⟩ | ⟨j, free, signature, a, hfree, hsig, hbound⟩
  · rw [hsame] at hs
    exact .inl hs
  · rw [hlost] at hs
    exact .inl hs
  · obtain ⟨hpop, hj, -, -⟩ := h.pop hfree
    rw [hbound, Reply.ok_state, Registry.slot?_bind (hpop.slots_length ▸ hj)] at hs
    split_ifs at hs
    · cases hs
      exact .inr hsig
    · exact .inl hs

/-- A callback that was registered is behind the address that was issued. -/
theorem register_of_ok (h : t.Sound) {c : Callback β} {a : Word}
    (hok : (t.register c).answer = .ok a) :
    ∃ k s, (t.register c).state.registry.slotAt? a = some k ∧
      (t.register c).state.registry.slot? k = some s ∧ s.binding.held.callback = c := by
  unfold register at hok ⊢
  rcases t.compile_cases { callback := c } none with
    ⟨-, hknown⟩ | ⟨k, free, o, -, hlost⟩ | ⟨k, free, signature, a', hfree, -, hbound⟩
  · exact absurd (hknown a hok) (by simp)
  · rw [hlost] at hok
    contradiction
  · obtain ⟨hpop, hk, -, -⟩ := h.accounted.pop hfree
    rw [hbound] at hok ⊢
    cases hok
    refine ⟨k, ⟨⟨{ callback := c }, signature⟩, a, none⟩, ?_, ?_, rfl⟩
    · simp [Registry.slotAt?_bind]
    · simp [Registry.slot?_bind (hpop.slots_length ▸ hk)]

/-- An address that is answered is that of a slot in use. -/
theorem compile_of_ok (h : t.Sound) {a : Word} (hok : (t.compile held identity).answer = .ok a) :
    ∃ k s, (t.compile held identity).state.registry.slot? k = some s ∧ s.address = a := by
  rcases t.compile_cases held identity with
    ⟨hsame, hknown⟩ | ⟨k, free, o, -, hlost⟩ | ⟨k, free, signature, a', hfree, -, hbound⟩
  · obtain ⟨i, -, hi⟩ := Option.bind_eq_some_iff.1 (hknown a hok)
    obtain ⟨k, s, hs, -, ha⟩ := h.indexed.addressOf_iff.1 hi
    refine ⟨k, s, ?_, ha⟩
    rwa [hsame]
  · rw [hlost] at hok
    contradiction
  · obtain ⟨hpop, hk, -, -⟩ := h.accounted.pop hfree
    rw [hbound] at hok ⊢
    cases hok
    exact ⟨k, ⟨⟨held, signature⟩, a, identity⟩,
      by simp [Registry.slot?_bind (hpop.slots_length ▸ hk)], rfl⟩

section Release

variable {k : Nat} {s : Slot β}

theorem unregister_of_bound (h : t.Sound) (hs : t.registry.slot? k = some s) :
    t.unregister s.address = .ok () [.callbackReleased k s.address]
      { t with registry := t.registry.unbind k s } := by
  rw [unregister, onRegistry, Registry.releaseAddress_of_bound h.indexed hs]
  rfl

theorem unregister_of_unknown {a : Word} (ha : t.registry.slotAt? a = none) :
    t.unregister a = .refuse (.notFound (.address a)) [] t := by
  rw [unregister, onRegistry, Registry.releaseAddress_of_unknown ha]
  rfl

theorem unregisterShared_of_bound (h : t.Sound) (hs : t.registry.slot? k = some s) {i : Identity}
    (hi : s.identity = some i) :
    t.unregisterShared i = .ok () [.callbackReleased k s.address]
      { t with registry := t.registry.unbind k s } := by
  rw [unregisterShared, onRegistry, Registry.releaseIdentity_of_bound h.indexed hs hi]
  rfl

theorem unregisterShared_of_unknown {i : Identity} (hi : t.registry.addressOf? i = none) :
    t.unregisterShared i = .refuse (.notFound (.identity i)) [] t := by
  rw [unregisterShared, onRegistry, Registry.releaseIdentity_of_unknown hi]
  rfl

theorem release_of_bound (hs : t.registry.slot? k = some s) :
    t.onRegistry (·.release k) = .ok () [.callbackReleased k s.address]
      { t with registry := t.registry.unbind k s } := by
  rw [onRegistry, Registry.release_of_bound hs]
  rfl

theorem release_of_free (hs : t.registry.slot? k = none) :
    t.onRegistry (·.release k) = .refuse (.slotNotBound k) [] t := by
  rw [onRegistry, Registry.release_of_free hs]
  rfl

end Release

/-- Operations of a trampoline that can change it. -/
inductive Operation (β : Type) where
  | register (c : Callback β)
  | registerShared (s : SharedCallback β)
  | compile (held : HeldCallback β) (identity : Option Identity)
  | unregister (address : Word)
  | unregisterShared (identity : Identity)
  | release (slot : Nat)

namespace Operation

/-- An operation with its answer: the address that was issued, if one was asked for. -/
def perform (t : Trampoline β) : Operation β → Reply RegistrationError (Trampoline β) (Option Word)
  | register c => (t.register c).map some
  | registerShared s => (t.registerShared s).map some
  | compile held identity => (t.compile held identity).map some
  | unregister address => (t.unregister address).map fun _ => none
  | unregisterShared identity => (t.unregisterShared identity).map fun _ => none
  | release slot => (t.onRegistry (·.release slot)).map fun _ => none

/-- The callback that is to be bound and the identity it is to be bound under. -/
def request? : Operation β → Option (HeldCallback β × Option Identity)
  | register c => some ({ callback := c }, none)
  | registerShared s => some (s.held, some s.identity)
  | compile held identity => some (held, identity)
  | _ => none

theorem perform_of_request {o : Operation β} (h : o.request? = some (held, identity))
    (t : Trampoline β) : o.perform t = (t.compile held identity).map some := by
  cases o <;> cases h <;> rfl

theorem perform_of_issued (h : t.Sound) {o : Operation β} {a : Word}
    (hok : (o.perform t).answer = .ok (some a)) :
    ∃ k s, (o.perform t).state.registry.slot? k = some s ∧ s.address = a := by
  cases hr : o.request? with
  | some request =>
    rw [perform_of_request hr] at hok ⊢
    refine compile_of_ok h ?_
    cases hv : (t.compile request.1 request.2).answer <;> simp [Reply.map, hv, Verdict.map] at hok
    rw [hok]
  | none =>
    -- Releases answer no address.
    cases o with
    | unregister a' =>
      cases hv : (t.unregister a').answer <;> simp [perform, Reply.map, hv, Verdict.map] at hok
    | unregisterShared i =>
      cases hv : (t.unregisterShared i).answer <;> simp [perform, Reply.map, hv, Verdict.map] at hok
    | release j =>
      cases hv : (t.onRegistry (·.release j)).answer <;>
        simp [perform, Reply.map, hv, Verdict.map] at hok
    | _ => contradiction

theorem perform_table (o : Operation β) (t : Trampoline β) :
    (o.perform t).state.table = t.table := by
  cases o <;>
    simp [perform, Reply.map, Trampoline.register, Trampoline.registerShared,
      Trampoline.unregister, Trampoline.unregisterShared, onRegistry, Reply.within]

theorem perform_change (o : Operation β) (t : Trampoline β) :
    Registry.Change t.table.locate t.registry (o.perform t).answer.isOverflow
      (o.perform t).state.registry := by
  cases o with
  | register c =>
    simpa [perform, Reply.map, Trampoline.register] using compile_change t { callback := c } none
  | registerShared s =>
    simpa [perform, Reply.map, Trampoline.registerShared] using
      compile_change t s.held (some s.identity)
  | compile held identity => simpa [perform, Reply.map] using compile_change t held identity
  | unregister address =>
    simpa [perform, Reply.map, Trampoline.unregister, onRegistry, Reply.within] using
      t.registry.releaseAddress_change address
  | unregisterShared identity =>
    simpa [perform, Reply.map, Trampoline.unregisterShared, onRegistry, Reply.within] using
      t.registry.releaseIdentity_change identity
  | release slot =>
    simpa [perform, Reply.map, onRegistry, Reply.within] using t.registry.release_change slot

/-- Whatever stands in a slot after an operation stood there before or was validated. -/
theorem perform_slot? (h : t.registry.Accounted) (o : Operation β) {k : Nat} {s : Slot β}
    (hs : (o.perform t).state.registry.slot? k = some s) :
    t.registry.slot? k = some s ∨ Validated s := by
  cases o with
  | register c => exact compile_slot? h hs
  | registerShared c => exact compile_slot? h hs
  | compile held identity => exact compile_slot? h hs
  | unregister a => exact .inl ((t.registry.releaseAddress_change a).slot?_of_unbinding hs)
  | unregisterShared i => exact .inl ((t.registry.releaseIdentity_change i).slot?_of_unbinding hs)
  | release j => exact .inl ((t.registry.release_change j).slot?_of_unbinding hs)

end Operation

theorem Sound.perform (h : t.Sound) (hsep : Separates t.table.locate t.registry.capacity)
    (o : Operation β) : (o.perform t).state.Sound := by
  have hnext := h.change hsep (o.perform_change t) fun k s hs => o.perform_slot? h.accounted hs
  rw [← o.perform_table t] at hnext
  exact hnext

theorem Guarded.perform (h : t.Guarded) (o : Operation β) : (o.perform t).state.Guarded where
  accounted := h.accounted.change (o.perform_change t)
  validated k s hs := (o.perform_slot? h.accounted hs).elim (h.validated k s) id

/-- A trampoline in order, over a table that serves all of its slots. -/
structure Orderly (t : Trampoline β) : Prop where
  sound : t.Sound
  serves : t.table.Serves t.registry.capacity

theorem empty_orderly {table : EntryTable} {n : Nat} (hserves : table.Serves n) :
    Orderly ({ registry := .empty n, table } : Trampoline β) where
  sound := empty_sound table n
  serves := hserves

theorem Orderly.perform (h : t.Orderly) (o : Operation β) : (o.perform t).state.Orderly where
  sound := h.sound.perform h.serves.separates o
  serves := by
    rw [o.perform_table, (o.perform_change t).capacity]
    exact h.serves

end Trampoline

/-- Running what a slot is bound to, after reporting so. -/
def Binding.runAt {β σ : Type} (x : Execution β σ) (b : Binding β) (slot : Nat) (block : Block) :
    Action σ (Except RegistrationError (Option Word)) := do
  Action.emit (.callbackInvoked slot)
  let result ← b.invoke x block
  pure (.ok result)

/-- The report apart, a slot gives what its binding gives. -/
theorem Binding.runAt_spec {β σ : Type} (x : Execution β σ) (b : Binding β) (slot : Nat)
    (block : Block) (st : σ) :
    (b.runAt x slot block st).ended = (b.invoke x block st).ended.map .ok ∧
      (b.runAt x slot block st).state = (b.invoke x block st).state := by
  unfold runAt
  rw [Action.bind_of_ok (Action.emit_apply _ st)]
  cases hr : b.invoke x block st with
  | mk ended st' l =>
    cases ended with
    | error e =>
      rw [Action.bind_of_error hr]
      exact ⟨rfl, rfl⟩
    | ok o =>
      rw [Action.bind_of_ok hr]
      exact ⟨rfl, rfl⟩

section Dispatch

variable {β σ : Type} {x : Execution β σ} {registry : σ → Registry β} {k : Nat} {block : Block}
  {st : σ}

theorem dispatch_of_bound {s : Slot β} (hs : (registry st).slot? k = some s) :
    dispatch x registry k block st = s.binding.runAt x k block st := by
  unfold dispatch
  rw [Action.bind_of_ok (Action.get_apply st)]
  simp only [Registry.binding?, hs, Option.map_some]
  rfl

theorem dispatch_of_free (hs : (registry st).slot? k = none) :
    dispatch x registry k block st = ⟨.ok (.error (.slotNotBound k)), st, []⟩ := by
  unfold dispatch
  rw [Action.bind_of_ok (Action.get_apply st)]
  simp only [Registry.binding?, hs, Option.map_none]
  rfl

theorem dispatchAddress_of_bound {a : Word} (ha : (registry st).slotAt? a = some k) :
    dispatchAddress x registry a block st = dispatch x registry k block st := by
  unfold dispatchAddress
  rw [Action.bind_of_ok (Action.get_apply st)]
  simp only [ha]
  rfl

theorem dispatchAddress_of_unknown {a : Word} (ha : (registry st).slotAt? a = none) :
    dispatchAddress x registry a block st = ⟨.ok (.error (.notFound (.address a))), st, []⟩ := by
  unfold dispatchAddress
  rw [Action.bind_of_ok (Action.get_apply st)]
  simp only [ha]
  rfl

end Dispatch

end CallBridge
