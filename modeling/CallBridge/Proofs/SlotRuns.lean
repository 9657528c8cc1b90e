import CallBridge.Proofs.SlotTable

/-!
Runs of operations on a slot table. Each operation is one of the four changes, so that what they
keep is kept by every run; and the only thing that can go wrong for good is an address outside of
the range of words, which costs the table one slot each time.
-/

namespace CallBridge

namespace Registry

variable {β : Type} {r : Registry β} {entry : Nat → Except Overflow Word}

section Allocate

variable {b : Binding β} {identity : Option Identity} {k : Nat} {free : List Nat}

theorem allocate_known {f : Allocation} (h : identity.bind r.registered? = some f) :
    r.allocate b identity entry = .ok f [] r := by
  simp only [allocate, h]

theorem allocate_full (h : identity.bind r.registered? = none) (hfree : r.free = []) :
    r.allocate b identity entry =
      .refuse (.capacityExceeded r.capacity) [.capacityExhausted r.capacity] r := by
  simp only [allocate, h, hfree]

theorem allocate_lost {o : Overflow} (h : identity.bind r.registered? = none)
    (hfree : r.free = k :: free) (he : entry k = .error o) :
    r.allocate b identity entry = .stop o [] { r with free } := by
  simp only [allocate, h, hfree, he]

theorem allocate_bound {a : Word} (h : identity.bind r.registered? = none)
    (hfree : r.free = k :: free) (he : entry k = .ok a) :
    r.allocate b identity entry = .ok { slot := k, address := a, reused := false } []
      ({ r with free }.bind k { binding := b, address := a, identity }) := by
  simp only [allocate, h, hfree, he]

theorem allocate_change (r : Registry β) (b : Binding β) (identity : Option Identity)
    (entry : Nat → Except Overflow Word) :
    Change entry r (r.allocate b identity entry).answer.isOverflow
      (r.allocate b identity entry).state := by
  cases hf : identity.bind r.registered? with
  | some f =>
    rw [allocate_known hf]
    exact .unchanged
  | none =>
    cases hfree : r.free with
    | nil =>
      rw [allocate_full hf hfree]
      exact .unchanged
    | cons k free =>
      cases he : entry k with
      | error o =>
        rw [allocate_lost hf hfree he]
        exact .loses hfree he
      | ok a =>
        rw [allocate_bound hf hfree he]
        refine .binds hfree he fun i hi => ?_
        have hid : identity = some i := hi
        simpa [hid] using hf

end Allocate

/-- A release is refused and changes nothing, or it unbinds a slot in use and reports so. -/
theorem release_cases (r : Registry β) (k : Nat) :
    (∃ e, r.release k = .refuse e [] r) ∨
      ∃ s, r.slot? k = some s ∧
        r.release k = .ok () [.callbackReleased k s.address] (r.unbind k s) := by
  unfold release
  cases hs : r.slot? k with
  | none => exact .inl ⟨_, rfl⟩
  | some s => exact .inr ⟨s, rfl, rfl⟩

theorem releaseAddress_cases (r : Registry β) (a : Word) :
    (∃ e, r.releaseAddress a = .refuse e [] r) ∨
      ∃ k s, r.slotAt? a = some k ∧ r.slot? k = some s ∧
        r.releaseAddress a = .ok k [.callbackReleased k a] (r.unbind k s) := by
  unfold releaseAddress
  cases r.slotAt? a with
  | none => exact .inl ⟨_, rfl⟩
  | some k =>
    cases hs : r.slot? k with
    | none => exact .inl ⟨.slotNotBound k, by simp only [hs]⟩
    | some s => exact .inr ⟨k, s, rfl, hs, by simp only [hs]⟩

theorem releaseIdentity_cases (r : Registry β) (i : Identity) :
    (∃ e, r.releaseIdentity i = .refuse e [] r) ∨
      ∃ k s, r.slot? k = some s ∧
        r.releaseIdentity i = .ok k [.callbackReleased k s.address] (r.unbind k s) := by
  unfold releaseIdentity
  cases r.registered? i with
  | none => exact .inl ⟨_, rfl⟩
  | some f =>
    cases hs : r.slot? f.slot with
    | none => exact .inl ⟨.slotNotBound f.slot, by simp only [hs]⟩
    | some s => exact .inr ⟨f.slot, s, hs, by simp only [hs]⟩

theorem release_change (r : Registry β) (k : Nat) :
    Change entry r (r.release k).answer.isOverflow (r.release k).state := by
  rcases r.release_cases k with ⟨e, h⟩ | ⟨s, hs, h⟩
  · rw [h]
    exact .unchanged
  · rw [h]
    exact .unbinds hs

theorem releaseAddress_change (r : Registry β) (a : Word) :
    Change entry r (r.releaseAddress a).answer.isOverflow (r.releaseAddress a).state := by
  rcases r.releaseAddress_cases a with ⟨e, h⟩ | ⟨k, s, -, hs, h⟩
  · rw [h]
    exact .unchanged
  · rw [h]
    exact .unbinds hs

theorem releaseIdentity_change (r : Registry β) (i : Identity) :
    Change entry r (r.releaseIdentity i).answer.isOverflow (r.releaseIdentity i).state := by
  rcases r.releaseIdentity_cases i with ⟨e, h⟩ | ⟨k, s, hs, h⟩
  · rw [h]
    exact .unchanged
  · rw [h]
    exact .unbinds hs

end Registry

theorem Trampoline.compile_change {β : Type} (t : Trampoline β) (held : HeldCallback β)
    (identity : Option Identity) :
    Registry.Change t.table.locate t.registry (t.compile held identity).answer.isOverflow
      (t.compile held identity).state.registry := by
  unfold compile
  cases identity.bind t.registry.addressOf? with
  | some a => exact .unchanged
  | none =>
    cases Signature.of held.callback with
    | error e => exact .unchanged
    | ok signature =>
      have h := t.registry.allocate_change ⟨held, signature⟩ identity t.table.locate
      revert h
      cases hr : (t.registry.allocate ⟨held, signature⟩ identity t.table.locate).answer <;>
        simp only [hr] <;> exact id

namespace Registry

variable {β : Type}

/-- Operations on a table, with whatever they are asked for. -/
inductive Operation (β : Type) where
  | compile (table : EntryTable) (held : HeldCallback β) (identity : Option Identity)
  | allocate (binding : Binding β) (identity : Option Identity)
      (entry : Nat → Except Overflow Word)
  | release (slot : Nat)
  | releaseAddress (address : Word)
  | releaseIdentity (identity : Identity)

namespace Operation

def perform (r : Registry β) : Operation β → Reply RegistrationError (Registry β) Unit
  | compile table held identity =>
    (((⟨r, table⟩ : Trampoline β).compile held identity).within Trampoline.registry).map fun _ => ()
  | allocate binding identity entry => (r.allocate binding identity entry).map fun _ => ()
  | release slot => r.release slot
  | releaseAddress address => (r.releaseAddress address).map fun _ => ()
  | releaseIdentity identity => (r.releaseIdentity identity).map fun _ => ()

/-- The addresses of slots, if the operation asks for any, are those that `entry` tells. -/
def TakesFrom (entry : Nat → Except Overflow Word) : Operation β → Prop
  | compile table _ _ => table.locate = entry
  | allocate _ _ f => f = entry
  | _ => True

theorem exists_takesFrom (o : Operation β) : ∃ entry, o.TakesFrom entry := by
  cases o with
  | compile table => exact ⟨table.locate, rfl⟩
  | allocate _ _ entry => exact ⟨entry, rfl⟩
  | _ => exact ⟨fun _ => .error .add, trivial⟩

@[simp] theorem isOverflow_map {ε α γ : Type} (f : α → γ) (v : Verdict ε α) :
    (v.map f).isOverflow = v.isOverflow := by cases v <;> rfl

theorem perform_change {entry : Nat → Except Overflow Word} (o : Operation β) (r : Registry β)
    (h : o.TakesFrom entry) :
    Change entry r (o.perform r).answer.isOverflow (o.perform r).state := by
  cases o with
  | compile table held identity =>
    have hc := Trampoline.compile_change ⟨r, table⟩ held identity
    rw [show table.locate = entry from h] at hc
    simpa [perform, Reply.map, Reply.within] using hc
  | allocate binding identity f =>
    have hc := r.allocate_change binding identity f
    rw [show f = entry from h] at hc ⊢
    simpa [perform, Reply.map] using hc
  | release slot => exact r.release_change slot
  | releaseAddress address => simpa [perform, Reply.map] using r.releaseAddress_change address
  | releaseIdentity identity => simpa [perform, Reply.map] using r.releaseIdentity_change identity

end Operation

/-- The table after operations in order. -/
def run : List (Operation β) → Registry β → Registry β
  | [], r => r
  | o :: ops, r => run ops (o.perform r).state

/-- How many operations of a run stopped at an overflow. -/
def losses : List (Operation β) → Registry β → Nat
  | [], _ => 0
  | o :: ops, r => (o.perform r).answer.isOverflow.toNat + losses ops (o.perform r).state

theorem run_accounted {r : Registry β} (h : Accounted r) (ops : List (Operation β)) :
    Accounted (run ops r) ∧ (run ops r).capacity = r.capacity ∧
      (run ops r).lost.card = r.lost.card + losses ops r := by
  induction ops generalizing r with
  | nil => exact ⟨h, rfl, rfl⟩
  | cons o ops ih =>
    obtain ⟨entry, ho⟩ := o.exists_takesFrom
    have hc := o.perform_change r ho
    obtain ⟨hrun, hcap, hlost⟩ := ih (h.change hc)
    refine ⟨hrun, hcap.trans hc.capacity, hlost.trans ?_⟩
    rw [h.lost_change hc, losses, Nat.add_assoc]

theorem run_indexed {r : Registry β} {entry : Nat → Except Overflow Word} (h : Accounted r)
    (hi : Indexed entry r) (hsep : Separates entry r.capacity) (ops : List (Operation β))
    (hops : ∀ o ∈ ops, o.TakesFrom entry) : Indexed entry (run ops r) := by
  induction ops generalizing r with
  | nil => exact hi
  | cons o ops ih =>
    obtain ⟨ho, hrest⟩ := List.forall_mem_cons.1 hops
    have hc := o.perform_change r ho
    exact ih (h.change hc) (hi.change h hsep hc) (hc.capacity ▸ hsep) hrest

/-- Addresses within the range of words leave no slot behind. -/
theorem losses_eq_zero {r : Registry β} {entry : Nat → Except Overflow Word} (h : Accounted r)
    (hentry : ∀ k < r.capacity, ∃ a, entry k = .ok a) (ops : List (Operation β))
    (hops : ∀ o ∈ ops, o.TakesFrom entry) : losses ops r = 0 := by
  induction ops generalizing r with
  | nil => rfl
  | cons o ops ih =>
    obtain ⟨ho, hrest⟩ := List.forall_mem_cons.1 hops
    have hc := o.perform_change r ho
    rw [losses, ih (h.change hc) (hc.capacity ▸ hentry) hrest, h.not_stopped hentry hc]
    rfl

theorem create_eq_ok {n : Nat} (h : create n = .ok r) : n < wordCount / 2 ∧ r = empty n := by
  unfold create at h
  split_ifs at h with hzero hlarge
  cases h
  have hbytes : n * 1 ≤ n * slotBytes := Nat.mul_le_mul_left n (by decide)
  exact ⟨by omega, rfl⟩

/-- The books of a table after any run. The free stack names no slot twice and none that is in use.
It names all the others, so that the number of live slots is that of the slots in use, exactly if no
address overflowed on the way; otherwise the difference is the number of overflows. If all addresses
come from one table that serves every slot, none overflows, and both indexes mirror the slots. -/
theorem run_bookkeeping {n : Nat} (hcreate : create n = .ok r) (ops : List (Operation β)) :
    let r' := run ops r
    r'.free.Nodup ∧ (∀ k ∈ r'.free, k < n ∧ r'.slot? k = none) ∧
      r'.live = r'.bound.card + losses ops r ∧
      ((∀ k < n, k ∈ r'.free ↔ r'.slot? k = none) ↔ losses ops r = 0) ∧
      ∀ table : EntryTable, table.Serves n → (∀ o ∈ ops, o.TakesFrom table.locate) →
        losses ops r = 0 ∧
        (∀ a k, r'.slotAt? a = some k ↔
          ∃ s, r'.slot? k = some s ∧ s.address = a ∧ a = table.entry k) ∧
        (∀ i a, r'.addressOf? i = some a ↔
          ∃ k s, r'.slot? k = some s ∧ s.identity = some i ∧ s.address = a) ∧
        ∀ i j k s t, r'.slot? j = some s → r'.slot? k = some t →
          s.identity = some i → t.identity = some i → j = k := by
  intro r'
  obtain ⟨-, rfl⟩ := create_eq_ok hcreate
  have hstart : Accounted (empty n : Registry β) := empty_accounted n
  obtain ⟨hacc, hcap, hlost⟩ := run_accounted hstart ops
  have hcap' : r'.capacity = n := hcap
  have hlost' : r'.lost.card = losses ops (empty n) := by simpa [empty_lost] using hlost
  refine ⟨hacc.free_nodup, fun k hk => ⟨hcap' ▸ hacc.free_lt k hk, hacc.free_unbound k hk⟩,
    hlost' ▸ hacc.live_eq, ?_, ?_⟩
  · rw [← hlost', Finset.card_eq_zero, ← hacc.free_iff, hcap']
  · intro table hserves hops
    have hentry : ∀ k < n, ∃ a, table.locate k = .ok a := fun k hk => ⟨_, hserves.locate k hk⟩
    have hindexed : Indexed table.locate r' :=
      run_indexed hstart (empty_indexed n) hserves.separates ops hops
    refine ⟨losses_eq_zero hstart hentry ops hops, ?_, fun i a => hindexed.addressOf_iff,
      fun i j k s t => hindexed.identity_unique⟩
    intro a k
    rw [hindexed.slotAt_iff]
    refine exists_congr fun s => and_congr_right fun hs => ⟨fun ha => ⟨ha, ?_⟩, And.left⟩
    have hk : k < n := hcap' ▸ hacc.slot_lt hs
    have hlocated := hindexed.entry_slot hs
    rw [hserves.locate k hk] at hlocated
    exact ha ▸ (Except.ok.inj hlocated).symm

/-- A run over two slots that registers a shared callback twice, finds the table full, and releases
by address and by an identity that is gone by then. -/
theorem run_bookkeeping_two_slots :
    let table : EntryTable := { base := 0x1000, stride := 5 }
    let held : HeldCallback Unit := { callback := { params := [], results := [], body := () } }
    let ops : List (Operation Unit) :=
      [.compile table held (some (.own 0)), .compile table held (some (.own 0)),
        .compile table held none, .compile table held none, .releaseAddress 0x1000,
        .releaseIdentity (.own 0), .release 7]
    create 2 = .ok (empty 2 : Registry Unit) ∧ table.Serves 2 ∧
      (∀ o ∈ ops, o.TakesFrom table.locate) ∧
      (run ops (empty 2)).live = (run ops (empty 2)).bound.card + losses ops (empty 2) ∧
      losses ops (empty 2) = 0 ∧
      ∀ a k, (run ops (empty 2)).slotAt? a = some k ↔
        ∃ s, (run ops (empty 2)).slot? k = some s ∧ s.address = a ∧ a = table.entry k := by
  intro table held ops
  have hcreate : create 2 = .ok (empty 2 : Registry Unit) := rfl
  have hserves : table.Serves 2 := ⟨by decide, by decide⟩
  have hops : ∀ o ∈ ops, o.TakesFrom table.locate := by
    simp [ops, Operation.TakesFrom]
  obtain ⟨-, -, hlive, -, htable⟩ := run_bookkeeping hcreate ops
  obtain ⟨hlosses, haddresses, -⟩ := htable table hserves hops
  exact ⟨hcreate, hserves, hops, hlive, hlosses, haddresses⟩

/-- At the end of the address space the second of two slots is neither free nor in use, and counts
as live all the same. -/
theorem overflow_costs_a_slot :
    let table : EntryTable := { base := BitVec.allOnes 64, stride := 1 }
    let held : HeldCallback Unit := { callback := { params := [], results := [], body := () } }
    let r := run [.compile table held none, .compile table held none] (empty 2)
    1 ∉ r.free ∧ r.slot? 1 = none ∧ r.live = 2 ∧ r.bound.card = 1 := by
  decide

end Registry

end CallBridge
