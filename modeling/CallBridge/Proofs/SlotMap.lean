import CallBridge.Proofs.Registrations
import Mathlib.Data.Finmap

/-!
A trampoline is a finite map from slots to registrations. The map says which answers are right; it
leaves open only which unused slot a new registration gets. Slots, free stack and both indexes
answer as the map does, along every run.
-/

namespace CallBridge

/-- What a slot is bound to. -/
structure Registration (β : Type) where
  held : HeldCallback β
  identity : Option Identity

def Slot.registration {β : Type} (s : Slot β) : Registration β where
  held := s.binding.held
  identity := s.identity

abbrev SlotMap (β : Type) := Finmap fun _ : Nat => Registration β

namespace SlotMap

variable {β σ : Type}

/-- The slot is bound under the identity. -/
def Carries (m : SlotMap β) (k : Nat) (i : Identity) : Prop :=
  ∃ e, m.lookup k = some e ∧ e.identity = some i

/-- No slot is bound under the identity, if there is one. -/
def Fresh (m : SlotMap β) (identity : Option Identity) : Prop :=
  ∀ i, identity = some i → ∀ k, ¬ m.Carries k i

/-- The right answers to an operation over `n` slots, and the map after it. -/
inductive Step (table : EntryTable) (n : Nat) (m : SlotMap β) :
    Trampoline.Operation β → Verdict RegistrationError (Option Word) → SlotMap β → Prop where
  | known {o held i k} (ho : o.request? = some (held, some i)) (hk : m.Carries k i) :
      Step table n m o (.ok (some (table.entry k))) m
  | rejected {o held identity e} (ho : o.request? = some (held, identity))
      (hnew : m.Fresh identity) (hsig : Signature.of held.callback = .error e) :
      Step table n m o (.error e) m
  | full {o held identity signature} (ho : o.request? = some (held, identity))
      (hnew : m.Fresh identity) (hsig : Signature.of held.callback = .ok signature)
      (hcard : m.keys.card = n) : Step table n m o (.error (.capacityExceeded n)) m
  | registered {o held identity signature k} (ho : o.request? = some (held, identity))
      (hnew : m.Fresh identity) (hsig : Signature.of held.callback = .ok signature)
      (hcard : m.keys.card ≠ n) (hlt : k < n) (hk : k ∉ m) :
      Step table n m o (.ok (some (table.entry k))) (m.insert k { held, identity })
  | unregistered {k} (hk : k ∈ m) :
      Step table n m (.unregister (table.entry k)) (.ok none) (m.erase k)
  | unknownAddress {a} (ha : ∀ k ∈ m, table.entry k ≠ a) :
      Step table n m (.unregister a) (.error (.notFound (.address a))) m
  | unregisteredShared {i k} (hk : m.Carries k i) :
      Step table n m (.unregisterShared i) (.ok none) (m.erase k)
  | unknownIdentity {i} (hi : ∀ k, ¬ m.Carries k i) :
      Step table n m (.unregisterShared i) (.error (.notFound (.identity i))) m
  | released {k} (hk : k ∈ m) : Step table n m (.release k) (.ok none) (m.erase k)
  | notBound {k} (hk : k ∉ m) : Step table n m (.release k) (.error (.slotNotBound k)) m

/-- Operations in order, with their right answers. -/
inductive Steps (table : EntryTable) (n : Nat) :
    SlotMap β → List (Trampoline.Operation β) → List (Verdict RegistrationError (Option Word)) →
      SlotMap β → Prop where
  | nil {m} : Steps table n m [] [] m
  | cons {m o v m' ops vs m''} (hstep : Step table n m o v m')
      (hrest : Steps table n m' ops vs m'') :
      Steps table n m (o :: ops) (v :: vs) m''

/-- The trampoline over `n` slots of a table holds what the map says, and no slot is lost. -/
structure Shows (table : EntryTable) (n : Nat) (t : Trampoline β) (m : SlotMap β) : Prop where
  sound : t.Sound
  table_eq : t.table = table
  capacity_eq : t.registry.capacity = n
  lost_eq : t.registry.lost = ∅
  lookup_eq : ∀ k, m.lookup k = (t.registry.slot? k).map Slot.registration

namespace Shows

variable {table : EntryTable} {n : Nat} {t : Trampoline β} {m : SlotMap β} {k : Nat} {s : Slot β}

theorem empty (table : EntryTable) (n : Nat) :
    Shows table n ({ registry := .empty n, table } : Trampoline β) ∅ where
  sound := Trampoline.empty_sound table n
  table_eq := rfl
  capacity_eq := rfl
  lost_eq := Registry.empty_lost n
  lookup_eq k := by simp

theorem indexed (h : Shows table n t m) : t.registry.Indexed table.locate :=
  h.table_eq ▸ h.sound.indexed

theorem mem_iff (h : Shows table n t m) : k ∈ m ↔ ∃ s, t.registry.slot? k = some s := by
  rw [Finmap.mem_iff, h.lookup_eq]
  cases t.registry.slot? k <;> simp

theorem notMem_iff (h : Shows table n t m) : k ∉ m ↔ t.registry.slot? k = none := by
  rw [h.mem_iff]
  cases t.registry.slot? k <;> simp

theorem carries_iff (h : Shows table n t m) {i : Identity} :
    m.Carries k i ↔ ∃ s, t.registry.slot? k = some s ∧ s.identity = some i := by
  unfold Carries
  rw [h.lookup_eq]
  cases t.registry.slot? k <;> simp [Slot.registration]

theorem slot_lt (h : Shows table n t m) (hs : t.registry.slot? k = some s) : k < n :=
  h.capacity_eq ▸ h.sound.accounted.slot_lt hs

theorem mem_lt (h : Shows table n t m) (hk : k ∈ m) : k < n := by
  obtain ⟨s, hs⟩ := h.mem_iff.1 hk
  exact h.slot_lt hs

theorem address_eq (h : Shows table n t m) (hserves : table.Serves n)
    (hs : t.registry.slot? k = some s) : s.address = table.entry k := by
  have hlocated := h.indexed.entry_slot hs
  rw [hserves.locate k (h.slot_lt hs)] at hlocated
  exact (Except.ok.inj hlocated).symm

theorem keys_eq (h : Shows table n t m) : m.keys = t.registry.bound := by
  ext k
  rw [Finmap.mem_keys, h.mem_iff, Registry.mem_bound]
  constructor
  · rintro ⟨s, hs⟩
    exact ⟨h.sound.accounted.slot_lt hs, by simp [hs]⟩
  · rintro ⟨-, hs⟩
    exact Option.ne_none_iff_exists'.1 hs

theorem live_eq (h : Shows table n t m) : t.live = m.keys.card := by
  rw [Trampoline.live, h.sound.accounted.live_eq, h.lost_eq, h.keys_eq]
  rfl

/-- All slots are in use exactly if the free stack is empty. -/
theorem card_eq_iff (h : Shows table n t m) : m.keys.card = n ↔ t.registry.free = [] := by
  rw [← h.live_eq, ← h.sound.accounted.live_eq_capacity, h.capacity_eq]
  rfl

theorem addressOf?_eq_some (h : Shows table n t m) (hserves : table.Serves n)
    {i : Identity} {a : Word} :
    t.registry.addressOf? i = some a ↔ ∃ k, m.Carries k i ∧ table.entry k = a := by
  rw [h.indexed.addressOf_iff]
  constructor
  · rintro ⟨k, s, hs, hi, ha⟩
    exact ⟨k, h.carries_iff.2 ⟨s, hs, hi⟩, (h.address_eq hserves hs).symm.trans ha⟩
  · rintro ⟨k, hk, ha⟩
    obtain ⟨s, hs, hi⟩ := h.carries_iff.1 hk
    exact ⟨k, s, hs, hi, (h.address_eq hserves hs).trans ha⟩

theorem slotAt?_eq_some (h : Shows table n t m) (hserves : table.Serves n) {a : Word} :
    t.registry.slotAt? a = some k ↔ k ∈ m ∧ table.entry k = a := by
  rw [h.indexed.slotAt_iff, h.mem_iff]
  constructor
  · rintro ⟨s, hs, ha⟩
    exact ⟨⟨s, hs⟩, (h.address_eq hserves hs).symm.trans ha⟩
  · rintro ⟨⟨s, hs⟩, ha⟩
    exact ⟨s, hs, (h.address_eq hserves hs).trans ha⟩

theorem fresh_iff (h : Shows table n t m) {identity : Option Identity} :
    m.Fresh identity ↔ identity.bind t.registry.addressOf? = none := by
  cases identity with
  | none => simp [Fresh]
  | some i =>
    rw [Option.bind_some, Registry.addressOf?_eq_none h.indexed]
    constructor
    · intro hnew k s hs hi
      exact hnew i rfl k (h.carries_iff.2 ⟨s, hs, hi⟩)
    · rintro hall j ⟨⟩ k hk
      obtain ⟨s, hs, hi⟩ := h.carries_iff.1 hk
      exact hall k s hs hi

/-- Registering fills one unused slot of the map. -/
theorem bind (h : Shows table n t m) {free : List Nat} (hfree : t.registry.free = k :: free)
    (hsound : Trampoline.Sound { t with registry := { t.registry with free }.bind k s })
    (hlost : ({ t.registry with free }.bind k s).lost = ∅) :
    Shows table n { t with registry := { t.registry with free }.bind k s }
      (m.insert k s.registration) where
  sound := hsound
  table_eq := h.table_eq
  capacity_eq := h.capacity_eq
  lost_eq := hlost
  lookup_eq j := by
    obtain ⟨hpop, hk, -, -⟩ := h.sound.accounted.pop hfree
    rw [Registry.slot?_bind (hpop.slots_length ▸ hk)]
    by_cases hj : j = k
    · rw [if_pos hj, hj, Finmap.lookup_insert]
      rfl
    · rw [if_neg hj, Finmap.lookup_insert_of_ne _ hj]
      exact h.lookup_eq j

/-- Releasing takes one slot from the map. -/
theorem unbind (h : Shows table n t m)
    (hsound : Trampoline.Sound { t with registry := t.registry.unbind k s })
    (hlost : (t.registry.unbind k s).lost = ∅) :
    Shows table n { t with registry := t.registry.unbind k s } (m.erase k) where
  sound := hsound
  table_eq := h.table_eq
  capacity_eq := h.capacity_eq
  lost_eq := hlost
  lookup_eq j := by
    rw [Registry.slot?_unbind]
    by_cases hj : j = k
    · rw [if_pos hj, hj, Finmap.lookup_erase]
      rfl
    · rw [if_neg hj, Finmap.lookup_erase_ne hj]
      exact h.lookup_eq j

theorem separates (h : Shows table n t m) (hserves : table.Serves n) :
    Separates t.table.locate t.registry.capacity := by
  rw [h.table_eq, h.capacity_eq]
  exact hserves.separates

/-- Over a table that serves every slot no operation stops, so none loses a slot. -/
theorem kept (h : Shows table n t m) (hserves : table.Serves n) (o : Trampoline.Operation β) :
    (o.perform t).state.Sound ∧ (o.perform t).state.registry.lost = ∅ := by
  have hc := o.perform_change t
  have hentry : ∀ k < t.registry.capacity, ∃ a, t.table.locate k = .ok a := by
    intro k hk
    rw [h.table_eq]
    exact ⟨_, hserves.locate k (h.capacity_eq ▸ hk)⟩
  have hstop := h.sound.accounted.not_stopped hentry hc
  have hlost := h.sound.accounted.lost_change hc
  rw [hstop, h.lost_eq] at hlost
  exact ⟨h.sound.perform (h.separates hserves) o, Finset.card_eq_zero.1 hlost⟩

theorem step_request (h : Shows table n t m) (hserves : table.Serves n)
    {o : Trampoline.Operation β} {held : HeldCallback β} {identity : Option Identity}
    (ho : o.request? = some (held, identity)) :
    ∃ m', Step table n m o (o.perform t).answer m' ∧ Shows table n (o.perform t).state m' := by
  obtain ⟨hsound, hlost⟩ := h.kept hserves o
  rw [o.perform_of_request ho] at hsound hlost ⊢
  cases hknown : identity.bind t.registry.addressOf? with
  | some a =>
    obtain ⟨i, rfl, ha⟩ := Option.bind_eq_some_iff.1 hknown
    obtain ⟨k, hk, rfl⟩ := (h.addressOf?_eq_some hserves).1 ha
    rw [Trampoline.compile_known hknown]
    exact ⟨m, .known ho hk, h⟩
  | none =>
    have hnew := h.fresh_iff.2 hknown
    cases hsig : Signature.of held.callback with
    | error e =>
      rw [Trampoline.compile_rejected hknown hsig]
      exact ⟨m, .rejected ho hnew hsig, h⟩
    | ok signature =>
      cases hfree : t.registry.free with
      | nil =>
        rw [Trampoline.compile_full hknown hsig hfree, h.capacity_eq]
        exact ⟨m, .full ho hnew hsig (h.card_eq_iff.2 hfree), h⟩
      | cons k free =>
        obtain ⟨-, hlt, -, hslot⟩ := h.sound.accounted.pop hfree
        have hk : k < n := h.capacity_eq ▸ hlt
        have he : t.table.locate k = .ok (table.entry k) := by
          rw [h.table_eq]
          exact hserves.locate k hk
        have hcard : m.keys.card ≠ n := fun hn => by
          rw [h.card_eq_iff.1 hn] at hfree
          contradiction
        rw [Trampoline.compile_bound hknown hsig hfree he] at hsound hlost ⊢
        exact ⟨_, .registered ho hnew hsig hcard hk (h.notMem_iff.2 hslot),
          h.bind hfree hsound hlost⟩

theorem step_unregister (h : Shows table n t m) (hserves : table.Serves n) (a : Word) :
    ∃ m', Step table n m (.unregister a) ((Trampoline.Operation.unregister a).perform t).answer m' ∧
      Shows table n ((Trampoline.Operation.unregister a).perform t).state m' := by
  obtain ⟨hsound, hlost⟩ := h.kept hserves (.unregister a)
  rw [Trampoline.Operation.perform] at hsound hlost ⊢
  cases ha : t.registry.slotAt? a with
  | none =>
    have hunknown : ∀ k ∈ m, table.entry k ≠ a := by
      intro k hk he
      rw [(h.slotAt?_eq_some hserves).2 ⟨hk, he⟩] at ha
      contradiction
    rw [Trampoline.unregister_of_unknown ha]
    exact ⟨m, .unknownAddress hunknown, h⟩
  | some k =>
    obtain ⟨s, hs, rfl⟩ := h.indexed.slotAt_iff.1 ha
    rw [Trampoline.unregister_of_bound h.sound hs] at hsound hlost ⊢
    refine ⟨m.erase k, ?_, h.unbind hsound hlost⟩
    rw [h.address_eq hserves hs]
    exact .unregistered (h.mem_iff.2 ⟨s, hs⟩)

theorem step_unregisterShared (h : Shows table n t m) (hserves : table.Serves n) (i : Identity) :
    ∃ m', Step table n m (.unregisterShared i)
        ((Trampoline.Operation.unregisterShared i).perform t).answer m' ∧
      Shows table n ((Trampoline.Operation.unregisterShared i).perform t).state m' := by
  obtain ⟨hsound, hlost⟩ := h.kept hserves (.unregisterShared i)
  rw [Trampoline.Operation.perform] at hsound hlost ⊢
  cases hi : t.registry.addressOf? i with
  | none =>
    have hunknown : ∀ k, ¬ m.Carries k i := h.fresh_iff.2 (by simpa using hi) i rfl
    rw [Trampoline.unregisterShared_of_unknown hi]
    exact ⟨m, .unknownIdentity hunknown, h⟩
  | some a =>
    obtain ⟨k, s, hs, hsi, -⟩ := h.indexed.addressOf_iff.1 hi
    rw [Trampoline.unregisterShared_of_bound h.sound hs hsi] at hsound hlost ⊢
    exact ⟨m.erase k, .unregisteredShared (h.carries_iff.2 ⟨s, hs, hsi⟩), h.unbind hsound hlost⟩

theorem step_release (h : Shows table n t m) (hserves : table.Serves n) (k : Nat) :
    ∃ m', Step table n m (.release k) ((Trampoline.Operation.release k).perform t).answer m' ∧
      Shows table n ((Trampoline.Operation.release k).perform t).state m' := by
  obtain ⟨hsound, hlost⟩ := h.kept hserves (.release k)
  rw [Trampoline.Operation.perform] at hsound hlost ⊢
  cases hs : t.registry.slot? k with
  | none =>
    rw [Trampoline.release_of_free hs]
    exact ⟨m, .notBound (h.notMem_iff.2 hs), h⟩
  | some s =>
    rw [Trampoline.release_of_bound hs] at hsound hlost ⊢
    exact ⟨m.erase k, .released (h.mem_iff.2 ⟨s, hs⟩), h.unbind hsound hlost⟩

/-- Each operation answers as the map does and leaves what the map says. -/
theorem step (h : Shows table n t m) (hserves : table.Serves n) (o : Trampoline.Operation β) :
    ∃ m', Step table n m o (o.perform t).answer m' ∧ Shows table n (o.perform t).state m' := by
  cases o with
  | register c => exact h.step_request hserves rfl
  | registerShared c => exact h.step_request hserves rfl
  | compile held identity => exact h.step_request hserves rfl
  | unregister a => exact h.step_unregister hserves a
  | unregisterShared i => exact h.step_unregisterShared hserves i
  | release k => exact h.step_release hserves k

end Shows

end SlotMap

namespace Trampoline

variable {β : Type}

/-- The answers to operations in order, and the trampoline after them. -/
def run : List (Operation β) → Trampoline β →
    List (Verdict RegistrationError (Option Word)) × Trampoline β
  | [], t => ([], t)
  | o :: ops, t =>
    let rest := run ops (o.perform t).state
    ((o.perform t).answer :: rest.1, rest.2)

theorem run_append (ops rest : List (Operation β)) (t : Trampoline β) :
    (run (ops ++ rest) t).2 = (run rest (run ops t).2).2 := by
  induction ops generalizing t with
  | nil => rfl
  | cons o ops ih => exact ih (o.perform t).state

theorem Guarded.run {t : Trampoline β} (h : t.Guarded) (ops : List (Operation β)) :
    (run ops t).2.Guarded := by
  induction ops generalizing t with
  | nil => exact h
  | cons o ops ih => exact ih (h.perform o)

theorem Sound.run {t : Trampoline β} (h : t.Sound)
    (hsep : Separates t.table.locate t.registry.capacity) (ops : List (Operation β)) :
    (run ops t).2.Sound := by
  induction ops generalizing t with
  | nil => exact h
  | cons o ops ih =>
    refine ih (h.perform hsep o) ?_
    rw [o.perform_table t, (o.perform_change t).capacity]
    exact hsep

theorem Orderly.run {t : Trampoline β} (h : t.Orderly) (ops : List (Operation β)) :
    (run ops t).2.Orderly := by
  induction ops generalizing t with
  | nil => exact h
  | cons o ops ih => exact ih (h.perform o)

/-- A whole run answers as the map does, step by step. -/
theorem run_shows {table : EntryTable} {n : Nat} (hserves : table.Serves n)
    (ops : List (Operation β)) {t : Trampoline β} {m : SlotMap β}
    (h : SlotMap.Shows table n t m) :
    ∃ m', SlotMap.Steps table n m ops (run ops t).1 m' ∧
      SlotMap.Shows table n (run ops t).2 m' := by
  induction ops generalizing t m with
  | nil => exact ⟨m, .nil, h⟩
  | cons o ops ih =>
    obtain ⟨m₁, hstep, hnext⟩ := h.step hserves o
    obtain ⟨m', hrest, hend⟩ := ih hnext
    exact ⟨m', .cons hstep hrest, hend⟩

/-- Any run over a table that serves every slot answers as a finite map from slots to registrations
does, and what is asked of the trampoline afterwards is answered out of the map: the counts, both
directions of lookup, and dispatching by slot and by address. Dispatching takes the callback before
the body starts, so that operations of the body are further operations of the run. -/
theorem run_refines_map {table : EntryTable} {n : Nat} {t₀ : Trampoline β}
    (hcreate : create table n = .ok t₀) (hserves : table.Serves n) (ops : List (Operation β)) :
    let t := (run ops t₀).2
    ∃ m : SlotMap β, SlotMap.Steps table n ∅ ops (run ops t₀).1 m ∧
      (∀ k ∈ m, k < n) ∧ t.capacity = n ∧ t.live = m.keys.card ∧
      (∀ k, (t.registry.binding? k).map Binding.held = (m.lookup k).map Registration.held) ∧
      (∀ a k, t.registry.slotAt? a = some k ↔ k ∈ m ∧ table.entry k = a) ∧
      (∀ i a, t.registry.addressOf? i = some a ↔ ∃ k, m.Carries k i ∧ table.entry k = a) ∧
      ∀ {σ : Type} (x : Execution β σ) (registry : σ → Registry β) (block : Block) (st : σ),
        registry st = t.registry →
        (∀ k e, m.lookup k = some e → ∃ signature,
          Signature.of e.held.callback = .ok signature ∧
          dispatch x registry k block st = Binding.runAt x ⟨e.held, signature⟩ k block st ∧
          dispatchAddress x registry (table.entry k) block st =
            Binding.runAt x ⟨e.held, signature⟩ k block st) ∧
        (∀ k ∉ m, dispatch x registry k block st = ⟨.ok (.error (.slotNotBound k)), st, []⟩) ∧
        ∀ a, (∀ k ∈ m, table.entry k ≠ a) → dispatchAddress x registry a block st =
          ⟨.ok (.error (.notFound (.address a))), st, []⟩ := by
  intro t
  obtain ⟨-, rfl⟩ := create_eq_ok hcreate
  obtain ⟨m, hsteps, h⟩ := run_shows hserves ops (SlotMap.Shows.empty table n)
  refine ⟨m, hsteps, fun k hk => h.mem_lt hk, h.capacity_eq, h.live_eq, ?_,
    fun a k => h.slotAt?_eq_some hserves, fun i a => h.addressOf?_eq_some hserves, ?_⟩
  · intro k
    rw [h.lookup_eq, Registry.binding?, Option.map_map, Option.map_map]
    rfl
  · intro σ x registry block st hst
    refine ⟨?_, ?_, ?_⟩
    · intro k e he
      rw [h.lookup_eq, Option.map_eq_some_iff] at he
      obtain ⟨s, hs, rfl⟩ := he
      have hk : (registry st).slotAt? (table.entry k) = some k := by
        rw [hst]
        exact (h.slotAt?_eq_some hserves).2 ⟨h.mem_iff.2 ⟨s, hs⟩, rfl⟩
      have hrun : dispatch x registry k block st =
          s.binding.runAt x k block st := dispatch_of_bound (hst ▸ hs)
      exact ⟨s.binding.signature, h.sound.validated k s hs, hrun,
        (dispatchAddress_of_bound hk).trans hrun⟩
    · intro k hk
      exact dispatch_of_free (hst ▸ h.notMem_iff.1 hk)
    · intro a ha
      refine dispatchAddress_of_unknown ?_
      rw [hst, Option.eq_none_iff_forall_ne_some]
      intro k hk
      obtain ⟨hmem, he⟩ := (h.slotAt?_eq_some hserves).1 hk
      exact ha k hmem he

/-- Two slots: a shared callback that is registered again when the table is full, one callback too
many, a release of the shared one by its plain address, and a rebinding of its slot. -/
theorem run_refines_map_two_slots :
    let table : EntryTable := { base := 0x1000, stride := 5 }
    let c : Callback Unit := { params := [], results := [], body := () }
    let t₀ : Trampoline Unit := { registry := .empty 2, table }
    let ops : List (Operation Unit) :=
      [.registerShared ⟨c, .own 0⟩, .register c, .registerShared ⟨c, .own 0⟩, .register c,
        .unregister 0x1000, .unregisterShared (.own 0), .register c]
    create table 2 = .ok t₀ ∧ table.Serves 2 ∧
      (run ops t₀).1 =
        [.ok (some 0x1000), .ok (some 0x1005), .ok (some 0x1000), .error (.capacityExceeded 2),
          .ok none, .error (.notFound (.identity (.own 0))), .ok (some 0x1000)] ∧
      ∃ m : SlotMap Unit, SlotMap.Steps table 2 ∅ ops (run ops t₀).1 m ∧
        (run ops t₀).2.live = m.keys.card := by
  intro table c t₀ ops
  have hcreate : create table 2 = .ok t₀ := rfl
  have hserves : table.Serves 2 := ⟨by decide, by decide⟩
  obtain ⟨m, hsteps, -, -, hlive, -⟩ := run_refines_map hcreate hserves ops
  exact ⟨hcreate, hserves, by decide, m, hsteps, hlive⟩

end Trampoline

end CallBridge
