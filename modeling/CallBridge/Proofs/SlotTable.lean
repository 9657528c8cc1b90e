import CallBridge.Trampoline
import Mathlib.Data.Finset.Card
import Mathlib.Data.Finset.Range
import Mathlib.Tactic.ByContra

/-!
Bookkeeping of the slot table. Every operation leaves the table as it is, takes a slot from the
free stack, or gives one back; what a table keeps is proved once for these four changes. A slot
whose address leaves the range of words is taken from the stack and bound to nothing, and no
operation ever gives it back: such slots are counted as lost.
-/

namespace CallBridge

def Verdict.isOverflow {ε α : Type} : Verdict ε α → Bool
  | overflow _ => true
  | _ => false

/-- Slots below `n` that have addresses have different ones. -/
def Separates (entry : Nat → Except Overflow Word) (n : Nat) : Prop :=
  ∀ j k a, j < n → k < n → entry j = .ok a → entry k = .ok a → j = k

/-- Slots below `n` have entries of their own within the range of words. -/
structure EntryTable.Serves (t : EntryTable) (n : Nat) : Prop where
  locate : ∀ k < n, t.locate k = .ok (t.entry k)
  injective : ∀ j < n, ∀ k < n, t.entry j = t.entry k → j = k

theorem EntryTable.Serves.separates {t : EntryTable} {n : Nat} (h : t.Serves n) :
    Separates t.locate n := by
  intro j k a hj hk haj hak
  rw [h.locate j hj] at haj
  rw [h.locate k hk] at hak
  exact h.injective j hj k hk (Except.ok.inj (haj.trans hak.symm))

namespace Registry

variable {β : Type} {r r' : Registry β} {entry : Nat → Except Overflow Word}

/-- Slots in use. -/
def bound (r : Registry β) : Finset Nat :=
  (Finset.range r.capacity).filter fun k => (r.slot? k).isSome

/-- Slots that are neither free nor in use. -/
def lost (r : Registry β) : Finset Nat :=
  (Finset.range r.capacity).filter fun k => k ∉ r.free ∧ r.slot? k = none

/-- What a table keeps, whatever the addresses of its slots. -/
structure Accounted (r : Registry β) : Prop where
  slots_length : r.slots.length = r.capacity
  free_nodup : r.free.Nodup
  free_lt : ∀ k ∈ r.free, k < r.capacity
  free_unbound : ∀ k ∈ r.free, r.slot? k = none

/-- The indexes tell what is in the slots, and `entry` the addresses of the slots. -/
structure Indexed (entry : Nat → Except Overflow Word) (r : Registry β) : Prop where
  entry_slot : ∀ {k s}, r.slot? k = some s → entry k = .ok s.address
  slotAt_iff : ∀ {a k}, r.slotAt? a = some k ↔ ∃ s, r.slot? k = some s ∧ s.address = a
  addressOf_iff : ∀ {i a}, r.addressOf? i = some a ↔
    ∃ k s, r.slot? k = some s ∧ s.identity = some i ∧ s.address = a
  identity_unique : ∀ {i j k s t}, r.slot? j = some s → r.slot? k = some t →
    s.identity = some i → t.identity = some i → j = k

/-- What one operation makes of a table, and whether it stopped at an overflow. -/
inductive Change (entry : Nat → Except Overflow Word) (r : Registry β) :
    Bool → Registry β → Prop where
  | unchanged : Change entry r false r
  | loses {k free o} (hfree : r.free = k :: free) (hentry : entry k = .error o) :
      Change entry r true { r with free }
  | binds {k free} {s : Slot β} (hfree : r.free = k :: free) (hentry : entry k = .ok s.address)
      (hnew : ∀ i, s.identity = some i → r.registered? i = none) :
      Change entry r false ({ r with free }.bind k s)
  | unbinds {k s} (hslot : r.slot? k = some s) : Change entry r false (r.unbind k s)

theorem Change.capacity {b : Bool} (h : Change entry r b r') : r'.capacity = r.capacity := by
  cases h <;> rfl

section Views

@[simp] theorem slot?_withFree (r : Registry β) (free : List Nat) (k : Nat) :
    { r with free }.slot? k = r.slot? k := rfl

@[simp] theorem bind_capacity (r : Registry β) (k : Nat) (s : Slot β) :
    (r.bind k s).capacity = r.capacity := rfl

@[simp] theorem bind_free (r : Registry β) (k : Nat) (s : Slot β) :
    (r.bind k s).free = r.free := rfl

@[simp] theorem unbind_capacity (r : Registry β) (k : Nat) (s : Slot β) :
    (r.unbind k s).capacity = r.capacity := rfl

@[simp] theorem unbind_free (r : Registry β) (k : Nat) (s : Slot β) :
    (r.unbind k s).free = k :: r.free := rfl

theorem slot?_bind {k : Nat} (hk : k < r.slots.length) (s : Slot β) (j : Nat) :
    (r.bind k s).slot? j = if j = k then some s else r.slot? j := by
  unfold slot? bind
  rw [List.getElem?_set]
  by_cases hj : j = k
  · simp [hj, hk]
  · simp [hj, Ne.symm hj]

theorem slot?_unbind (r : Registry β) (k : Nat) (s : Slot β) (j : Nat) :
    (r.unbind k s).slot? j = if j = k then none else r.slot? j := by
  unfold slot? unbind
  rw [List.getElem?_set]
  by_cases hj : j = k
  · by_cases hk : k < r.slots.length <;> simp [hj, hk]
  · simp [hj, Ne.symm hj]

theorem slotAt?_bind (r : Registry β) (k : Nat) (s : Slot β) (a : Word) :
    (r.bind k s).slotAt? a = if a = s.address then some k else r.slotAt? a :=
  Index.lookup_put ..

theorem slotAt?_unbind (r : Registry β) (k : Nat) (s : Slot β) (a : Word) :
    (r.unbind k s).slotAt? a = if a = s.address then none else r.slotAt? a :=
  Index.lookup_erase ..

theorem addressOf?_bind (r : Registry β) (k : Nat) (s : Slot β) (i : Identity) :
    (r.bind k s).addressOf? i =
      if s.identity = some i then some s.address else r.addressOf? i := by
  unfold addressOf? bind
  cases hs : s.identity with
  | none => simp
  | some j => simpa [eq_comm] using Index.lookup_put j i s.address r.byIdentity

theorem addressOf?_unbind (r : Registry β) (k : Nat) (s : Slot β) (i : Identity) :
    (r.unbind k s).addressOf? i = if s.identity = some i then none else r.addressOf? i := by
  unfold addressOf? unbind
  cases hs : s.identity with
  | none => simp
  | some j => simpa [eq_comm] using Index.lookup_erase j i r.byIdentity

theorem lt_of_slot? {k : Nat} {s : Slot β} (h : r.slot? k = some s) : k < r.slots.length := by
  by_contra hk
  rw [slot?, List.getElem?_eq_none (by omega)] at h
  simp at h

theorem registered?_eq_some {i : Identity} {f : Allocation} : r.registered? i = some f ↔
    r.addressOf? i = some f.address ∧ r.slotAt? f.address = some f.slot ∧ f.reused = true := by
  simp only [registered?, Option.bind_eq_bind, Option.bind_eq_some_iff]
  constructor
  · rintro ⟨a, ha, k, hk, hf⟩
    cases hf
    exact ⟨ha, hk, rfl⟩
  · rintro ⟨ha, hk, hr⟩
    exact ⟨f.address, ha, f.slot, hk, by rw [← hr]⟩

/-- Emptying the slot that was filled last takes back all that filling it did. -/
theorem unbind_bind {k : Nat} {free : List Nat} {s : Slot β} (hfree : r.free = k :: free)
    (hk : k < r.slots.length) (hslot : r.slot? k = none) (haddress : r.slotAt? s.address = none)
    (hidentity : ∀ i, s.identity = some i → r.addressOf? i = none) :
    ({ r with free }.bind k s).unbind k s = r := by
  have hnone : r.slots[k] = none := by
    rw [slot?, List.getElem?_eq_getElem hk] at hslot
    exact hslot
  have hslots : (r.slots.set k (some s)).set k none = r.slots := by
    rw [List.set_set, ← hnone, List.set_getElem_self]
  have haddresses : Index.erase s.address (Index.put s.address k r.byAddress) = r.byAddress :=
    Index.erase_put k haddress
  cases hs : s.identity with
  | none => simp only [Registry.bind, Registry.unbind, hs, hslots, haddresses, ← hfree]
  | some i =>
    have hidentities : Index.erase i (Index.put i s.address r.byIdentity) = r.byIdentity :=
      Index.erase_put s.address (hidentity i hs)
    simp only [Registry.bind, Registry.unbind, hs, hslots, haddresses, hidentities, ← hfree]

end Views

theorem mem_bound {k : Nat} : k ∈ r.bound ↔ k < r.capacity ∧ r.slot? k ≠ none := by
  simp [bound, Option.isSome_iff_ne_none]

theorem mem_lost {k : Nat} :
    k ∈ r.lost ↔ k < r.capacity ∧ k ∉ r.free ∧ r.slot? k = none := by
  simp [lost]

@[simp] theorem empty_slot? (n k : Nat) : (empty n : Registry β).slot? k = none := by
  unfold slot? empty
  by_cases hk : k < n
  · simp [hk]
  · simp [Nat.le_of_not_lt hk]

@[simp] theorem empty_slotAt? (n : Nat) (a : Word) : (empty n : Registry β).slotAt? a = none := rfl

@[simp] theorem empty_addressOf? (n : Nat) (i : Identity) :
    (empty n : Registry β).addressOf? i = none := rfl

theorem empty_accounted (n : Nat) : Accounted (empty n : Registry β) where
  slots_length := List.length_replicate
  free_nodup := List.nodup_range
  free_lt _ hk := List.mem_range.1 hk
  free_unbound k _ := empty_slot? n k

theorem empty_lost (n : Nat) : (empty n : Registry β).lost = ∅ := by
  ext k
  rw [mem_lost]
  simp only [empty_slot?, and_true, Finset.notMem_empty, iff_false, not_and, not_not]
  exact List.mem_range.2

theorem empty_indexed (n : Nat) : Indexed entry (empty n : Registry β) where
  entry_slot h := by simp at h
  slotAt_iff := by simp
  addressOf_iff := by simp
  identity_unique h := by simp at h

namespace Accounted

/-- Each slot is free, in use, or lost. -/
theorem live_eq (h : Accounted r) : r.live = r.bound.card + r.lost.card := by
  have hfree : r.free.toFinset.card = r.free.length := List.toFinset_card_of_nodup h.free_nodup
  have hbl : Disjoint r.bound r.lost :=
    Finset.disjoint_left.2 fun k hb hl => (mem_bound.1 hb).2 (mem_lost.1 hl).2.2
  have hf : Disjoint r.free.toFinset (r.bound ∪ r.lost) := by
    rw [Finset.disjoint_left]
    intro k hk hu
    rw [List.mem_toFinset] at hk
    rcases Finset.mem_union.1 hu with hb | hl
    · exact (mem_bound.1 hb).2 (h.free_unbound k hk)
    · exact (mem_lost.1 hl).2.1 hk
  have hall : r.free.toFinset ∪ (r.bound ∪ r.lost) = Finset.range r.capacity := by
    ext k
    simp only [Finset.mem_union, List.mem_toFinset, mem_bound, mem_lost, Finset.mem_range]
    constructor
    · rintro (hk | hk | hk)
      · exact h.free_lt k hk
      · exact hk.1
      · exact hk.1
    · intro hk
      by_cases hs : r.slot? k = none
      · by_cases hm : k ∈ r.free <;> simp [hk, hs, hm]
      · simp [hk, hs]
  have hcard := congrArg Finset.card hall
  rw [Finset.card_union_of_disjoint hf, Finset.card_union_of_disjoint hbl, hfree,
    Finset.card_range] at hcard
  unfold live
  omega

/-- A slot that is not free is in use exactly if none was lost. -/
theorem free_iff (h : Accounted r) :
    (∀ k < r.capacity, k ∈ r.free ↔ r.slot? k = none) ↔ r.lost = ∅ := by
  constructor
  · intro hall
    ext k
    simp only [mem_lost, Finset.notMem_empty, iff_false]
    rintro ⟨hk, hfree, hslot⟩
    exact hfree ((hall k hk).2 hslot)
  · intro hlost k hk
    refine ⟨h.free_unbound k, fun hslot => ?_⟩
    by_contra hfree
    have hmem : k ∈ r.lost := mem_lost.2 ⟨hk, hfree, hslot⟩
    simp [hlost] at hmem

theorem slot_lt (h : Accounted r) {k : Nat} {s : Slot β} (hs : r.slot? k = some s) :
    k < r.capacity := h.slots_length ▸ lt_of_slot? hs

theorem free_le (h : Accounted r) : r.free.length ≤ r.capacity := by
  have hsub : r.free.toFinset ⊆ Finset.range r.capacity := by
    intro k hk
    exact Finset.mem_range.2 (h.free_lt k (List.mem_toFinset.1 hk))
  have hcard := Finset.card_le_card hsub
  rwa [List.toFinset_card_of_nodup h.free_nodup, Finset.card_range] at hcard

/-- All slots count as live exactly if the free stack is empty. -/
theorem live_eq_capacity (h : Accounted r) : r.live = r.capacity ↔ r.free = [] := by
  have hle := h.free_le
  rw [live, ← List.length_eq_zero_iff]
  omega

variable {k : Nat} {free : List Nat}

theorem pop (h : Accounted r) (hfree : r.free = k :: free) :
    Accounted { r with free } ∧ k < r.capacity ∧ k ∉ free ∧ r.slot? k = none := by
  have hnodup := h.free_nodup
  have hlt := h.free_lt
  have hunbound := h.free_unbound
  rw [hfree] at hnodup hlt hunbound
  obtain ⟨hk, hrest⟩ := List.nodup_cons.1 hnodup
  exact ⟨⟨h.slots_length, hrest, fun j hj => hlt j (List.mem_cons_of_mem k hj),
    fun j hj => hunbound j (List.mem_cons_of_mem k hj)⟩, hlt k List.mem_cons_self, hk,
    hunbound k List.mem_cons_self⟩

theorem bind (h : Accounted r) (hk : k < r.capacity) (hfree : k ∉ r.free) (s : Slot β) :
    Accounted (r.bind k s) where
  slots_length := by simpa [Registry.bind] using h.slots_length
  free_nodup := h.free_nodup
  free_lt := h.free_lt
  free_unbound j hj := by
    have hne : j ≠ k := fun he => hfree (he ▸ hj)
    rw [slot?_bind (h.slots_length ▸ hk), if_neg hne]
    exact h.free_unbound j hj

theorem unbind (h : Accounted r) {s : Slot β} (hs : r.slot? k = some s) :
    Accounted (r.unbind k s) where
  slots_length := by simpa [Registry.unbind] using h.slots_length
  free_nodup := List.nodup_cons.2
    ⟨fun hk => by simp [h.free_unbound k hk] at hs, h.free_nodup⟩
  free_lt j hj := by
    rcases List.mem_cons.1 hj with rfl | hj
    · exact h.slot_lt hs
    · exact h.free_lt j hj
  free_unbound j hj := by
    rw [slot?_unbind]
    rcases List.mem_cons.1 hj with rfl | hj
    · exact if_pos rfl
    · simp [h.free_unbound j hj]

theorem change (h : Accounted r) {b : Bool} (hc : Change entry r b r') : Accounted r' := by
  cases hc with
  | unchanged => exact h
  | loses hfree => exact (h.pop hfree).1
  | binds hfree =>
    obtain ⟨hpop, hk, hnot, -⟩ := h.pop hfree
    exact hpop.bind hk hnot _
  | unbinds hslot => exact h.unbind hslot

/-- Only an overflow loses a slot, and it loses one. -/
theorem lost_change (h : Accounted r) {b : Bool} (hc : Change entry r b r') :
    r'.lost.card = r.lost.card + b.toNat := by
  cases hc with
  | unchanged => rfl
  | @loses k free _ hfree =>
    obtain ⟨-, hk, hnot, hslot⟩ := h.pop hfree
    have hset : ({ r with free } : Registry β).lost = insert k r.lost := by
      ext j
      simp only [Finset.mem_insert, mem_lost, slot?_withFree, hfree, List.mem_cons]
      by_cases hj : j = k <;> simp [hj, hk, hnot, hslot]
    rw [hset, Finset.card_insert_of_notMem]
    · rfl
    · simp [mem_lost, hfree]
  | @binds k free s hfree =>
    obtain ⟨hpop, hk, -, -⟩ := h.pop hfree
    have hset : (({ r with free } : Registry β).bind k s).lost = r.lost := by
      ext j
      rw [mem_lost, mem_lost, slot?_bind (hpop.slots_length ▸ hk)]
      by_cases hj : j = k <;> simp [hj, hfree]
    simp [hset]
  | @unbinds k s hslot =>
    have hset : (r.unbind k s).lost = r.lost := by
      ext j
      rw [mem_lost, mem_lost, slot?_unbind]
      by_cases hj : j = k <;> simp [hj, hslot]
    simp [hset]

/-- Where every slot has an address, nothing stops. -/
theorem not_stopped (h : Accounted r) (hentry : ∀ k < r.capacity, ∃ a, entry k = .ok a) {b : Bool}
    (hc : Change entry r b r') : b = false := by
  cases hc with
  | @loses k free o hfree he =>
    obtain ⟨a, ha⟩ := hentry k (h.pop hfree).2.1
    rw [ha] at he
    contradiction
  | _ => rfl

end Accounted

namespace Indexed

variable {k : Nat} {s : Slot β}

theorem withFree (h : Indexed entry r) (free : List Nat) : Indexed entry { r with free } :=
  ⟨h.entry_slot, h.slotAt_iff, h.addressOf_iff, h.identity_unique⟩

/-- An identity that leads to no slot has no address either. -/
theorem addressOf?_eq_none (h : Indexed entry r) {i : Identity} (hi : r.registered? i = none) :
    r.addressOf? i = none := by
  cases ha : r.addressOf? i with
  | none => rfl
  | some a =>
    obtain ⟨k, s, hs, -, hsa⟩ := h.addressOf_iff.1 ha
    have hk : r.slotAt? a = some k := h.slotAt_iff.2 ⟨s, hs, hsa⟩
    have hf : r.registered? i = some ⟨k, a, true⟩ := registered?_eq_some.2 ⟨ha, hk, rfl⟩
    rw [hi] at hf
    contradiction

/-- Two slots in use never have one address. -/
theorem eq_of_address (h : Indexed entry r) {j : Nat} {t : Slot β} (ht : r.slot? j = some t)
    (hs : r.slot? k = some s) (ha : t.address = s.address) : j = k := by
  have hj := h.slotAt_iff.2 ⟨t, ht, ha⟩
  have hk := h.slotAt_iff.2 ⟨s, hs, rfl⟩
  exact Option.some.inj (hj.symm.trans hk)

/-- Filling an unused slot keeps the indexes right, if neither its address nor its identity is
in use. -/
theorem bind (h : Indexed entry r) (hk : k < r.slots.length) (hslot : r.slot? k = none)
    (hentry : entry k = .ok s.address)
    (haddress : ∀ j t, r.slot? j = some t → t.address ≠ s.address)
    (hnew : ∀ i, s.identity = some i → r.addressOf? i = none) : Indexed entry (r.bind k s) where
  entry_slot {j t} ht := by
    rw [slot?_bind hk] at ht
    split_ifs at ht with hj
    · cases ht
      exact hj ▸ hentry
    · exact h.entry_slot ht
  slotAt_iff {a j} := by
    rw [slotAt?_bind, slot?_bind hk]
    by_cases ha : a = s.address
    · rw [if_pos ha]
      constructor
      · rintro ⟨⟩
        exact ⟨s, if_pos rfl, ha.symm⟩
      · rintro ⟨t, ht, hta⟩
        split_ifs at ht with hj
        · rw [hj]
        · exact absurd (hta.trans ha) (haddress j t ht)
    · rw [if_neg ha, h.slotAt_iff]
      by_cases hj : j = k
      · simp [hj, hslot, Ne.symm ha]
      · simp [hj]
  addressOf_iff {i a} := by
    rw [addressOf?_bind]
    by_cases hi : s.identity = some i
    · rw [if_pos hi]
      constructor
      · rintro ⟨⟩
        exact ⟨k, s, by rw [slot?_bind hk, if_pos rfl], hi, rfl⟩
      · rintro ⟨j, t, ht, hti, hta⟩
        rw [slot?_bind hk] at ht
        split_ifs at ht with hj
        · cases ht
          rw [hta]
        · have hold := h.addressOf_iff.2 ⟨j, t, ht, hti, rfl⟩
          rw [hnew i hi] at hold
          contradiction
    · rw [if_neg hi, h.addressOf_iff]
      constructor
      · rintro ⟨j, t, ht, hti, hta⟩
        have hj : j ≠ k := fun he => by simp [he, hslot] at ht
        exact ⟨j, t, by rw [slot?_bind hk, if_neg hj, ht], hti, hta⟩
      · rintro ⟨j, t, ht, hti, hta⟩
        rw [slot?_bind hk] at ht
        split_ifs at ht with hj
        · cases ht
          exact absurd hti hi
        · exact ⟨j, t, ht, hti, hta⟩
  identity_unique {i j l t u} ht hu hti hui := by
    have hfresh : ∀ {m v}, r.slot? m = some v → v.identity = some i → s.identity ≠ some i := by
      intro m v hv hvi hsi
      have hold := h.addressOf_iff.2 ⟨m, v, hv, hvi, rfl⟩
      rw [hnew i hsi] at hold
      contradiction
    rw [slot?_bind hk] at ht hu
    split_ifs at ht hu with hj hl hl
    · rw [hj, hl]
    · cases ht
      exact absurd hti (hfresh hu hui)
    · cases hu
      exact absurd hui (hfresh ht hti)
    · exact h.identity_unique ht hu hti hui

theorem unbind (h : Indexed entry r) (hs : r.slot? k = some s) :
    Indexed entry (r.unbind k s) where
  entry_slot {j t} ht := by
    rw [slot?_unbind] at ht
    split_ifs at ht
    exact h.entry_slot ht
  slotAt_iff {a j} := by
    rw [slotAt?_unbind, slot?_unbind]
    by_cases ha : a = s.address
    · simp only [if_pos ha, reduceCtorEq, false_iff]
      rintro ⟨t, ht, hta⟩
      split_ifs at ht with hj
      exact hj (h.eq_of_address ht hs (hta.trans ha))
    · rw [if_neg ha, h.slotAt_iff]
      by_cases hj : j = k
      · simp [hj, hs, Ne.symm ha]
      · simp [hj]
  addressOf_iff {i a} := by
    rw [addressOf?_unbind]
    by_cases hi : s.identity = some i
    · simp only [if_pos hi, reduceCtorEq, false_iff]
      rintro ⟨j, t, ht, hti, -⟩
      rw [slot?_unbind] at ht
      split_ifs at ht with hj
      exact hj (h.identity_unique ht hs hti hi)
    · rw [if_neg hi, h.addressOf_iff]
      constructor
      · rintro ⟨j, t, ht, hti, hta⟩
        have hj : j ≠ k := by
          rintro rfl
          rw [hs] at ht
          cases ht
          exact hi hti
        exact ⟨j, t, by rw [slot?_unbind, if_neg hj, ht], hti, hta⟩
      · rintro ⟨j, t, ht, hti, hta⟩
        rw [slot?_unbind] at ht
        split_ifs at ht
        exact ⟨j, t, ht, hti, hta⟩
  identity_unique {i j l t u} ht hu hti hui := by
    rw [slot?_unbind] at ht hu
    split_ifs at ht hu
    exact h.identity_unique ht hu hti hui

/-- The address of the next free slot is not in use. -/
theorem address_ne (h : Indexed entry r) (hr : Accounted r) (hsep : Separates entry r.capacity)
    {free : List Nat} {a : Word} (hfree : r.free = k :: free) (hentry : entry k = .ok a)
    (j : Nat) (t : Slot β) (ht : r.slot? j = some t) : t.address ≠ a := by
  rintro rfl
  obtain ⟨-, hk, -, hslot⟩ := hr.pop hfree
  have hj : j = k := hsep j k _ (hr.slot_lt ht) hk (h.entry_slot ht) hentry
  rw [hj, hslot] at ht
  contradiction

/-- No operation puts the indexes out of step, as long as no two slots get one address. -/
theorem change (h : Indexed entry r) (hr : Accounted r) (hsep : Separates entry r.capacity)
    {b : Bool} (hc : Change entry r b r') : Indexed entry r' := by
  cases hc with
  | unchanged => exact h
  | loses => exact h.withFree _
  | @binds k free s hfree hentry hnew =>
    obtain ⟨hpop, hk, -, hslot⟩ := hr.pop hfree
    exact (h.withFree free).bind (hpop.slots_length ▸ hk) hslot hentry
      (h.address_ne hr hsep hfree hentry) fun i hi => h.addressOf?_eq_none (hnew i hi)
  | unbinds hslot => exact h.unbind hslot

end Indexed

end Registry

end CallBridge
