import CallBridge.Proofs.SlotRuns
import Mathlib.Order.Bounds.Basic

/-!
Which slot comes next. The free stack of a table falls into two parts: slots that were released, the
latest on top, and below them slots that were never taken, in their order. The second part shrinks
only when the first one is empty, so its lowest number is the peak of the slots taken at once.
-/

namespace CallBridge

namespace Registry

variable {β : Type} {r r' : Registry β} {n : Nat} {entry : Nat → Except Overflow Word}

/-- Slots that are not free. -/
def taken (r : Registry β) : Finset Nat := (Finset.range r.capacity).filter (· ∉ r.free)

theorem mem_taken {k : Nat} : k ∈ r.taken ↔ k < r.capacity ∧ k ∉ r.free := by
  simp [taken]

/-- Slots that are not free are in use, if none was lost. -/
theorem Accounted.taken_eq (h : Accounted r) (hlost : r.lost = ∅) : r.taken = r.bound := by
  ext k
  rw [mem_taken, mem_bound]
  constructor
  · rintro ⟨hk, hfree⟩
    exact ⟨hk, fun hs => hfree ((h.free_iff.2 hlost k hk).2 hs)⟩
  · rintro ⟨hk, hs⟩
    exact ⟨hk, fun hfree => hs (h.free_unbound k hfree)⟩

/-- An operation leaves the free stack, takes its top, or puts a slot on it. -/
theorem Accounted.free_change (h : Accounted r) {b : Bool} (hc : Change entry r b r') :
    r'.free = r.free ∨ (∃ k, r.free = k :: r'.free) ∨ ∃ k ∈ r.taken, r'.free = k :: r.free := by
  cases hc with
  | unchanged => exact .inl rfl
  | loses hfree => exact .inr (.inl ⟨_, hfree⟩)
  | binds hfree => exact .inr (.inl ⟨_, hfree⟩)
  | @unbinds k s hs =>
    have hfree : k ∉ r.free := fun hk => by simp [h.free_unbound k hk] at hs
    exact .inr (.inr ⟨k, mem_taken.2 ⟨h.slot_lt hs, hfree⟩, rfl⟩)

/-- A slot that an operation fills was on top of the free stack. -/
theorem Change.free_of_bound {b : Bool} (hc : Change entry r b r') {k : Nat}
    (hk : k ∉ r.bound) (hk' : k ∈ r'.bound) : r.free = k :: r'.free := by
  rw [mem_bound] at hk hk'
  cases hc with
  | unchanged => exact absurd hk' hk
  | loses => exact absurd hk' hk
  | @binds j free s hfree =>
    by_cases hj : k = j
    · rw [hj]
      exact hfree
    · refine absurd ⟨hk'.1, ?_⟩ hk
      intro hs
      apply hk'.2
      unfold slot? Registry.bind at *
      rwa [List.getElem?_set_ne (Ne.symm hj)]
  | @unbinds j s =>
    refine absurd ⟨hk'.1, ?_⟩ hk
    intro hs
    apply hk'.2
    rw [slot?_unbind, hs, ite_self]

section History

variable {ops : List (Operation β)} {o : Operation β} {use : Registry β → Finset Nat} {k : Nat}

theorem run_concat (ops : List (Operation β)) (o : Operation β) (r : Registry β) :
    run (ops ++ [o]) r = (o.perform (run ops r)).state := by
  induction ops generalizing r with
  | nil => rfl
  | cons o' ops ih => exact ih (o'.perform r).state

/-- The states of a run, the latest first. -/
def states : List (Operation β) → Registry β → List (Registry β)
  | [], r => [r]
  | o :: ops, r => states ops (o.perform r).state ++ [r]

theorem states_concat (ops : List (Operation β)) (o : Operation β) (r : Registry β) :
    states (ops ++ [o]) r = run (ops ++ [o]) r :: states ops r := by
  induction ops generalizing r with
  | nil => rfl
  | cons o' ops ih =>
    simp only [List.cons_append, states, run, ih]

/-- For how many states the slot was not in use. A slot that is released now has been idle for the
one state that follows. -/
def idle (use : Registry β → Finset Nat) (ops : List (Operation β)) (r : Registry β) (k : Nat) :
    Nat := ((states ops r).takeWhile (k ∉ use ·)).length

theorem idle_concat : idle use (ops ++ [o]) r k =
    if k ∈ use (run (ops ++ [o]) r) then 0 else idle use ops r k + 1 := by
  unfold idle
  rw [states_concat, List.takeWhile_cons]
  by_cases hk : k ∈ use (run (ops ++ [o]) r) <;> simp [hk]

theorem idle_eq_zero : idle use ops r k = 0 ↔ k ∈ use (run ops r) := by
  induction ops using List.reverseRecOn with
  | nil => by_cases hk : k ∈ use r <;> simp [idle, states, run, hk]
  | append_singleton ops o => by_cases hk : k ∈ use (run (ops ++ [o]) r) <;> simp [idle_concat, hk]

theorem run_mem_states (ops : List (Operation β)) (r : Registry β) : run ops r ∈ states ops r := by
  induction ops using List.reverseRecOn with
  | nil => exact List.mem_singleton_self r
  | append_singleton ops o =>
    rw [states_concat]
    exact List.mem_cons_self

theorem idle_congr {use' : Registry β → Finset Nat} (h : ∀ s ∈ states ops r, use s = use' s)
    (k : Nat) : idle use ops r k = idle use' ops r k := by
  induction ops using List.reverseRecOn with
  | nil =>
    have hr : use r = use' r := h r (List.mem_singleton_self r)
    simp only [idle, states, List.takeWhile_cons, List.takeWhile_nil, hr]
  | append_singleton ops o ih =>
    rw [states_concat] at h
    obtain ⟨hlast, hbefore⟩ := List.forall_mem_cons.1 h
    rw [idle_concat, idle_concat, hlast, ih hbefore]

/-- How slots of a table were used in a run, where `use` tells the slots in use and `p` is the peak.
The slots that were ever in use are those below the peak. The free ones among these lie on top of
the free stack, the latest released first, and the slots from the peak on lie below them in order. So
the next slot is the one released last that is still free, or the peak if all below it are in use. -/
structure Stacked (use : Registry β → Finset Nat) (n : Nat) (ops : List (Operation β))
    (r : Registry β) (p : Nat) : Prop where
  peak : IsGreatest {m | ∃ s ∈ states ops r, (use s).card = m} p
  ever : ∀ k, (∃ s ∈ states ops r, k ∈ use s) ↔ k < p
  free : ∃ freed, (run ops r).free = freed ++ List.range' p (n - p) ∧
    (∀ k, k ∈ freed ↔ k < p ∧ k ∉ use (run ops r)) ∧
    freed.Pairwise fun j k => idle use ops r j < idle use ops r k
  next : ∀ (o : Operation β) k, k ∉ (run ops r).bound → k ∈ (o.perform (run ops r)).state.bound →
    (k < p ∧ k ∉ use (run ops r) ∧ ∀ j < p, j ∉ use (run ops r) → j ≠ k →
      idle use ops r k < idle use ops r j) ∨
    (∀ j < p, j ∈ use (run ops r)) ∧ k = p

theorem Stacked.congr {use' : Registry β → Finset Nat} {p : Nat} (h : Stacked use n ops r p)
    (heq : ∀ s ∈ states ops r, use s = use' s) : Stacked use' n ops r p := by
  have hidle := funext (idle_congr heq)
  have hrun := heq _ (run_mem_states ops r)
  constructor
  · have hpeak := h.peak
    have hset : {m | ∃ s ∈ states ops r, (use s).card = m} =
        {m | ∃ s ∈ states ops r, (use' s).card = m} := by
      ext m
      exact exists_congr fun s => and_congr_right fun hs => by rw [heq s hs]
    rwa [hset] at hpeak
  · intro k
    rw [← h.ever k]
    exact exists_congr fun s => and_congr_right fun hs => by rw [heq s hs]
  · have hfree := h.free
    rwa [hidle, hrun] at hfree
  · have hnext := h.next
    rwa [hidle, hrun] at hnext

end History

/-- What one operation after the other keeps of a table of `n` slots: the two parts of its free stack,
and that the slots below the second part were once all taken. -/
structure Layered (n : Nat) (ops : List (Operation β)) (p : Nat) (freed : List Nat) : Prop where
  free_eq : (run ops (empty n)).free = freed ++ List.range' p (n - p)
  lt : ∀ k ∈ freed, k < p
  le : p ≤ n
  below : ∀ s ∈ states ops (empty n), s.taken ⊆ Finset.range p
  full : ∃ s ∈ states ops (empty n), s.taken = Finset.range p
  order : freed.Pairwise fun j k => idle taken ops (empty n) j < idle taken ops (empty n) k

namespace Layered

variable {ops : List (Operation β)} {p : Nat} {freed : List Nat}

theorem start : Layered n ([] : List (Operation β)) 0 [] where
  free_eq := by simp [run, empty, List.range_eq_range']
  lt := by simp
  le := Nat.zero_le n
  below s hs := by
    rw [List.mem_singleton.1 hs]
    intro k hk
    simp [mem_taken, empty] at hk
    omega
  full := by
    refine ⟨empty n, List.mem_singleton_self _, ?_⟩
    ext k
    simp [mem_taken, empty]
  order := List.Pairwise.nil

theorem capacity_eq (n : Nat) (ops : List (Operation β)) :
    (run ops (empty n : Registry β)).capacity = n := (run_accounted (empty_accounted n) ops).2.1

theorem mem_taken_run {k : Nat} :
    k ∈ (run ops (empty n : Registry β)).taken ↔ k < n ∧ k ∉ (run ops (empty n)).free := by
  rw [mem_taken, capacity_eq]

theorem mem_freed (h : Layered n ops p freed) {k : Nat} :
    k ∈ freed ↔ k < p ∧ k ∉ (run ops (empty n)).taken := by
  have hle := h.le
  rw [mem_taken_run, h.free_eq, List.mem_append, List.mem_range'_1]
  constructor
  · intro hk
    have hlt := h.lt k hk
    exact ⟨hlt, fun hnot => hnot.2 (.inl hk)⟩
  · rintro ⟨hlt, hnot⟩
    by_contra hk
    apply hnot
    refine ⟨by omega, ?_⟩
    rintro (hk' | hk')
    · exact hk hk'
    · omega

/-- Slots from the peak on were never taken. -/
theorem taken_subset (hle : p ≤ n)
    (hfree : (run ops (empty n : Registry β)).free = freed ++ List.range' p (n - p)) :
    (run ops (empty n : Registry β)).taken ⊆ Finset.range p := by
  intro k hk
  rw [mem_taken_run, hfree, List.mem_append, List.mem_range'_1] at hk
  rw [Finset.mem_range]
  by_contra hp
  exact hk.2 (.inr (by omega))

variable {o : Operation β}

/-- Slots that stay free keep their order. -/
theorem order_concat {l : List Nat} (hfree : ∀ k ∈ l, k ∈ (run (ops ++ [o]) (empty n)).free)
    (horder : l.Pairwise fun j k => idle taken ops (empty n) j < idle taken ops (empty n) k) :
    l.Pairwise fun j k =>
      idle taken (ops ++ [o]) (empty n) j < idle taken (ops ++ [o]) (empty n) k := by
  refine horder.imp_of_mem ?_
  intro j k hj hk hlt
  have hstays : ∀ i ∈ l, i ∉ (run (ops ++ [o]) (empty n)).taken := by
    intro i hi hi'
    exact (mem_taken_run.1 hi').2 (hfree i hi)
  rw [idle_concat, idle_concat, if_neg (hstays j hj), if_neg (hstays k hk)]
  omega

/-- The parts of the stack after an operation that leaves the peak where it was. -/
theorem keep (h : Layered n ops p freed) {freed' : List Nat}
    (hfree : (run (ops ++ [o]) (empty n)).free = freed' ++ List.range' p (n - p))
    (hlt : ∀ k ∈ freed', k < p)
    (horder : freed'.Pairwise fun j k =>
      idle taken (ops ++ [o]) (empty n) j < idle taken (ops ++ [o]) (empty n) k) :
    Layered n (ops ++ [o]) p freed' where
  free_eq := hfree
  lt := hlt
  le := h.le
  below := by
    rw [states_concat]
    exact List.forall_mem_cons.2 ⟨taken_subset h.le hfree, h.below⟩
  full := by
    obtain ⟨s, hs, hfull⟩ := h.full
    exact ⟨s, by simp [states_concat, hs], hfull⟩
  order := horder

/-- The parts of the stack after the first of the untouched slots was taken. -/
theorem raise (h : Layered n ops p []) (hlt : p < n)
    (hfree : (run (ops ++ [o]) (empty n)).free = List.range' (p + 1) (n - (p + 1))) :
    Layered n (ops ++ [o]) (p + 1) [] where
  free_eq := hfree
  lt := by simp
  le := hlt
  below := by
    have hbelow : (Registry.run (ops ++ [o]) (empty n)).taken ⊆ Finset.range (p + 1) :=
      taken_subset hlt (hfree.trans (List.nil_append _).symm)
    rw [states_concat]
    refine List.forall_mem_cons.2 ⟨hbelow, fun s hs => ?_⟩
    exact (h.below s hs).trans (Finset.range_mono (Nat.le_succ p))
  full := by
    refine ⟨run (ops ++ [o]) (empty n), run_mem_states _ _, ?_⟩
    ext k
    rw [mem_taken_run, hfree, List.mem_range'_1, Finset.mem_range]
    omega
  order := List.Pairwise.nil

theorem concat (h : Layered n ops p freed) (o : Operation β) :
    ∃ p' freed', Layered n (ops ++ [o]) p' freed' := by
  obtain ⟨entry, ho⟩ := o.exists_takesFrom
  have hc := o.perform_change (run ops (empty n)) ho
  have hacc := (run_accounted (empty_accounted n) ops).1
  rw [← run_concat] at hc
  rcases hacc.free_change hc with hsame | ⟨k, hpop⟩ | ⟨k, hk, hpush⟩
  · rw [h.free_eq] at hsame
    refine ⟨p, freed, h.keep hsame h.lt (order_concat ?_ h.order)⟩
    intro k hk
    simp [hsame, hk]
  · rw [h.free_eq] at hpop
    cases hf : freed with
    | nil =>
      -- Only untouched slots are left, and the first of them is taken.
      obtain ⟨m, hm⟩ : ∃ m, n - p = m + 1 := by
        refine Nat.exists_eq_add_one_of_ne_zero ?_
        intro hzero
        rw [hf, hzero] at hpop
        contradiction
      rw [hf, hm, List.range'_succ] at hpop
      obtain ⟨rfl, hfree⟩ := List.cons.inj hpop
      have hrest : n - (p + 1) = m := by omega
      rw [hf] at h
      refine ⟨p + 1, [], h.raise (by omega) ?_⟩
      rw [hrest, ← hfree]
    | cons j tail =>
      rw [hf] at hpop
      obtain ⟨rfl, hfree⟩ := List.cons.inj hpop
      have horder := h.order
      have hlt := h.lt
      rw [hf] at horder hlt
      refine ⟨p, tail, h.keep hfree.symm (fun i hi => hlt i (List.mem_cons_of_mem _ hi))
        (order_concat ?_ horder.of_cons)⟩
      intro i hi
      simp [← hfree, hi]
  · have hkp : k < p := Finset.mem_range.1 (h.below _ (run_mem_states ops _) hk)
    have hfree : k ∉ (run ops (empty n)).free := (mem_taken_run.1 hk).2
    rw [h.free_eq] at hpush hfree
    refine ⟨p, k :: freed, h.keep hpush ?_ (List.pairwise_cons.2 ⟨?_, order_concat ?_ h.order⟩)⟩
    · intro i hi
      rcases List.mem_cons.1 hi with rfl | hi
      · exact hkp
      · exact h.lt i hi
    · intro i hi
      have hidle : idle taken ops (empty n) i ≠ 0 := by
        rw [Ne, idle_eq_zero]
        exact (h.mem_freed.1 hi).2
      have hfreed : ∀ j ∈ k :: freed, j ∉ (run (ops ++ [o]) (empty n)).taken := by
        intro j hj hj'
        refine (mem_taken_run.1 hj').2 ?_
        rw [hpush]
        exact List.mem_append_left _ hj
      rw [idle_concat, idle_concat, if_neg (hfreed k List.mem_cons_self),
        if_neg (hfreed i (List.mem_cons_of_mem k hi)), idle_eq_zero.2 hk]
      omega
    · intro i hi
      rw [hpush]
      simp [hi]

theorem run (n : Nat) (ops : List (Operation β)) : ∃ p freed, Layered n ops p freed := by
  induction ops using List.reverseRecOn with
  | nil => exact ⟨0, [], start⟩
  | append_singleton ops o ih =>
    obtain ⟨p, freed, h⟩ := ih
    exact h.concat o

theorem stacked (h : Layered n ops p freed) : Stacked taken n ops (empty n) p where
  peak := by
    constructor
    · obtain ⟨s, hs, hfull⟩ := h.full
      exact ⟨s, hs, by rw [hfull, Finset.card_range]⟩
    · rintro m ⟨s, hs, rfl⟩
      simpa using Finset.card_le_card (h.below s hs)
  ever k := by
    constructor
    · rintro ⟨s, hs, hk⟩
      exact Finset.mem_range.1 (h.below s hs hk)
    · intro hk
      obtain ⟨s, hs, hfull⟩ := h.full
      exact ⟨s, hs, by rw [hfull, Finset.mem_range]; exact hk⟩
  free := ⟨freed, h.free_eq, fun k => h.mem_freed, h.order⟩
  next o k hk hk' := by
    obtain ⟨entry, ho⟩ := o.exists_takesFrom
    have htop := (o.perform_change _ ho).free_of_bound hk hk'
    rw [h.free_eq] at htop
    cases hf : freed with
    | nil =>
      right
      constructor
      · intro j hj
        by_contra hnot
        have hmem := h.mem_freed.2 ⟨hj, hnot⟩
        simp [hf] at hmem
      · cases hm : n - p with
        | zero => simp [hf, hm] at htop
        | succ m =>
          rw [hf, hm, List.range'_succ] at htop
          exact (List.cons.inj htop).1.symm
    | cons i tail =>
      rw [hf] at htop
      obtain ⟨rfl, -⟩ := List.cons.inj htop
      have horder := h.order
      rw [hf] at horder
      left
      have hmem : i ∈ freed := by simp [hf]
      obtain ⟨hlt, hnot⟩ := h.mem_freed.1 hmem
      refine ⟨hlt, hnot, fun j hj hfree hne => ?_⟩
      have hj' := h.mem_freed.2 ⟨hj, hfree⟩
      rw [hf] at hj'
      exact (List.pairwise_cons.1 horder).1 j ((List.mem_cons.1 hj').resolve_left hne)

end Layered

/-- Where no operation stops at an overflow, no slot is lost on the way. -/
theorem states_lost (h : Accounted r) (hlost : r.lost = ∅) (ops : List (Operation β))
    (hzero : losses ops r = 0) : ∀ s ∈ states ops r, Accounted s ∧ s.lost = ∅ := by
  induction ops generalizing r with
  | nil => simpa [states] using And.intro h hlost
  | cons o ops ih =>
    obtain ⟨entry, ho⟩ := o.exists_takesFrom
    have hc := o.perform_change r ho
    rw [losses] at hzero
    have hcard := h.lost_change hc
    rw [hlost, Finset.card_empty] at hcard
    have hnext : (o.perform r).state.lost = ∅ := Finset.card_eq_zero.1 (by omega)
    intro s hs
    rw [states, List.mem_append, List.mem_singleton] at hs
    rcases hs with hs | rfl
    · exact ih (h.change hc) hnext (by omega) s hs
    · exact ⟨h, hlost⟩

/-- After any run of a fresh table whose operations succeeded or failed, the slots that were ever in use
are those below the largest number that was in use at once. The free stack begins with the free ones
among these, the latest released first, and goes on with all the others in order; so a registration
takes the slot released last that is still free, or the first that was never in use. If an operation
stopped at an overflow, the same is true of the slots that are in use or lost. -/
theorem run_stacked (hcreate : create n = .ok r) (ops : List (Operation β)) :
    ∃ p, (losses ops r = 0 → Stacked bound n ops r p) ∧ Stacked taken n ops r p := by
  obtain ⟨-, rfl⟩ := create_eq_ok hcreate
  obtain ⟨p, freed, h⟩ := Layered.run n ops
  refine ⟨p, fun hzero => h.stacked.congr ?_, h.stacked⟩
  intro s hs
  obtain ⟨hacc, hlost⟩ := states_lost (empty_accounted n) (empty_lost n) ops hzero s hs
  exact hacc.taken_eq hlost

/-- Three of four slots are taken, the first and the last of them released, and a callback that is
rejected changes nothing. The slot released last comes first, then the other one, then the one that
was never taken. -/
theorem run_stacked_four_slots :
    let table : EntryTable := { base := 0x1000, stride := 5 }
    let held : HeldCallback Unit := { callback := { params := [], results := [], body := () } }
    let rejected : HeldCallback Unit :=
      { callback := { params := [.array], results := [], body := () } }
    let ops : List (Operation Unit) :=
      [.compile table held none, .compile table held (some (.own 0)), .compile table held none,
        .release 0, .releaseAddress 0x100a, .compile table rejected none, .release 3]
    create 4 = .ok (empty 4 : Registry Unit) ∧ losses ops (empty 4) = 0 ∧
      (run ops (empty 4)).free = [2, 0, 3] ∧ Stacked bound 4 ops (empty 4) 3 := by
  intro table held rejected ops
  have hcreate : create 4 = .ok (empty 4 : Registry Unit) := rfl
  have hzero : losses ops (empty 4) = 0 := by decide
  obtain ⟨p, hbound, -⟩ := run_stacked hcreate ops
  have hstacked := hbound hzero
  have hlow : 2 < p := (hstacked.ever 2).1 (by decide)
  have hhigh : ¬ 3 < p := fun h => absurd ((hstacked.ever 3).2 h) (by decide)
  obtain rfl : p = 3 := by omega
  exact ⟨hcreate, hzero, by decide, hstacked⟩

end Registry

end CallBridge
