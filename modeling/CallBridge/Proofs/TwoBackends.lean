import CallBridge.Proofs.HostContract
import CallBridge.Proofs.Registrations

/-!
A trampoline and a host backend that are asked the same. Their addresses differ, but each address
of the one stands for one of the other; up to that they answer alike at every step.
-/

namespace CallBridge

/-- What a program asks of a backend. -/
inductive Request (β : Type) where
  | register (c : Callback β)
  | registerShared (s : SharedCallback β)
  | unregister (address : Word)
  | unregisterShared (identity : Identity)

namespace Request

variable {β η : Type}

def operation : Request β → Trampoline.Operation β
  | register c => .register c
  | registerShared s => .registerShared s
  | unregister a => .unregister a
  | unregisterShared i => .unregisterShared i

/-- A request to a trampoline; the answer has the address that was issued, if one was asked for. -/
def onTable (t : Trampoline β) (r : Request β) :
    Reply RegistrationError (Trampoline β) (Option Word) := r.operation.perform t

def onHost [Registrar η β] (b : HostBackend η) :
    Request β → Reply RegistrationError (HostBackend η) (Option Word)
  | register c => (b.register c).map some
  | registerShared s => (b.registerShared s).map some
  | unregister a => (b.unregister a).map fun _ => none
  | unregisterShared i => (b.unregisterShared i).map fun _ => none

end Request

/-- Addresses of a trampoline and of a host, each for one of the other, with the same callback
behind both. -/
structure Paired {β : Type} (r : Registry β) (m : Bindings β) (R : Word → Word → Prop) : Prop where
  bound : ∀ {a a'}, R a a' →
    ∃ k s, r.slot? k = some s ∧ s.address = a ∧ m.lookup a' = some s.binding
  left : ∀ {k s}, r.slot? k = some s → ∃ a', R s.address a'
  right : ∀ {a'}, a' ∈ m → ∃ a, R a a'
  eq_iff : ∀ {a a' b b'}, R a a' → R b b' → (a = b ↔ a' = b')

namespace Paired

variable {β : Type} {r : Registry β} {m : Bindings β} {R R' : Word → Word → Prop} {k : Nat}
  {s : Slot β} {a' : Word}

theorem congr (h : Paired r m R) (hR : ∀ a a', R' a a' ↔ R a a') : Paired r m R' := by
  have heq : R' = R := funext fun a => funext fun a' => propext (hR a a')
  rwa [heq]

theorem bind (h : Paired r m R) (hk : k < r.slots.length) (hslot : r.slot? k = none)
    (haddress : ∀ j t, r.slot? j = some t → t.address ≠ s.address) (ha' : a' ∉ m) :
    Paired (r.bind k s) (m.insert a' s.binding) fun b b' =>
      R b b' ∨ (b = s.address ∧ b' = a') where
  bound {b b'} hb := by
    rcases hb with hb | ⟨rfl, rfl⟩
    · obtain ⟨j, t, ht, htb, hm⟩ := h.bound hb
      have hj : j ≠ k := by
        rintro rfl
        rw [hslot] at ht
        contradiction
      have hne : b' ≠ a' := by
        rintro rfl
        exact ha' (Finmap.mem_of_lookup_eq_some hm)
      refine ⟨j, t, ?_, htb, ?_⟩
      · rw [Registry.slot?_bind hk, if_neg hj, ht]
      · rw [Finmap.lookup_insert_of_ne _ hne, hm]
    · refine ⟨k, s, ?_, rfl, Finmap.lookup_insert _⟩
      rw [Registry.slot?_bind hk, if_pos rfl]
  left {j t} ht := by
    rw [Registry.slot?_bind hk] at ht
    split_ifs at ht with hj
    · cases ht
      exact ⟨a', .inr ⟨rfl, rfl⟩⟩
    · obtain ⟨b', hb⟩ := h.left ht
      exact ⟨b', .inl hb⟩
  right {b'} hb' := by
    rcases Finmap.mem_insert.1 hb' with rfl | hb'
    · exact ⟨s.address, .inr ⟨rfl, rfl⟩⟩
    · obtain ⟨b, hb⟩ := h.right hb'
      exact ⟨b, .inl hb⟩
  eq_iff {b b' c c'} hb hc := by
    have hfresh : ∀ {d d'}, R d d' → d ≠ s.address ∧ d' ≠ a' := by
      intro d d' hd
      obtain ⟨j, t, ht, rfl, hm⟩ := h.bound hd
      refine ⟨haddress j t ht, ?_⟩
      rintro rfl
      exact ha' (Finmap.mem_of_lookup_eq_some hm)
    rcases hb with hb | ⟨rfl, rfl⟩ <;> rcases hc with hc | ⟨rfl, rfl⟩
    · exact h.eq_iff hb hc
    · simp [(hfresh hb).1, (hfresh hb).2]
    · simp [(hfresh hc).1.symm, (hfresh hc).2.symm]
    · simp

theorem unbind (h : Paired r m R) (hs : r.slot? k = some s)
    (haddress : ∀ j t, r.slot? j = some t → t.address = s.address → j = k) (ha' : R s.address a') :
    Paired (r.unbind k s) (m.erase a') fun b b' => R b b' ∧ b ≠ s.address where
  bound {b b'} hb := by
    obtain ⟨hb, hne⟩ := hb
    obtain ⟨j, t, ht, rfl, hm⟩ := h.bound hb
    have hj : j ≠ k := by
      rintro rfl
      rw [hs] at ht
      cases ht
      exact hne rfl
    have hne' : b' ≠ a' := fun he => hne ((h.eq_iff hb ha').2 he)
    refine ⟨j, t, ?_, rfl, ?_⟩
    · rw [Registry.slot?_unbind, if_neg hj, ht]
    · rw [Finmap.lookup_erase_ne hne', hm]
  left {j t} ht := by
    rw [Registry.slot?_unbind] at ht
    split_ifs at ht with hj
    obtain ⟨b', hb⟩ := h.left ht
    exact ⟨b', hb, fun he => hj (haddress j t ht he)⟩
  right {b'} hb' := by
    obtain ⟨hne, hmem⟩ := Finmap.mem_erase.1 hb'
    obtain ⟨b, hb⟩ := h.right hmem
    exact ⟨b, hb, fun he => hne ((h.eq_iff hb ha').1 he)⟩
  eq_iff hb hc := h.eq_iff hb.1 hc.1

end Paired

/-- Answers that are the same up to the addresses in them. -/
inductive Agree (R : Word → Word → Prop) :
    Verdict RegistrationError (Option Word) → Verdict RegistrationError (Option Word) → Prop where
  | issued {a a'} (h : R a a') : Agree R (.ok (some a)) (.ok (some a'))
  | done : Agree R (.ok none) (.ok none)
  | failed {e} : Agree R (.error e) (.error e)

/-- A trampoline and a host backend with the registrations they issued: the addresses of each, or
nothing once it was released. -/
structure Twins (β η : Type) where
  table : Trampoline β
  host : HostBackend η
  issued : List (Option (Word × Word)) := []

namespace Twins

variable {β η : Type} {w : Twins β η}

/-- Addresses of one live registration. -/
def Pairs (w : Twins β η) (a a' : Word) : Prop := some (a, a') ∈ w.issued

/-- Requests that are the same up to addresses. An address names a registration that was issued and
is still live, or nothing on either side. -/
inductive Asks (bound : η → Bindings β) (w : Twins β η) : Request β → Request β → Prop where
  | register (c : Callback β) : Asks bound w (.register c) (.register c)
  | registerShared (s : SharedCallback β) : Asks bound w (.registerShared s) (.registerShared s)
  | unregister {k : Nat} {a a' : Word} (h : w.issued[k]? = some (some (a, a'))) :
      Asks bound w (.unregister a) (.unregister a')
  | unregisterUnknown {a : Word} (ht : w.table.registry.slotAt? a = none)
      (hh : a ∉ bound w.host.host) : Asks bound w (.unregister a) (.unregister a)
  | unregisterShared (i : Identity) : Asks bound w (.unregisterShared i) (.unregisterShared i)

/-- The registration that a pair of answers issues. -/
def issuedBy : Verdict RegistrationError (Option Word) → Verdict RegistrationError (Option Word) →
    List (Option (Word × Word))
  | .ok (some a), .ok (some a') => [some (a, a')]
  | _, _ => []

/-- Both sides after their replies. A registration stays live as long as its address is bound. -/
def after (w : Twins β η) (t : Reply RegistrationError (Trampoline β) (Option Word))
    (h : Reply RegistrationError (HostBackend η) (Option Word)) : Twins β η where
  table := t.state
  host := h.state
  issued := w.issued.map (Option.filter fun pair =>
    (t.state.registry.slotAt? pair.1).isSome) ++ issuedBy t.answer h.answer

theorem pairs_after (w : Twins β η) (t : Reply RegistrationError (Trampoline β) (Option Word))
    (h : Reply RegistrationError (HostBackend η) (Option Word)) (a a' : Word) :
    (w.after t h).Pairs a a' ↔
      (w.Pairs a a' ∧ t.state.registry.slotAt? a ≠ none) ∨
        (t.answer = .ok (some a) ∧ h.answer = .ok (some a')) := by
  unfold Pairs after
  rw [List.mem_append, List.mem_map]
  refine or_congr ?_ ?_
  · simp only [Option.filter_eq_some_iff, Option.isSome_iff_ne_none]
    constructor
    · rintro ⟨o, ho, rfl, hbound⟩
      exact ⟨ho, hbound⟩
    · rintro ⟨ho, hbound⟩
      exact ⟨_, ho, rfl, hbound⟩
  · unfold issuedBy
    split
    · next b b' ht hh => simp [ht, hh, eq_comm]
    · next hnot =>
      simp only [List.not_mem_nil, false_iff, not_and]
      intro ht hh
      exact hnot a a' ht hh

section Steps

variable [Registrar η β]

/-- One request to both sides. -/
def next (w : Twins β η) (rt rh : Request β) : Twins β η :=
  w.after (rt.onTable w.table) (rh.onHost w.host)

/-- What both sides can come to, one request after the other. -/
inductive Reached (bound : η → Bindings β) (start : Twins β η) : Twins β η → Prop where
  | start : Reached bound start start
  | next {w : Twins β η} {rt rh : Request β} (hw : Reached bound start w)
      (hasks : w.Asks bound rt rh) : Reached bound start (w.next rt rh)

end Steps

end Twins

/-- Both sides are in order and hold the same callbacks. -/
structure Twins.InStep {β η : Type} (table : EntryTable) (n : Nat) (bound : η → Bindings β)
    (w : Twins β η) : Prop where
  sound : w.table.Sound
  table_eq : w.table.table = table
  capacity_eq : w.table.registry.capacity = n
  host : w.host.InStep bound
  card_eq : (bound w.host.host).keys.card = w.table.live
  identity_eq : ∀ {k s}, w.table.registry.slot? k = some s → s.identity = s.binding.held.identity
  paired : Paired w.table.registry (bound w.host.host) w.Pairs

namespace Twins.InStep

variable {β η : Type} {table : EntryTable} {n : Nat} {bound : η → Bindings β} {w : Twins β η}
  {t : Reply RegistrationError (Trampoline β) (Option Word)}
  {h : Reply RegistrationError (HostBackend η) (Option Word)}

theorem indexed (hw : InStep table n bound w) : w.table.registry.Indexed table.locate :=
  hw.table_eq ▸ hw.sound.indexed

/-- Before the first request there is nothing on either side. -/
theorem start (table : EntryTable) (n : Nat) {host : η} (hempty : bound host = ∅) :
    InStep table n bound
      ({ table := { registry := .empty n, table }, host := { host } } : Twins β η) where
  sound := Trampoline.empty_sound table n
  table_eq := rfl
  capacity_eq := rfl
  host := .empty hempty
  card_eq := by
    show (bound host).keys.card = n - (List.range n).length
    simp [hempty]
  identity_eq hs := by simp at hs
  paired := by
    refine ⟨fun hp => ?_, fun hs => ?_, fun ha' => ?_, fun hp => ?_⟩
    · cases hp
    · simp at hs
    · replace ha' : _ ∈ bound host := ha'
      rw [hempty] at ha'
      exact absurd ha' Finmap.notMem_empty
    · cases hp

/-- Behind the host's address of a slot stands what the slot holds. -/
theorem lookup_of_pair (hw : InStep table n bound w) {k : Nat} {s : Slot β} {a' : Word}
    (hs : w.table.registry.slot? k = some s) (hp : w.Pairs s.address a') :
    (bound w.host.host).lookup a' = some s.binding := by
  obtain ⟨j, u, hu, hua, hm⟩ := hw.paired.bound hp
  have hj : j = k := hw.indexed.eq_of_address hu hs hua
  rw [hj, hs] at hu
  cases hu
  exact hm

/-- The two sides know the same identities. -/
theorem addressOf?_iff (hw : InStep table n bound w) {i : Identity} {a : Word} :
    w.table.registry.addressOf? i = some a ↔
      ∃ a', w.Pairs a a' ∧ w.host.addressOf? i = some a' := by
  rw [hw.indexed.addressOf_iff]
  constructor
  · rintro ⟨k, s, hs, hi, rfl⟩
    obtain ⟨a', hp⟩ := hw.paired.left hs
    exact ⟨a', hp, hw.host.addressOf_iff.2
      ⟨s.binding, hw.lookup_of_pair hs hp, hw.identity_eq hs ▸ hi⟩⟩
  · rintro ⟨a', hp, hi⟩
    obtain ⟨k, s, hs, ha, hm⟩ := hw.paired.bound hp
    obtain ⟨b, hb, hbi⟩ := hw.host.addressOf_iff.1 hi
    rw [hm] at hb
    cases hb
    exact ⟨k, s, hs, (hw.identity_eq hs).trans hbi, ha⟩

theorem host_addressOf?_eq_none (hw : InStep table n bound w) {i : Identity}
    (hi : w.table.registry.addressOf? i = none) : w.host.addressOf? i = none := by
  rw [Option.eq_none_iff_forall_ne_some]
  intro a' ha'
  obtain ⟨b, hb, -⟩ := hw.host.addressOf_iff.1 ha'
  obtain ⟨a, hp⟩ := hw.paired.right (Finmap.mem_of_lookup_eq_some hb)
  rw [hw.addressOf?_iff.2 ⟨a', hp, ha'⟩] at hi
  contradiction

/-- A step that binds and releases nothing. -/
theorem unchanged (hw : InStep table n bound w) (ht : t.state = w.table)
    (hh : h.state.InStep bound) (hbound : bound h.state.host = bound w.host.host)
    (hissued : ∀ a a', t.answer = .ok (some a) → h.answer = .ok (some a') → w.Pairs a a') :
    InStep table n bound (w.after t h) := by
  obtain ⟨answer, events, state⟩ := t
  cases ht
  refine ⟨hw.sound, hw.table_eq, hw.capacity_eq, hh, ?_, hw.identity_eq, ?_⟩
  · show (bound h.state.host).keys.card = w.table.live
    rw [hbound, hw.card_eq]
  · show Paired w.table.registry (bound h.state.host) _
    rw [hbound]
    refine hw.paired.congr fun a a' => ?_
    rw [pairs_after]
    constructor
    · rintro (⟨hp, -⟩ | ⟨ht, hh⟩)
      · exact hp
      · exact hissued a a' ht hh
    · intro hp
      obtain ⟨k, s, hs, ha, -⟩ := hw.paired.bound hp
      have hk : w.table.registry.slotAt? a = some k := hw.indexed.slotAt_iff.2 ⟨s, hs, ha⟩
      exact .inl ⟨hp, by simp [hk]⟩

theorem separates (hw : InStep table n bound w) (hserves : table.Serves n) :
    Separates w.table.table.locate w.table.registry.capacity := by
  rw [hw.table_eq, hw.capacity_eq]
  exact hserves.separates

/-- A step in which both sides bind. -/
theorem binds (hw : InStep table n bound w) {k : Nat} {free : List Nat} {s : Slot β} {a' : Word}
    (hfree : w.table.registry.free = k :: free)
    (ht : t.state = { w.table with registry := { w.table.registry with free }.bind k s })
    (hsound : t.state.Sound) (hanswer : t.answer = .ok (some s.address))
    (haddress : ∀ j u, w.table.registry.slot? j = some u → u.address ≠ s.address)
    (hidentity : s.identity = s.binding.held.identity) (ha' : a' ∉ bound w.host.host)
    (hhost : bound h.state.host = (bound w.host.host).insert a' s.binding)
    (hh : h.state.InStep bound) (hanswer' : h.answer = .ok (some a')) :
    InStep table n bound (w.after t h) := by
  obtain ⟨answer, events, state⟩ := t
  cases ht
  obtain ⟨hpop, hk, -, hslot⟩ := hw.sound.accounted.pop hfree
  have hlength : k < ({ w.table.registry with free } : Registry β).slots.length :=
    hpop.slots_length ▸ hk
  refine ⟨hsound, hw.table_eq, hw.capacity_eq, hh, ?_, ?_, ?_⟩
  · have hle := hw.sound.accounted.free_le
    rw [hfree, List.length_cons] at hle
    have hlive : w.table.live = w.table.registry.capacity - (free.length + 1) := by
      rw [Trampoline.live, Registry.live, hfree, List.length_cons]
    show (bound h.state.host).keys.card = w.table.registry.capacity - free.length
    rw [hhost, Bindings.card_insert ha', hw.card_eq, hlive]
    omega
  · intro j u hu
    replace hu : ({ w.table.registry with free }.bind k s).slot? j = some u := hu
    rw [Registry.slot?_bind hlength] at hu
    split_ifs at hu
    · cases hu
      exact hidentity
    · exact hw.identity_eq hu
  · show Paired ({ w.table.registry with free }.bind k s) (bound h.state.host) _
    rw [hhost]
    have hpaired : Paired ({ w.table.registry with free } : Registry β) (bound w.host.host)
        w.Pairs := ⟨hw.paired.bound, hw.paired.left, hw.paired.right, hw.paired.eq_iff⟩
    refine (hpaired.bind hlength hslot haddress ha').congr fun b b' => ?_
    rw [pairs_after]
    refine or_congr ⟨And.left, fun hp => ⟨hp, ?_⟩⟩ ?_
    · obtain ⟨j, u, hu, hb, -⟩ := hw.paired.bound hp
      have hj : w.table.registry.slotAt? b = some j := hw.indexed.slotAt_iff.2 ⟨u, hu, hb⟩
      show ({ w.table.registry with free }.bind k s).slotAt? b ≠ none
      rw [Registry.slotAt?_bind]
      split_ifs
      · simp
      · rw [show ({ w.table.registry with free } : Registry β).slotAt? b = some j from hj]
        simp
    · rw [show answer = .ok (some s.address) from hanswer, hanswer']
      simp only [Verdict.ok.injEq, Option.some.injEq, eq_comm]

/-- A step in which both sides release. -/
theorem unbinds (hw : InStep table n bound w) {k : Nat} {s : Slot β} {a' : Word}
    (hs : w.table.registry.slot? k = some s) (hp : w.Pairs s.address a')
    (ht : t.state = { w.table with registry := w.table.registry.unbind k s })
    (hsound : t.state.Sound) (hanswer : t.answer = .ok none)
    (hhost : bound h.state.host = (bound w.host.host).erase a') (hh : h.state.InStep bound) :
    InStep table n bound (w.after t h) := by
  obtain ⟨answer, events, state⟩ := t
  cases ht
  have haddress : ∀ j u, w.table.registry.slot? j = some u → u.address = s.address → j = k :=
    fun j u hu ha => hw.indexed.eq_of_address hu hs ha
  refine ⟨hsound, hw.table_eq, hw.capacity_eq, hh, ?_, ?_, ?_⟩
  · obtain ⟨j, u, hu, hua, hm⟩ := hw.paired.bound hp
    have hcard := Bindings.card_erase (Finmap.mem_of_lookup_eq_some hm)
    have hle := hsound.accounted.free_le
    replace hle : w.table.registry.free.length + 1 ≤ w.table.registry.capacity := hle
    have hlive : w.table.live = w.table.registry.capacity - w.table.registry.free.length := rfl
    show (bound h.state.host).keys.card =
      w.table.registry.capacity - (w.table.registry.free.length + 1)
    rw [hhost]
    rw [hw.card_eq] at hcard
    omega
  · intro j u hu
    replace hu : (w.table.registry.unbind k s).slot? j = some u := hu
    rw [Registry.slot?_unbind] at hu
    split_ifs at hu
    exact hw.identity_eq hu
  · show Paired (w.table.registry.unbind k s) (bound h.state.host) _
    rw [hhost]
    refine (hw.paired.unbind hs haddress hp).congr fun b b' => ?_
    rw [pairs_after]
    have hnone : answer ≠ .ok (some b) := by
      rw [show answer = .ok none from hanswer]
      simp
    simp only [hnone, false_and, or_false]
    refine and_congr_right fun hb => ?_
    show (w.table.registry.unbind k s).slotAt? b ≠ none ↔ b ≠ s.address
    rw [Registry.slotAt?_unbind]
    obtain ⟨j, u, hu, hub, -⟩ := hw.paired.bound hb
    have hj : w.table.registry.slotAt? b = some j := hw.indexed.slotAt_iff.2 ⟨u, hu, hub⟩
    split_ifs with heq <;> simp [heq, hj]

/-- A step in which both sides refuse for the same reason. -/
theorem refused (hw : InStep table n bound w) (e : RegistrationError) (l l' : List Event) {host : η}
    (hhost : bound host = bound w.host.host) :
    let t := .refuse e l w.table
    let h := .refuse e l' { w.host with host }
    Agree (w.after t h).Pairs t.answer h.answer ∧ InStep table n bound (w.after t h) :=
  ⟨.failed, hw.unchanged rfl (hw.host.withHost hhost) hhost nofun⟩

section Requests

variable [Registrar η β] {held : HeldCallback β} {identity : Option Identity}
  {signature : Signature} (hserves : table.Serves n) (hn : n < wordCount / 2)
  (ho : Registrar.Obliging n bound)

include hserves hn ho

/-- With room for one more both sides bind a new callback. -/
theorem compile_room (hw : InStep table n bound w) (hid : held.identity = identity)
    (hknown : identity.bind w.table.registry.addressOf? = none)
    (hnew : identity.bind w.host.addressOf? = none)
    (hsig : Signature.of held.callback = .ok signature) {k : Nat} {free : List Nat}
    (hfree : w.table.registry.free = k :: free) (hroom : (bound w.host.host).keys.card < n) :
    let t := (w.table.compile held identity).map some
    let h := (w.host.compile held identity).map some
    Agree (w.after t h).Pairs t.answer h.answer ∧ InStep table n bound (w.after t h) := by
  intro t h
  have hsound : t.state.Sound := hw.sound.perform (hw.separates hserves) (.compile held identity)
  obtain ⟨-, hk, -, -⟩ := hw.sound.accounted.pop hfree
  have he : w.table.table.locate k = .ok (table.entry k) := by
    rw [hw.table_eq]
    exact hserves.locate k (hw.capacity_eq ▸ hk)
  obtain ⟨a', host, issued, ha', hhost, hcompile, hstep⟩ :=
    HostBackend.compile_bound hw.host ho hn hnew hsig hroom hid
  have ht : t = .ok (some (table.entry k)) [.callbackRegistered k (table.entry k)]
      { w.table with
        registry := { w.table.registry with free }.bind k
          ⟨⟨held, signature⟩, table.entry k, identity⟩ } := by
    simp only [t, Trampoline.compile_bound hknown hsig hfree he]
    rfl
  have hh : h = .ok (some a') [.hostCallbackRegistered a']
      { host, issued, live := w.host.live + 1 } := by
    simp only [h, hcompile]
    rfl
  have haddress :=
    hw.sound.indexed.address_ne hw.sound.accounted (hw.separates hserves) hfree he
  rw [ht] at hsound
  rw [ht, hh]
  exact ⟨.issued ((pairs_after ..).2 (.inr ⟨rfl, rfl⟩)),
    hw.binds hfree rfl hsound rfl haddress hid.symm ha' hhost hstep rfl⟩

/-- Both sides answer alike when they are to register, and stay in step. -/
theorem compile (hw : InStep table n bound w) (hid : held.identity = identity) :
    let t := (w.table.compile held identity).map some
    let h := (w.host.compile held identity).map some
    Agree (w.after t h).Pairs t.answer h.answer ∧ InStep table n bound (w.after t h) := by
  cases hknown : identity.bind w.table.registry.addressOf? with
  | some a =>
    obtain ⟨i, rfl, hi⟩ := Option.bind_eq_some_iff.1 hknown
    obtain ⟨a', hp, hi'⟩ := hw.addressOf?_iff.1 hi
    have hknown' : (some i).bind w.host.addressOf? = some a' := hi'
    rw [Trampoline.compile_known hknown, HostBackend.compile_known hknown']
    refine ⟨.issued ((pairs_after ..).2 (.inr ⟨rfl, rfl⟩)), hw.unchanged rfl hw.host rfl ?_⟩
    rintro b b' ⟨⟩ ⟨⟩
    exact hp
  | none =>
    have hnew : identity.bind w.host.addressOf? = none := by
      cases identity with
      | none => rfl
      | some i => exact hw.host_addressOf?_eq_none hknown
    cases hsig : Signature.of held.callback with
    | error e =>
      rw [Trampoline.compile_rejected hknown hsig, HostBackend.compile_rejected hnew hsig]
      exact hw.refused e _ _ rfl
    | ok signature =>
      have hfull : (bound w.host.host).keys.card = n ↔ w.table.registry.free = [] := by
        rw [hw.card_eq, ← hw.sound.accounted.live_eq_capacity, hw.capacity_eq]
        rfl
      cases hfree : w.table.registry.free with
      | nil =>
        rw [Trampoline.compile_full hknown hsig hfree, hw.capacity_eq,
          HostBackend.compile_full hw.host ho hn hnew hsig (hfull.2 hfree)]
        exact hw.refused (.capacityExceeded n) _ _ rfl
      | cons k free =>
        have hle : (bound w.host.host).keys.card ≤ n := by
          rw [hw.card_eq, ← hw.capacity_eq]
          exact Nat.sub_le _ _
        have hne : (bound w.host.host).keys.card ≠ n := fun hcard => by
          rw [hfull.1 hcard] at hfree
          contradiction
        exact hw.compile_room hserves hn ho hid hknown hnew hsig hfree (Nat.lt_of_le_of_ne hle hne)

omit hn

/-- Both sides release the registration that a pair of addresses stands for. -/
theorem unregister_pair (hw : InStep table n bound w) {a a' : Word} (hp : w.Pairs a a') :
    let t := (Request.unregister a).onTable w.table
    let h := (Request.unregister a').onHost w.host
    Agree (w.after t h).Pairs t.answer h.answer ∧ InStep table n bound (w.after t h) := by
  intro t h
  have hsound : t.state.Sound := hw.sound.perform (hw.separates hserves) (.unregister a)
  obtain ⟨k, s, hs, rfl, hm⟩ := hw.paired.bound hp
  obtain ⟨host, issued, hhost, hunregister, hstep⟩ :=
    HostBackend.unregister_of_bound hw.host ho hm
  have ht : t = .ok none [.callbackReleased k s.address]
      { w.table with registry := w.table.registry.unbind k s } := by
    simp only [t, Request.onTable, Request.operation, Trampoline.Operation.perform,
      Trampoline.unregister_of_bound hw.sound hs]
    rfl
  have hh : h = .ok none [.hostCallbackReleased a'] { host, issued, live := w.host.live - 1 } := by
    simp only [h, Request.onHost, hunregister]
    rfl
  rw [ht] at hsound
  rw [ht, hh]
  exact ⟨.done, hw.unbinds hs hp rfl hsound rfl hhost hstep⟩

/-- Both sides release by identity, or do not know it. -/
theorem unregisterShared (hw : InStep table n bound w) (i : Identity) :
    let t := (Request.unregisterShared i).onTable w.table
    let h := (Request.unregisterShared i).onHost w.host
    Agree (w.after t h).Pairs t.answer h.answer ∧ InStep table n bound (w.after t h) := by
  intro t h
  have hsound : t.state.Sound := hw.sound.perform (hw.separates hserves) (.unregisterShared i)
  cases hi : w.table.registry.addressOf? i with
  | none =>
    have ht : t = .refuse (.notFound (.identity i)) [] w.table := by
      simp only [t, Request.onTable, Request.operation, Trampoline.Operation.perform,
        Trampoline.unregisterShared_of_unknown hi]
      rfl
    have hh : h = .refuse (.notFound (.identity i)) [] w.host := by
      simp only [h, Request.onHost,
        HostBackend.unregisterShared_of_unknown (hw.host_addressOf?_eq_none hi)]
      rfl
    rw [ht, hh]
    exact hw.refused (.notFound (.identity i)) [] [] rfl
  | some a =>
    obtain ⟨k, s, hs, hsi, rfl⟩ := hw.indexed.addressOf_iff.1 hi
    obtain ⟨a', hp⟩ := hw.paired.left hs
    obtain ⟨host, issued, hhost, hunregister, hstep⟩ :=
      HostBackend.unregisterShared_of_bound hw.host ho (hw.lookup_of_pair hs hp)
        (hw.identity_eq hs ▸ hsi)
    have ht : t = .ok none [.callbackReleased k s.address]
        { w.table with registry := w.table.registry.unbind k s } := by
      simp only [t, Request.onTable, Request.operation, Trampoline.Operation.perform,
        Trampoline.unregisterShared_of_bound hw.sound hs hsi]
      rfl
    have hh : h = .ok none [.hostCallbackReleased a']
        { host, issued, live := w.host.live - 1 } := by
      simp only [h, Request.onHost, hunregister]
      rfl
    rw [ht] at hsound
    rw [ht, hh]
    exact ⟨.done, hw.unbinds hs hp rfl hsound rfl hhost hstep⟩

include hn

/-- Whatever both sides are asked, they answer alike and stay in step. -/
theorem step (hw : InStep table n bound w) {rt rh : Request β} (hasks : w.Asks bound rt rh) :
    Agree (w.next rt rh).Pairs (rt.onTable w.table).answer (rh.onHost w.host).answer ∧
      InStep table n bound (w.next rt rh) := by
  unfold Twins.next
  cases hasks with
  | register c =>
    have hid : ({ callback := c } : HeldCallback β).identity = none := rfl
    have hstep := hw.compile hserves hn ho hid
    simpa only [Request.onTable, Request.operation, Trampoline.Operation.perform,
      Trampoline.register, Request.onHost, HostBackend.register_eq_compile] using hstep
  | registerShared s =>
    have hid : s.held.identity = some s.identity := rfl
    have hstep := hw.compile hserves hn ho hid
    simpa only [Request.onTable, Request.operation, Trampoline.Operation.perform,
      Trampoline.registerShared, Request.onHost, HostBackend.registerShared_eq_compile] using hstep
  | unregister hk => exact hw.unregister_pair hserves ho (List.mem_of_getElem? hk)
  | @unregisterUnknown a ht hh =>
    obtain ⟨host, hhost, hunregister⟩ := HostBackend.unregister_of_unknown ho hh
    have hstep := hw.refused (.notFound (.address a)) [] [] hhost
    simp only [Request.onTable, Request.operation, Trampoline.Operation.perform,
      Trampoline.unregister_of_unknown ht, Request.onHost, hunregister]
    exact hstep
  | unregisterShared i => exact hw.unregisterShared hserves ho i

/-- Whatever both sides are asked in whatever order, they are in step. -/
theorem reached {start : Twins β η} (hstart : InStep table n bound start)
    (hw : Reached bound start w) : InStep table n bound w := by
  induction hw with
  | start => exact hstart
  | next _ hasks ih => exact (ih.step hserves hn ho hasks).2

end Requests

end Twins.InStep

/-- A trampoline over a table that serves every slot and a host backend of the same capacity, both
without registrations at first and asked the same ever since. Each request is answered alike: with
two addresses of one registration, with nothing, or with the same error. The counts are equal, the
live addresses of the two sides correspond one to one, and behind two that correspond stands the
same callback, which gives the same result on the same block. -/
theorem Twins.backends_alike {β η : Type} [Registrar η β] {table : EntryTable} {n : Nat}
    {t : Trampoline β} (hcreate : Trampoline.create table n = .ok t) (hserves : table.Serves n)
    {bound : η → Bindings β} (ho : Registrar.Obliging n bound) {host : η} (hempty : bound host = ∅)
    {w : Twins β η}
    (hw : Reached bound { table := t, host := { host } } w) :
    (∀ rt rh, w.Asks bound rt rh →
      Agree (w.next rt rh).Pairs (rt.onTable w.table).answer (rh.onHost w.host).answer) ∧
    w.host.live.toNat = w.table.live ∧
    (∀ a, w.table.registry.slotAt? a ≠ none → ∃! a', w.Pairs a a') ∧
    (∀ a', a' ∈ bound w.host.host → ∃! a, w.Pairs a a') ∧
    ∀ a a', w.Pairs a a' → ∃ k b, w.table.registry.slotAt? a = some k ∧
      w.table.registry.binding? k = some b ∧ (bound w.host.host).lookup a' = some b ∧
      ∀ {σ : Type} (x : Execution β σ) (registry : σ → Registry β) (block : Block) (st : σ),
        registry st = w.table.registry →
        (dispatchAddress x registry a block st).ended = (b.invoke x block st).ended.map .ok ∧
        (dispatchAddress x registry a block st).state = (b.invoke x block st).state := by
  obtain ⟨hn, rfl⟩ := Trampoline.create_eq_ok hcreate
  have hstart : InStep table n bound
      ({ table := { registry := .empty n, table }, host := { host } } : Twins β η) :=
    .start table n hempty
  have h : InStep table n bound w := InStep.reached hserves hn ho hstart hw
  refine ⟨fun rt rh hasks => (h.step hserves hn ho hasks).1, ?_, ?_, ?_, ?_⟩
  · rw [h.host.live_eq, h.card_eq]
  · intro a ha
    obtain ⟨k, hk⟩ := Option.ne_none_iff_exists'.1 ha
    obtain ⟨s, hs, rfl⟩ := h.indexed.slotAt_iff.1 hk
    obtain ⟨a', hp⟩ := h.paired.left hs
    exact ⟨a', hp, fun b hb => (h.paired.eq_iff hb hp).1 rfl⟩
  · intro a' ha'
    obtain ⟨a, hp⟩ := h.paired.right ha'
    exact ⟨a, hp, fun b hb => (h.paired.eq_iff hb hp).2 rfl⟩
  · intro a a' hp
    obtain ⟨k, s, hs, rfl, hm⟩ := h.paired.bound hp
    have hk : w.table.registry.slotAt? s.address = some k := h.indexed.slotAt_iff.2 ⟨s, hs, rfl⟩
    refine ⟨k, s.binding, hk, by simp [Registry.binding?, hs], hm, ?_⟩
    intro σ x registry block st hst
    rw [dispatchAddress_of_bound (hst ▸ hk), dispatch_of_bound (hst ▸ hs)]
    exact s.binding.runAt_spec x k block st

/-- A host with two places, at the addresses 7 and 8. -/
structure TwoPlaces where
  bound : Bindings Unit
  keys_subset : bound.keys ⊆ {7, 8}

namespace TwoPlaces

/-- The place that is filled next. -/
def place (h : TwoPlaces) : Word := if 7 ∈ h.bound then 8 else 7

instance : Registrar TwoPlaces Unit where
  register h b :=
    if h.place ∈ h.bound then (.error (.host "no place left"), h)
    else (.ok h.place,
      { bound := h.bound.insert h.place b
        keys_subset := by
          intro a ha
          rw [Finmap.mem_keys, Finmap.mem_insert] at ha
          rcases ha with rfl | ha
          · unfold place
            split_ifs <;> simp
          · exact h.keys_subset (Finmap.mem_keys.2 ha) })
  unregister h a :=
    if a ∈ h.bound then
      (.ok (),
        { bound := h.bound.erase a
          keys_subset := by
            rw [Finmap.keys_erase]
            exact (Finset.erase_subset _ _).trans h.keys_subset })
    else (.error (.notFound (.address a)), h)
  capacity _ := 2

theorem obliging : Registrar.Obliging 2 TwoPlaces.bound where
  register_ok {h h' b a} heq := by
    simp only [Registrar.register] at heq
    split_ifs at heq with hmem
    · cases heq
    · cases heq
      exact ⟨hmem, rfl⟩
  register_error {h h' b e} heq := by
    simp only [Registrar.register] at heq
    split_ifs at heq with hmem
    · cases heq
      rfl
    · cases heq
  unregister_ok {h h' a} heq := by
    simp only [Registrar.unregister] at heq
    split_ifs at heq with hmem
    · cases heq
      exact ⟨hmem, rfl⟩
    · cases heq
  unregister_error {h h' a e} heq := by
    simp only [Registrar.unregister] at heq
    split_ifs at heq with hmem
    · cases heq
    · cases heq
      rfl
  capacity_eq _ := rfl
  accepts h b hcard := by
    have hmem : h.place ∉ h.bound := by
      intro hplace
      unfold place at hplace
      split_ifs at hplace with hseven
      · have hsub : ({7, 8} : Finset Word) ⊆ h.bound.keys := by
          intro a ha
          rcases Finset.mem_insert.1 ha with rfl | ha
          · exact Finmap.mem_keys.2 hseven
          · rw [Finset.mem_singleton.1 ha]
            exact Finmap.mem_keys.2 hplace
        have htwo : 2 ≤ h.bound.keys.card := Finset.card_le_card hsub
        omega
      · exact hseven hplace
    simp only [Registrar.register, if_neg hmem]
    exact ⟨_, _, rfl⟩
  releases h a ha := by
    simp only [Registrar.unregister, if_pos ha]
    exact ⟨_, rfl⟩
  refuses h a ha := by
    simp only [Registrar.unregister, if_neg ha]
    exact ⟨_, rfl⟩

end TwoPlaces

/-- Two slots and two places: a shared callback is registered twice, another one once, and the first
is released by the address it was given. -/
theorem Twins.backends_alike_two_places :
    let table : EntryTable := { base := 0x1000, stride := 5 }
    let t : Trampoline Unit := { registry := .empty 2, table }
    let host : TwoPlaces := { bound := ∅, keys_subset := by simp }
    let c : Callback Unit := { params := [], results := [], body := () }
    let shared : Request Unit := .registerShared ⟨c, .own 0⟩
    let start : Twins Unit TwoPlaces := { table := t, host := { host } }
    let w := (((start.next shared shared).next shared shared).next (.register c) (.register c)).next
      (.unregister 0x1000) (.unregister 7)
    Trampoline.create table 2 = .ok t ∧ table.Serves 2 ∧ Reached TwoPlaces.bound start w ∧
      w.host.live.toNat = w.table.live := by
  intro table t host c shared start w
  have hcreate : Trampoline.create table 2 = .ok t := rfl
  have hserves : table.Serves 2 := ⟨by decide, by decide⟩
  have hw : Reached TwoPlaces.bound start w := by
    refine .next (.next (.next (.next .start ?_) ?_) ?_) ?_
    · exact .registerShared _
    · exact .registerShared _
    · exact .register _
    · exact .unregister (k := 0) rfl
  have hempty : host.bound = ∅ := rfl
  obtain ⟨-, hlive, -⟩ :=
    backends_alike hcreate hserves TwoPlaces.obliging hempty hw
  exact ⟨hcreate, hserves, hw, hlive⟩

end CallBridge
