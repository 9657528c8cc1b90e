import CallBridge.Proofs.Reentrancy

/-!
What is reported of registering and releasing tells which slots are bound and where. A reader notes
the address of each slot that is registered and strikes it out again when the slot is released. The
notes never contradict what is reported next, and they are right at every moment, also while
callbacks run that use the backend.
-/

namespace CallBridge

/-- Reported by registering and releasing, where the rest is reported by running callbacks and by
other parts of the library. -/
def Event.ofRegistration : Event → Bool
  | callbackRegistered .. | callbackReleased .. | callbackDeduplicated _ | callbackRejected _
  | capacityExhausted _ => true
  | _ => false

/-- The addresses of slots as a reader of the events has noted them. -/
abbrev AddressMap := Finmap fun _ : Nat => Word

namespace AddressMap

variable {β : Type} {m : AddressMap} {t : Trampoline β} {k : Nat} {s : Slot β}

/-- Take note of an event. A slot that is registered must not be there yet, and one that is released
must be there with the same address. -/
def note (m : AddressMap) : Event → Option AddressMap
  | .callbackRegistered k a => if k ∈ m then none else some (m.insert k a)
  | .callbackReleased k a => if m.lookup k = some a then some (m.erase k) else none
  | _ => some m

def replay (l : List Event) (m : AddressMap) : Option AddressMap := l.foldlM note m

/-- The bound slots with their addresses. -/
def Mirrors (m : AddressMap) (t : Trampoline β) : Prop :=
  ∀ k, m.lookup k = (t.registry.slot? k).map Slot.address

theorem note_of_other {e : Event} (he : e.ofRegistration = false) : m.note e = some m := by
  cases e with
  | callbackRegistered => contradiction
  | callbackReleased => contradiction
  | _ => rfl

theorem replay_append (l l' : List Event) (m : AddressMap) :
    replay (l ++ l') m = (replay l m).bind (replay l') :=
  List.foldlM_append

theorem replay_singleton (e : Event) (m : AddressMap) : replay [e] m = m.note e := by
  show (m.note e).bind some = m.note e
  exact Option.bind_fun_some _

/-- Only events of registering and releasing are noted. -/
theorem replay_filter (l : List Event) (m : AddressMap) :
    replay (l.filter Event.ofRegistration) m = replay l m := by
  unfold replay
  rw [List.foldlM_filter]
  apply congrArg fun f => List.foldlM f m l
  funext m e
  split_ifs with he
  · rfl
  · exact (note_of_other (by simpa using he)).symm

theorem mirrors_empty (table : EntryTable) (n : Nat) :
    Mirrors ∅ ({ registry := .empty n, table } : Trampoline β) := by
  intro k
  simp

theorem Mirrors.bind (h : m.Mirrors t) (hacc : t.registry.Accounted) {free : List Nat}
    (hfree : t.registry.free = k :: free) :
    ∃ m', m.note (.callbackRegistered k s.address) = some m' ∧
      m'.Mirrors { t with registry := { t.registry with free }.bind k s } := by
  obtain ⟨hpop, hk, -, hslot⟩ := hacc.pop hfree
  have hnew : k ∉ m := by
    rw [← Finmap.lookup_eq_none, h k, hslot]
    rfl
  refine ⟨m.insert k s.address, if_neg hnew, fun j => ?_⟩
  rw [Registry.slot?_bind (hpop.slots_length ▸ hk)]
  by_cases hj : j = k
  · rw [if_pos hj, hj, Finmap.lookup_insert]
    rfl
  · rw [if_neg hj, Finmap.lookup_insert_of_ne _ hj, h j]
    rfl

theorem Mirrors.unbind (h : m.Mirrors t) (hs : t.registry.slot? k = some s) :
    ∃ m', m.note (.callbackReleased k s.address) = some m' ∧
      m'.Mirrors { t with registry := t.registry.unbind k s } := by
  have hk : m.lookup k = some s.address := by
    rw [h k, hs]
    rfl
  refine ⟨m.erase k, if_pos hk, fun j => ?_⟩
  rw [Registry.slot?_unbind]
  by_cases hj : j = k
  · rw [if_pos hj, hj, Finmap.lookup_erase]
    rfl
  · rw [if_neg hj, Finmap.lookup_erase_ne hj, h j]

end AddressMap

namespace Trampoline

variable {β : Type} {t : Trampoline β}

/-- What an operation comes to and what it reports of that: one event in any case for a callback
that is to be registered, and one for a release unless it fails. -/
inductive Operation.Reported (t : Trampoline β) (o : Operation β) :
    Reply RegistrationError (Trampoline β) (Option Word) → Prop where
  | deduplicated {held i a} (ho : o.request? = some (held, some i))
      (ha : t.registry.addressOf? i = some a) :
      Reported t o (.ok (some a) [.callbackDeduplicated a] t)
  | rejected {held identity e} (ho : o.request? = some (held, identity))
      (hnew : identity.bind t.registry.addressOf? = none)
      (hsig : Signature.of held.callback = .error e) :
      Reported t o (.refuse e [.callbackRejected e] t)
  | registered {held identity signature k free a} (ho : o.request? = some (held, identity))
      (hnew : identity.bind t.registry.addressOf? = none)
      (hsig : Signature.of held.callback = .ok signature)
      (hfree : t.registry.free = k :: free) (hslot : t.registry.slot? k = none)
      (ha : t.table.locate k = .ok a) :
      Reported t o (.ok (some a) [.callbackRegistered k a]
        { t with
          registry := { t.registry with free }.bind k ⟨⟨held, signature⟩, a, identity⟩ })
  | exhausted {held identity signature} (ho : o.request? = some (held, identity))
      (hnew : identity.bind t.registry.addressOf? = none)
      (hsig : Signature.of held.callback = .ok signature) (hfree : t.registry.free = []) :
      Reported t o (.refuse (.capacityExceeded t.registry.capacity)
        [.capacityExhausted t.registry.capacity] t)
  | released {k s} (ho : o.request? = none) (hs : t.registry.slot? k = some s) :
      Reported t o (.ok none [.callbackReleased k s.address]
        { t with registry := t.registry.unbind k s })
  | missed {e} (ho : o.request? = none) : Reported t o (.refuse e [] t)

/-- What operations report in order. -/
def log : List (Operation β) → Trampoline β → List Event
  | [], _ => []
  | o :: ops, t => (o.perform t).events ++ log ops (o.perform t).state

theorem log_append (ops rest : List (Operation β)) (t : Trampoline β) :
    log (ops ++ rest) t = log ops t ++ log rest (run ops t).2 := by
  induction ops generalizing t with
  | nil => rfl
  | cons o ops ih =>
    show (o.perform t).events ++ log (ops ++ rest) (o.perform t).state = _
    rw [ih, ← List.append_assoc]
    rfl

namespace Operation

theorem reported_of_request (h : t.Orderly) {o : Operation β} {held : HeldCallback β}
    {identity : Option Identity} (ho : o.request? = some (held, identity)) :
    o.Reported t (o.perform t) := by
  rw [o.perform_of_request ho]
  cases hknown : identity.bind t.registry.addressOf? with
  | some a =>
    obtain ⟨i, rfl, ha⟩ := Option.bind_eq_some_iff.1 hknown
    rw [compile_known hknown]
    exact .deduplicated ho ha
  | none =>
    cases hsig : Signature.of held.callback with
    | error e =>
      rw [compile_rejected hknown hsig]
      exact .rejected ho hknown hsig
    | ok signature =>
      cases hfree : t.registry.free with
      | nil =>
        rw [compile_full hknown hsig hfree]
        exact .exhausted ho hknown hsig hfree
      | cons k free =>
        obtain ⟨-, hk, -, hslot⟩ := h.sound.accounted.pop hfree
        have ha := h.serves.locate k hk
        rw [compile_bound hknown hsig hfree ha]
        exact .registered ho hknown hsig hfree hslot ha

theorem unregister_reported (h : t.Orderly) (a : Word) :
    (unregister a).Reported t ((unregister a).perform t) := by
  rw [perform]
  cases ha : t.registry.slotAt? a with
  | none =>
    rw [unregister_of_unknown ha]
    exact .missed rfl
  | some k =>
    obtain ⟨s, hs, rfl⟩ := h.sound.indexed.slotAt_iff.1 ha
    rw [unregister_of_bound h.sound hs]
    exact .released rfl hs

theorem unregisterShared_reported (h : t.Orderly) (i : Identity) :
    (unregisterShared i).Reported t ((unregisterShared i).perform t) := by
  rw [perform]
  cases hi : t.registry.addressOf? i with
  | none =>
    rw [unregisterShared_of_unknown hi]
    exact .missed rfl
  | some a =>
    obtain ⟨k, s, hs, hsi, -⟩ := h.sound.indexed.addressOf_iff.1 hi
    rw [unregisterShared_of_bound h.sound hs hsi]
    exact .released rfl hs

theorem release_reported (t : Trampoline β) (k : Nat) :
    (release k).Reported t ((release k).perform t) := by
  rw [perform]
  cases hs : t.registry.slot? k with
  | none =>
    rw [release_of_free hs]
    exact .missed rfl
  | some s =>
    rw [release_of_bound hs]
    exact .released rfl hs

theorem perform_reported (h : t.Orderly) (o : Operation β) : o.Reported t (o.perform t) := by
  cases o with
  | register c => exact reported_of_request h rfl
  | registerShared c => exact reported_of_request h rfl
  | compile held identity => exact reported_of_request h rfl
  | unregister a => exact unregister_reported h a
  | unregisterShared i => exact unregisterShared_reported h i
  | release k => exact release_reported t k

end Operation

theorem Operation.Reported.events_cases {o : Operation β}
    {r : Reply RegistrationError (Trampoline β) (Option Word)} (h : o.Reported t r) :
    r.events = [] ∨ ∃ e, r.events = [e] := by
  cases h with
  | missed => exact .inl rfl
  | _ => exact .inr ⟨_, rfl⟩

theorem Operation.Reported.filter_events {o : Operation β}
    {r : Reply RegistrationError (Trampoline β) (Option Word)} (h : o.Reported t r) :
    r.events.filter Event.ofRegistration = r.events := by
  cases h <;> rfl

/-- The events of one operation bring the notes up to date. -/
theorem Operation.Reported.replay {o : Operation β}
    {r : Reply RegistrationError (Trampoline β) (Option Word)} (h : o.Reported t r)
    (ht : t.Orderly) {m : AddressMap} (hm : m.Mirrors t) :
    ∃ m', AddressMap.replay r.events m = some m' ∧ m'.Mirrors r.state := by
  cases h with
  | @registered held identity signature k free a _ _ _ hfree =>
    obtain ⟨m', hnote, hm'⟩ :=
      hm.bind (s := ⟨⟨held, signature⟩, a, identity⟩) ht.sound.accounted hfree
    exact ⟨m', (AddressMap.replay_singleton _ m).trans hnote, hm'⟩
  | released _ hs =>
    obtain ⟨m', hnote, hm'⟩ := hm.unbind hs
    exact ⟨m', (AddressMap.replay_singleton _ m).trans hnote, hm'⟩
  | deduplicated => exact ⟨m, rfl, hm⟩
  | rejected => exact ⟨m, rfl, hm⟩
  | exhausted => exact ⟨m, rfl, hm⟩
  | missed => exact ⟨m, rfl, hm⟩

theorem replay_log (h : t.Orderly) {m : AddressMap} (hm : m.Mirrors t)
    (ops : List (Operation β)) :
    ∃ m', AddressMap.replay (log ops t) m = some m' ∧ m'.Mirrors (run ops t).2 := by
  induction ops generalizing t m with
  | nil => exact ⟨m, rfl, hm⟩
  | cons o ops ih =>
    obtain ⟨m₁, hstep, hm₁⟩ := (o.perform_reported h).replay h hm
    obtain ⟨m', hrest, hm'⟩ := ih (h.perform o) hm₁
    refine ⟨m', ?_, hm'⟩
    rw [log, AddressMap.replay_append, hstep, Option.bind_some, hrest]

/-- No operation reports more than one event, so what was reported up to some moment is what some of
the operations have reported, each of them completely. -/
theorem exists_log_of_prefix (h : t.Orderly) {ops : List (Operation β)} {l : List Event}
    (hl : l <+: log ops t) : ∃ done, done <+: ops ∧ l = log done t := by
  induction ops generalizing t l with
  | nil => exact ⟨[], List.prefix_rfl, List.prefix_nil.1 hl⟩
  | cons o ops ih =>
    rcases (o.perform_reported h).events_cases with hnone | ⟨e, he⟩
    · rw [log, hnone, List.nil_append] at hl
      obtain ⟨done, hdone, rfl⟩ := ih (h.perform o) hl
      refine ⟨o :: done, (List.prefix_cons_inj o).2 hdone, ?_⟩
      rw [log, hnone, List.nil_append]
    · rw [log, he, List.singleton_append, List.prefix_cons_iff] at hl
      rcases hl with rfl | ⟨rest, rfl, hrest⟩
      · exact ⟨[], List.nil_prefix, rfl⟩
      · obtain ⟨done, hdone, rfl⟩ := ih (h.perform o) hrest
        refine ⟨o :: done, (List.prefix_cons_inj o).2 hdone, ?_⟩
        rw [log, he, List.singleton_append]

theorem exists_prefix_log {ops done : List (Operation β)} (hdone : done <+: ops) :
    log done t <+: log ops t := by
  obtain ⟨rest, rfl⟩ := hdone
  rw [log_append]
  exact List.prefix_append _ _

/-- The events tell what these operations have reported, and the notes taken of them are what the
trampoline then holds. -/
structure Tells (t₀ : Trampoline β) (l : List Event) (done : List (Operation β)) : Prop where
  filter_eq : l.filter Event.ofRegistration = log done t₀
  replayed : ∃ m, AddressMap.replay l ∅ = some m ∧ m.Mirrors (run done t₀).2

theorem tells_of_filter (h : t.Orderly) (hempty : AddressMap.Mirrors ∅ t) {l : List Event}
    {done : List (Operation β)} (hl : l.filter Event.ofRegistration = log done t) :
    Tells t l done where
  filter_eq := hl
  replayed := by
    obtain ⟨m, hm, hmirrors⟩ := replay_log h hempty done
    refine ⟨m, ?_, hmirrors⟩
    rw [← AddressMap.replay_filter, hl, hm]

end Trampoline

section Sessions

variable {β ε α γ : Type}

/-- The second session is the first after some operations, and of registering and releasing just
their events were reported. -/
def Session.Recounts (st : Session β ε) (l : List Event) (st' : Session β ε) : Prop :=
  ∃ done, st'.asked = st.asked ++ done ∧ st'.backend = (Trampoline.run done st.backend).2 ∧
    l.filter Event.ofRegistration = Trampoline.log done st.backend

theorem Session.Recounts.quiet (st : Session β ε) {l : List Event}
    (hl : l.filter Event.ofRegistration = []) : st.Recounts l st :=
  ⟨[], by simp, rfl, hl⟩

theorem Session.Recounts.trans {st st₁ st₂ : Session β ε} {l l' : List Event}
    (h : st.Recounts l st₁) (h' : st₁.Recounts l' st₂) : st.Recounts (l ++ l') st₂ := by
  obtain ⟨done, hasked, hbackend, hl⟩ := h
  obtain ⟨rest, hasked', hbackend', hl'⟩ := h'
  refine ⟨done ++ rest, ?_, ?_, ?_⟩
  · rw [hasked', hasked, List.append_assoc]
  · rw [hbackend', hbackend, Trampoline.run_append]
  · rw [List.filter_append, hl, hl', hbackend, Trampoline.log_append]

theorem Session.Recounts.orderly {st st' : Session β ε} {l : List Event} (h : st.Recounts l st')
    (hst : st.backend.Orderly) : st'.backend.Orderly := by
  obtain ⟨done, -, hbackend, -⟩ := h
  rw [hbackend]
  exact hst.run done

namespace Action

/-- However the action ends, its events recount what was asked of a backend that is in order. -/
def Recounts (y : Action (Session β ε) α) : Prop :=
  ∀ st : Session β ε, st.backend.Orderly → st.Recounts (y st).events (y st).state

variable {y : Action (Session β ε) α}

theorem Recounts.of_quiet (hstate : ∀ st, (y st).state = st)
    (hevents : ∀ st, (y st).events.filter Event.ofRegistration = []) : Recounts y := by
  intro st _
  rw [hstate]
  exact .quiet st (hevents st)

theorem recounts_pure (a : α) : Recounts (pure a : Action (Session β ε) α) :=
  .of_quiet (fun _ => rfl) fun _ => rfl

theorem recounts_get : Recounts (get : Action (Session β ε) (Session β ε)) :=
  .of_quiet (fun _ => rfl) fun _ => rfl

theorem recounts_stop (e : Stop) : Recounts (stop e : Action (Session β ε) α) :=
  .of_quiet (fun _ => rfl) fun _ => rfl

theorem recounts_emit {e : Event} (he : e.ofRegistration = false) :
    Recounts (emit e : Action (Session β ε) Unit) := by
  apply Recounts.of_quiet
  · exact fun _ => rfl
  · intro st
    exact List.filter_cons_of_neg (by simp [he])

theorem recounts_require (r : Except Violation α) :
    Recounts (require r : Action (Session β ε) α) := by
  cases r <;> exact .of_quiet (fun _ => rfl) fun _ => rfl

theorem Recounts.bind {f : α → Action (Session β ε) γ} (hy : Recounts y)
    (hf : ∀ a, Recounts (f a)) : Recounts (y >>= f) := by
  intro st hst
  have hfirst := hy st hst
  rcases hr : y st with ⟨e | a, st', l⟩
  · rw [hr] at hfirst
    rw [bind_of_error hr]
    exact hfirst
  · rw [hr] at hfirst
    rw [bind_of_ok hr]
    have hboth := hfirst.trans (hf a st' (hfirst.orderly hst))
    unfold Run.events at hboth ⊢
    rwa [List.filterMap_append]

theorem Recounts.attempt (hy : Recounts y) : Recounts (attempt y) := by
  intro st hst
  unfold Run.events
  rw [attempt_state, attempt_records]
  exact hy st hst

theorem recounts_modify (f : Trampoline β → ε → ε) : Recounts
    (modify fun st : Session β ε => { st with client := f st.backend st.client }) :=
  fun _ _ => ⟨[], by simp, rfl, rfl⟩

theorem recounts_ask (o : Trampoline.Operation β) :
    Recounts (Session.ask o : Action (Session β ε) _) := by
  intro st hst
  have hevents : (Session.ask o st).events = (o.perform st.backend).events := by
    show List.filterMap Record.event? ((o.perform st.backend).events.map Record.event) = _
    rw [List.filterMap_map]
    exact List.filterMap_some
  refine ⟨[o], rfl, rfl, ?_⟩
  rw [hevents, (o.perform_reported hst).filter_events]
  exact (List.append_nil _).symm

end Action

theorem recounts_carried : Program.Carried fun _ => Action.Recounts (β := β) (ε := ε) where
  pure := Action.recounts_pure
  get := Action.recounts_get
  require := Action.recounts_require
  invoked _ := Action.recounts_emit rfl
  dropped _ := Action.recounts_emit rfl
  bind := Action.Recounts.bind
  stop := Action.recounts_stop
  ask := Action.recounts_ask
  attempt := Action.Recounts.attempt
  client := Action.recounts_modify

/-- Whatever a program does with a trampoline over a table that serves every slot, and whatever the
callbacks do that run on the way, in each other if need be. From the first event on, no slot is
reported as registered that is in the notes already, and none as released that is not, or not with
that address. After each operation the notes hold the bound slots with their addresses, and at every
event they are what some of the operations have left. Each registration reports one event, which
says what became of it; a release that fails reports nothing. -/
theorem events_replay_slots {table : EntryTable} {n : Nat} {t₀ : Trampoline β}
    (hcreate : Trampoline.create table n = .ok t₀) (hserves : table.Serves n)
    (memory : Session β ε → Memory) (code : β → List Value → Program β ε) (depth : Nat)
    (p : Program β ε) (client : ε) :
    let r := p.perform (nested memory code depth) { backend := t₀, client }
    r.state.backend = (Trampoline.run r.state.asked t₀).2 ∧
    (∀ done, done <+: r.state.asked → ∃ l, l <+: r.events ∧ t₀.Tells l done) ∧
    (∀ l, l <+: r.events → ∃ done, done <+: r.state.asked ∧ t₀.Tells l done) ∧
    ∀ done (o : Trampoline.Operation β),
      o.Reported (Trampoline.run done t₀).2 (o.perform (Trampoline.run done t₀).2) := by
  intro r
  obtain ⟨-, rfl⟩ := Trampoline.create_eq_ok hcreate
  have horderly := Trampoline.empty_orderly (β := β) hserves
  have hempty := AddressMap.mirrors_empty (β := β) table n
  obtain ⟨asked, hasked, hbackend, hevents⟩ :
      Session.Recounts { backend := _, client } r.events r.state :=
    recounts_carried.perform (recounts_carried.nested memory code depth) p _ horderly
  rw [List.nil_append] at hasked
  rw [← hasked] at hbackend hevents
  refine ⟨hbackend, ?_, ?_, fun done o => o.perform_reported (horderly.run done)⟩
  · intro done hdone
    have hlog := Trampoline.exists_prefix_log (t := { registry := .empty n, table }) hdone
    rw [← hevents, List.prefix_filter_iff] at hlog
    obtain ⟨l, hl, hfilter⟩ := hlog
    exact ⟨l, hl, Trampoline.tells_of_filter horderly hempty hfilter.symm⟩
  · intro l hl
    have hprefix := hl.filter Event.ofRegistration
    rw [hevents] at hprefix
    obtain ⟨done, hdone, hlog⟩ := Trampoline.exists_log_of_prefix horderly hprefix
    exact ⟨done, hdone, Trampoline.tells_of_filter horderly hempty hlog⟩

end Sessions

/-- The first of two slots holds a callback that releases it by its own address, has it taken by the
other callback, and dispatches to that. Afterwards the table is full. The notes are right at the
end, and also when the slot has just been released and the callback is still running. -/
theorem events_replay_slots_own_slot :
    let outer : Callback Bool := { params := [], results := [], body := true }
    let inner : Callback Bool := { params := [], results := [], body := false }
    let shared : SharedCallback Bool := ⟨inner, .own 0⟩
    let block : Block := { words := [] }
    let memory (_ : Session Bool Unit) : Memory := {}
    let code (isOuter : Bool) (_ : List Value) : Program Bool Unit :=
      if isOuter then
        .asks (.unregister 0x1000) fun _ => .asks (.register inner) fun _ =>
          .dispatches 0 block fun _ => .returns none
      else .returns none
    let p : Program Bool Unit :=
      .asks (.register outer) fun _ => .asks (.registerShared shared) fun _ =>
        .asks (.registerShared shared) fun _ => .dispatches 0 block fun _ =>
          .asks (.register inner) fun _ => .asks (.release 7) fun _ => .returns none
    let table : EntryTable := { base := 0x1000, stride := 5 }
    let t₀ : Trampoline Bool := { registry := .empty 2, table }
    let r := p.perform (nested memory code 2) { backend := t₀, client := () }
    let before : List Event :=
      [.callbackRegistered 0 0x1000, .callbackRegistered 1 0x1005, .callbackDeduplicated 0x1005,
        .callbackInvoked 0, .callbackReleased 0 0x1000]
    let after : List Event :=
      [.callbackRegistered 0 0x1000, .callbackInvoked 0, .capacityExhausted 2]
    Trampoline.create table 2 = .ok t₀ ∧ table.Serves 2 ∧ r.events = before ++ after ∧
      (∃ done, done <+: r.state.asked ∧ t₀.Tells before done) ∧
      ∃ done, done <+: r.state.asked ∧ t₀.Tells (before ++ after) done := by
  intro outer inner shared block memory code p table t₀ r before after
  have hcreate : Trampoline.create table 2 = .ok t₀ := rfl
  have hserves : table.Serves 2 := ⟨by decide, by decide⟩
  have hevents : r.events = before ++ after := by decide +kernel
  obtain ⟨-, -, htells, -⟩ := events_replay_slots hcreate hserves memory code 2 p ()
  rw [hevents] at htells
  exact ⟨hcreate, hserves, hevents, htells before (List.prefix_append before after),
    htells (before ++ after) List.prefix_rfl⟩

end CallBridge
