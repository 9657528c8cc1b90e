import CallBridge.Process
import CallBridge.Proofs.Actions
import CallBridge.Proofs.Registrations
import CallBridge.Proofs.SettingsOverlay

/-!
Runs of a process. What is settled once stays settled: the settings, the backend chosen, and the
library's own table with its place and capacity. Everything else may change in any way between two
steps, so that runs cover whatever programs and native code do around the library.
-/

namespace CallBridge

/-- Why settings are not put into effect, where they are not. -/
def Settings.refusal (s : Settings) : SettingsError :=
  if s.validate = .ok () then .alreadyInstalled else .capacity s.capacity

namespace Process

variable {β η ε : Type} {p q : Process β η ε} {t : Trampoline β}

/-- A process that has done nothing yet. -/
structure Fresh (p : Process β η ε) : Prop where
  settings : p.settings = none
  native : p.native = .untouched
  choice : p.choice = none

/-- What no step changes but those of the library. -/
structure Agrees (p q : Process β η ε) : Prop where
  nativeBase : q.nativeBase = p.nativeBase
  settings : q.settings = p.settings
  native : q.native = p.native
  choice : q.choice = p.choice

theorem Agrees.refl (p : Process β η ε) : p.Agrees p := ⟨rfl, rfl, rfl, rfl⟩

theorem Agrees.trans {r : Process β η ε} (h : p.Agrees q) (h' : q.Agrees r) : p.Agrees r where
  nativeBase := h'.nativeBase.trans h.nativeBase
  settings := h'.settings.trans h.settings
  native := h'.native.trans h.native
  choice := h'.choice.trans h.choice

/-- One step of a run: something outside of the library, or an operation of the library. -/
inductive Step [Registrar η β] (p : Process β η ε) : Process β η ε → Prop where
  | outside {q : Process β η ε} (h : p.Agrees q) : Step p q
  | readsSettings : Step p (readSettings p).state
  | installs (s : Settings) : Step p (install s p).state
  | choosesBackend (b : Backend β η) : Step p (installBackend b p).state
  | opensTable : Step p (nativeTrampoline p).state
  | opensBackend : Step p (backend p).state
  | registers (c : Callback β) : Step p (register c p).state
  | registersShared (s : SharedCallback β) : Step p (registerShared s p).state
  | unregisters (a : Word) : Step p (unregister a p).state
  | unregistersShared (i : Identity) : Step p (unregisterShared i p).state
  | operates {t : Trampoline β} (h : p.native = .ready t) (o : Trampoline.Operation β) :
      Step p { p with native := .ready (o.perform t).state }

/-- The states of all runs. -/
inductive Reached [Registrar η β] : Process β η ε → Prop where
  | fresh {p : Process β η ε} (h : Fresh p) : Reached p
  | next {p q : Process β η ε} (hp : Reached p) (hstep : Step p q) : Reached q

/-- The library's own table once it is in use. -/
structure Holds (p : Process β η ε) (t : Trampoline β) : Prop where
  configured : ∃ s, p.settings = some s ∧ t.registry.capacity = min s.capacity maxCallbacks
  table : t.table = .native p.nativeBase
  sound : t.Sound

theorem Holds.settled (h : p.Holds t) : p.settings.isSome = true := by
  obtain ⟨s, hs, -⟩ := h.configured
  simp [hs]

theorem Holds.capacity (h : p.Holds t) : t.registry.capacity ≤ maxCallbacks := by
  obtain ⟨s, -, hcapacity⟩ := h.configured
  rw [hcapacity]
  exact Nat.min_le_right _ _

def Sound (p : Process β η ε) : Prop := ∀ t, p.native = .ready t → p.Holds t

/-- Entries of the library's own table do not wrap around the end of the address space. -/
theorem native_locate_eq_ok {base a : Word} {k : Nat}
    (h : (EntryTable.native base).locate k = .ok a) :
    a = (EntryTable.native base).entry k ∧ a.toNat = base.toNat + k * 5 := by
  unfold EntryTable.locate at h
  have hstride : (EntryTable.native base).stride.toNat = 5 := rfl
  have hbase : (EntryTable.native base).base = base := rfl
  simp only [hstride, hbase, wordCount] at h
  split_ifs at h with hmul hadd
  cases h
  refine ⟨rfl, ?_⟩
  simp only [EntryTable.entry, EntryTable.native, BitVec.toNat_add, BitVec.toNat_mul,
    BitVec.toNat_ofNat, trampolineStride, Convention.entryStride, Convention.host]
  omega

/-- Over the library's own table different slots have different addresses. -/
theorem native_separates (base : Word) (n : Nat) : Separates (EntryTable.native base).locate n := by
  intro j k a _ _ hj hk
  obtain ⟨-, haj⟩ := native_locate_eq_ok hj
  obtain ⟨-, hak⟩ := native_locate_eq_ok hk
  omega

/-- Holding depends on the place of the table and on the settings only. -/
theorem Holds.congr (h : p.Holds t) (hbase : q.nativeBase = p.nativeBase)
    (hsettings : q.settings = p.settings) : q.Holds t where
  configured := hsettings ▸ h.configured
  table := hbase ▸ h.table
  sound := h.sound

theorem Holds.agrees (h : p.Holds t) (hq : p.Agrees q) : q.Holds t :=
  h.congr hq.nativeBase hq.settings

theorem Sound.agrees (h : p.Sound) (hq : p.Agrees q) : q.Sound := by
  intro t ht
  rw [hq.native] at ht
  exact (h t ht).agrees hq

theorem Holds.separates (h : p.Holds t) : Separates t.table.locate t.registry.capacity := by
  rw [h.table]
  exact native_separates p.nativeBase t.registry.capacity

theorem Holds.perform (h : p.Holds t) (o : Trampoline.Operation β) :
    Holds p (o.perform t).state where
  configured := by
    rw [(o.perform_change t).capacity]
    exact h.configured
  table := (o.perform_table t).trans h.table
  sound := h.sound.perform h.separates o

theorem readSettings_of_some {s : Settings} (h : p.settings = some s) :
    readSettings p = ⟨.ok s, p, []⟩ := by
  unfold readSettings
  rw [Action.get_bind]
  simp only [h]
  rfl

theorem readSettings_of_none (hs : p.settings = none) :
    readSettings p =
      match Settings.ofEnvironment p.environment p.files p.format with
      | .ok s => ⟨.ok s, { p with settings := some s }, []⟩
      | .error (.capacity n) =>
        ⟨.error (.panic (.violation (.configuredCapacity n))), p,
          [.event (.ofViolation (.configuredCapacity n))]⟩
      | .error e => ⟨.ok {}, { p with settings := some {} }, [.event (.settingsRejected e)]⟩ := by
  unfold readSettings
  rw [Action.get_bind]
  simp only [hs]
  cases Settings.ofEnvironment p.environment p.files p.format with
  | ok s => rfl
  | error e => cases e <;> rfl

/-- What reading the settings comes to. -/
inductive SettingsRead (p : Process β η ε) : Run (Process β η ε) Settings → Prop where
  | again {s : Settings} (hs : p.settings = some s) : SettingsRead p ⟨.ok s, p, []⟩
  | first {s : Settings} {l : List Record} (hs : p.settings = none) (hv : s.validate = .ok ()) :
      SettingsRead p ⟨.ok s, { p with settings := some s }, l⟩
  | fatal (hs : p.settings = none) (v : Violation) :
      SettingsRead p ⟨.error (.panic (.violation v)), p, [.event (.ofViolation v)]⟩

theorem readSettings_read (p : Process β η ε) : SettingsRead p (readSettings p) := by
  cases hs : p.settings with
  | some s =>
    rw [readSettings_of_some hs]
    exact .again hs
  | none =>
    rw [readSettings_of_none hs]
    cases he : Settings.ofEnvironment p.environment p.files p.format with
    | ok s => exact .first hs (Settings.validate_of_ofEnvironment he)
    | error e =>
      cases e with
      | capacity n => exact .fatal hs _
      | _ => exact .first hs rfl

/-- Reading the settings puts some into effect at most; the rest of the process stays. -/
theorem readSettings_spec (p : Process β η ε) :
    ∃ o, (readSettings p).state = { p with settings := o } ∧
      (p.settings.isSome = true → o = p.settings) ∧
      ∀ s, (readSettings p).ended = .ok s → o = some s := by
  have hread := readSettings_read p
  rcases hr : readSettings p with ⟨x, q, l⟩
  rw [hr] at hread
  cases hread with
  | again hs =>
    refine ⟨p.settings, rfl, fun _ => rfl, ?_⟩
    rintro s ⟨⟩
    exact hs
  | @first s l hs =>
    refine ⟨some s, rfl, by simp [hs], ?_⟩
    rintro s' ⟨⟩
    rfl
  | fatal => exact ⟨p.settings, rfl, fun _ => rfl, nofun⟩

theorem readSettings_settled_iff :
    (readSettings p).state.settings.isSome = true ↔
      p.settings.isSome = true ∨ ∃ s, (readSettings p).ended = .ok s := by
  have hread := readSettings_read p
  rcases hr : readSettings p with ⟨x, q, l⟩
  rw [hr] at hread
  cases hread with
  | again hs => simp [hs]
  | first | fatal => simp

theorem Sound.withSettings (h : p.Sound) {o : Option Settings}
    (ho : p.settings.isSome = true → o = p.settings) : Sound { p with settings := o } := by
  intro t ht
  exact (h t ht).congr rfl (ho (h t ht).settled)

theorem keeps_readSettings :
    Action.Keeps Sound (readSettings : Action (Process β η ε) Settings) := by
  intro p h
  obtain ⟨o, hstate, ho, -⟩ := readSettings_spec p
  rw [hstate]
  exact h.withSettings ho

theorem install_of_valid {s : Settings} (hv : s.validate = .ok ()) (hs : p.settings = none) :
    install s p = ⟨.ok (.ok ()), { p with settings := some s }, []⟩ := by
  unfold install
  rw [Action.get_bind]
  simp only [hv, hs]
  rfl

/-- Settings that are not put into effect leave no trace. -/
theorem install_of_not {s : Settings} (h : ¬ (s.validate = .ok () ∧ p.settings = none)) :
    install s p = ⟨.ok (.error s.refusal), p, []⟩ := by
  unfold install Settings.refusal
  rw [Action.get_bind]
  by_cases hv : s.validate = .ok ()
  · have hs : p.settings.isSome = true := Option.isSome_iff_ne_none.2 fun hs => h ⟨hv, hs⟩
    simp only [hv, hs]
    rfl
  · have hcapacity : s.validate = .error (.capacity s.capacity) := by
      unfold Settings.validate at hv ⊢
      split_ifs at hv ⊢
      · contradiction
      · rfl
    simp only [hcapacity]
    rfl

theorem keeps_install (s : Settings) :
    Action.Keeps Sound (install s : Action (Process β η ε) (Except SettingsError Unit)) := by
  intro p h
  by_cases hs : s.validate = .ok () ∧ p.settings = none
  · rw [install_of_valid hs.1 hs.2]
    exact h.withSettings (by simp [hs.2])
  · rw [install_of_not hs]
    exact h

theorem installBackend_of_none [Registrar η β] (hc : p.choice = none) (b : Backend β η) :
    installBackend b p = ⟨.ok (.ok ()), { p with choice := some (.installed b) },
      [.event (.backendInstalled b.capacity)]⟩ := by
  unfold installBackend
  rw [Action.get_bind]
  simp only [hc]
  rfl

theorem installBackend_of_isSome [Registrar η β] (hc : p.choice.isSome = true) (b : Backend β η) :
    installBackend b p = ⟨.ok (.error .backendAlreadyInstalled), p, []⟩ := by
  unfold installBackend
  rw [Action.get_bind]
  simp only [hc]
  rfl

theorem installBackend_settings [Registrar η β] (b : Backend β η) (p : Process β η ε) :
    (installBackend b p).state.settings = p.settings := by
  by_cases hc : p.choice = none
  · rw [installBackend_of_none hc]
  · rw [installBackend_of_isSome (Option.isSome_iff_ne_none.2 hc)]

theorem keeps_installBackend [Registrar η β] (b : Backend β η) :
    Action.Keeps Sound
      (installBackend b : Action (Process β η ε) (Except RegistrationError Unit)) := by
  intro p h
  by_cases hc : p.choice = none
  · rw [installBackend_of_none hc]
    exact fun t ht => (h t ht).congr rfl rfl
  · rw [installBackend_of_isSome (Option.isSome_iff_ne_none.2 hc)]
    exact h

/-- Making the library's own table, which its first use does. -/
def makeTable (base : Word) : Action (Process β η ε) (Trampoline β) := do
  let s ← readSettings
  Action.demand (Trampoline.create (.native base) (min s.capacity maxCallbacks))

theorem create_holds {s : Settings} (hs : p.settings = some s)
    (ht : Trampoline.create (.native p.nativeBase) (min s.capacity maxCallbacks) = .ok t) :
    p.Holds t := by
  obtain ⟨-, rfl⟩ := Trampoline.create_eq_ok ht
  exact ⟨⟨s, hs, rfl⟩, rfl, Trampoline.empty_sound _ _⟩

theorem makeTable_spec (h : p.Sound) :
    (makeTable p.nativeBase p).state.Sound ∧
      (makeTable p.nativeBase p).state.choice = p.choice ∧
      ∀ t, (makeTable p.nativeBase p).ended = .ok t → (makeTable p.nativeBase p).state.Holds t := by
  obtain ⟨o, hstate, ho, hsome⟩ := readSettings_spec p
  have hq : Sound { p with settings := o } := h.withSettings ho
  unfold makeTable
  cases hr : readSettings p with
  | mk ended q l =>
    rw [hr] at hstate hsome
    cases hstate
    cases ended with
    | error e =>
      rw [Action.bind_of_error hr]
      exact ⟨hq, rfl, nofun⟩
    | ok s =>
      rw [Action.bind_of_ok hr]
      dsimp only
      rw [Action.demand_state]
      exact ⟨hq, rfl, fun t ht => create_holds (hsome s rfl) (Action.demand_ended ht)⟩

theorem nativeTrampoline_of_ready (h : p.native = .ready t) :
    nativeTrampoline p = ⟨.ok t, p, []⟩ := by
  unfold nativeTrampoline
  rw [Action.get_bind]
  simp only [h]
  rfl

/-- The library's own table is in order as soon as it is there. -/
theorem nativeTrampoline_spec (h : p.Sound) :
    (nativeTrampoline p).state.Sound ∧ (nativeTrampoline p).state.choice = p.choice ∧
      ∀ t, (nativeTrampoline p).ended = .ok t → (nativeTrampoline p).state.native = .ready t := by
  unfold nativeTrampoline
  rw [Action.get_bind]
  cases hn : p.native with
  | ready t =>
    refine ⟨h, rfl, ?_⟩
    rintro t' ⟨⟩
    exact hn
  | poisoned => exact ⟨h, rfl, nofun⟩
  | untouched =>
    dsimp only
    obtain ⟨hsound, hchoice, hholds⟩ := makeTable_spec h
    rcases Action.attempt_cases (makeTable p.nativeBase) p with ⟨t, hended, ha⟩ | ⟨e, ha⟩ | ⟨e, ha⟩
    · have ht := hholds t hended
      unfold makeTable at ha ht hchoice
      rw [Action.bind_of_ok ha]
      refine ⟨?_, hchoice, ?_⟩
      · rintro t' ⟨⟩
        exact ht.congr rfl rfl
      · rintro t' ⟨⟩
        rfl
    · unfold makeTable at ha hchoice
      rw [Action.bind_of_ok ha]
      exact ⟨nofun, hchoice, nofun⟩
    · unfold makeTable at ha hchoice hsound
      rw [Action.bind_of_error ha]
      exact ⟨hsound, hchoice, nofun⟩

/-- The backend that is opened is the one that the process then has. -/
theorem backend_spec (h : p.Sound) :
    (backend p : Run _ (Backend β η)).state.Sound ∧
      ∀ b, (backend p).ended = .ok b → (backend p).state.backend? = some b := by
  obtain ⟨hsound, hchoice, hready⟩ := nativeTrampoline_spec h
  unfold backend
  rw [Action.get_bind]
  cases hr : nativeTrampoline p with
  | mk ended q l =>
    rw [hr] at hsound hchoice hready
    cases hc : p.choice with
    | none =>
      dsimp only
      cases ended with
      | error e =>
        rw [Action.bind_of_error hr]
        exact ⟨hsound, nofun⟩
      | ok t =>
        rw [Action.bind_of_ok hr]
        refine ⟨fun t' ht' => (hsound t' ht').congr rfl rfl, ?_⟩
        rintro b ⟨⟩
        have hq : q.native = .ready t := hready t rfl
        show backend? { q with choice := some .native } = _
        simp only [backend?, hq]
    | some c =>
      cases c with
      | installed b =>
        refine ⟨h, ?_⟩
        rintro b' ⟨⟩
        show backend? p = _
        simp only [backend?, hc]
      | native =>
        dsimp only
        cases ended with
        | error e =>
          rw [Action.bind_of_error hr]
          exact ⟨hsound, nofun⟩
        | ok t =>
          rw [Action.bind_of_ok hr]
          refine ⟨hsound, ?_⟩
          rintro b ⟨⟩
          have hq : q.native = .ready t := hready t rfl
          have hqc : q.choice = some .native := hchoice.trans hc
          show backend? q = _
          simp only [backend?, hq, hqc]

/-- What an operation of the backend chosen makes of the library's own table, if that is the
backend. -/
def ActsOnTable {α : Type} (f : Backend β η → Reply RegistrationError (Backend β η) α) : Prop :=
  ∀ t, ∃ o : Trampoline.Operation β, (f (.trampoline t)).state = .trampoline (o.perform t).state

theorem backend?_eq_some {b : Backend β η} (hb : p.backend? = some b) :
    (∃ b', p.choice = some (.installed b')) ∨
      ∃ t, p.choice = some .native ∧ p.native = .ready t ∧ b = .trampoline t := by
  unfold Process.backend? at hb
  cases hc : p.choice with
  | none => simp [hc] at hb
  | some c =>
    cases c with
    | installed b' => exact .inl ⟨b', rfl⟩
    | native =>
      cases hn : p.native with
      | ready t =>
        simp only [hc, hn, Option.some.injEq] at hb
        exact .inr ⟨t, rfl, rfl, hb.symm⟩
      | _ => simp [hc, hn] at hb

theorem setBackend_installed {b' : Backend β η} (hc : p.choice = some (.installed b'))
    (b : Backend β η) : p.setBackend b = { p with choice := some (.installed b) } := by
  simp only [Process.setBackend, hc]

theorem setBackend_native (hc : p.choice = some .native) (t : Trampoline β) :
    p.setBackend (.trampoline t) = { p with native := .ready t } := by
  simp only [Process.setBackend, hc]

theorem Sound.setBackend (h : p.Sound) {b : Backend β η} (hb : p.backend? = some b) {α : Type}
    {f : Backend β η → Reply RegistrationError (Backend β η) α} (hf : ActsOnTable f) :
    (p.setBackend (f b).state).Sound := by
  rcases backend?_eq_some hb with ⟨b', hc⟩ | ⟨t, hc, hn, rfl⟩
  · rw [setBackend_installed hc]
    exact fun t ht => (h t ht).congr rfl rfl
  · obtain ⟨o, ho⟩ := hf t
    rw [ho, setBackend_native hc]
    rintro t' ⟨⟩
    exact ((h t hn).perform o).congr rfl rfl

theorem keeps_onBackend {α : Type} {f : Backend β η → Reply RegistrationError (Backend β η) α}
    (hf : ActsOnTable f) :
    Action.Keeps Sound (onBackend f : Action (Process β η ε) (Except RegistrationError α)) := by
  intro p h
  obtain ⟨hsound, hb⟩ := backend_spec (η := η) h
  unfold onBackend
  cases hr : (backend p : Run _ (Backend β η)) with
  | mk ended q l =>
    rw [hr] at hsound hb
    cases ended with
    | error e =>
      rw [Action.bind_of_error hr]
      exact hsound
    | ok b =>
      rw [Action.bind_of_ok hr]
      exact hsound.setBackend (hb b rfl) hf

section Backend

variable [Registrar η β]

theorem register_actsOnTable (c : Callback β) :
    ActsOnTable fun b : Backend β η => b.register c := fun _ => ⟨.register c, rfl⟩

theorem registerShared_actsOnTable (s : SharedCallback β) :
    ActsOnTable fun b : Backend β η => b.registerShared s := fun _ => ⟨.registerShared s, rfl⟩

theorem unregister_actsOnTable (a : Word) :
    ActsOnTable fun b : Backend β η => b.unregister a := fun _ => ⟨.unregister a, rfl⟩

theorem unregisterShared_actsOnTable (i : Identity) :
    ActsOnTable fun b : Backend β η => b.unregisterShared i := fun _ => ⟨.unregisterShared i, rfl⟩

theorem Step.sound (h : p.Sound) (hstep : Step p q) : q.Sound := by
  cases hstep with
  | outside hq => exact h.agrees hq
  | readsSettings => exact keeps_readSettings p h
  | installs s => exact keeps_install s p h
  | choosesBackend b => exact keeps_installBackend b p h
  | opensTable => exact (nativeTrampoline_spec h).1
  | opensBackend => exact (backend_spec h).1
  | registers c => exact keeps_onBackend (register_actsOnTable c) p h
  | registersShared s => exact keeps_onBackend (registerShared_actsOnTable s) p h
  | unregisters a => exact keeps_onBackend (unregister_actsOnTable a) p h
  | unregistersShared i => exact keeps_onBackend (unregisterShared_actsOnTable i) p h
  | operates ht o =>
    rintro t' ⟨⟩
    exact ((h _ ht).perform o).congr rfl rfl

/-- In every state of every run the library's own table is in order, once it is in use. -/
theorem Reached.sound (h : Reached p) : p.Sound := by
  induction h with
  | fresh h =>
    intro t ht
    rw [h.native] at ht
    contradiction
  | next _ hstep ih => exact hstep.sound ih

end Backend

/-- At the address native code finds the callback, behind the library's own table. -/
def LiveAt (p : Process β η ε) (a : Word) (c : Callback β) : Prop :=
  ∃ t k s, p.native = .ready t ∧ t.registry.slotAt? a = some k ∧ t.registry.slot? k = some s ∧
    s.binding.held.callback = c

/-- Registering with the library's own table puts the callback behind the address it answers. -/
theorem register_liveAt [Registrar η β] (h : p.Sound) {c : Callback β} {a : Word}
    (hchoice : (register c p).state.choice = some .native)
    (hok : (register c p).ended = .ok (.ok a)) : LiveAt (register c p).state a c := by
  obtain ⟨hsound, hb⟩ := backend_spec (η := η) h
  unfold register onBackend at *
  cases hr : (backend p : Run _ (Backend β η)) with
  | mk ended q l =>
    rw [hr] at hsound hb
    cases ended with
    | error e =>
      rw [Action.bind_of_error hr] at hok
      contradiction
    | ok b =>
      rw [Action.bind_of_ok hr] at hchoice hok ⊢
      have hq : q.backend? = some b := hb b rfl
      simp only [Action.perform, Reply.within] at hchoice hok ⊢
      rcases backend?_eq_some hq with ⟨b', hc⟩ | ⟨t, hc, hn, rfl⟩
      · rw [setBackend_installed hc] at hchoice
        cases hchoice
      · have hanswer : (t.register c).answer = .ok a := by
          cases hv : (t.register c).answer <;>
            simp [Backend.register, Reply.within, hv] at hok
          rw [hok]
        obtain ⟨k, s, ha, hs, hcallback⟩ := Trampoline.register_of_ok (hsound t hn).sound hanswer
        have hnative : (q.setBackend (.trampoline (t.register c).state)).native =
            .ready (t.register c).state := by rw [setBackend_native hc]
        exact ⟨(t.register c).state, k, s, hnative, ha, hs, hcallback⟩

end Process

end CallBridge
