import CallBridge.Proofs.TwoBackends
import CallBridge.Proofs.TypedCalls
import Mathlib.Logic.Relation

/-!
What a process settles once. Settings, the library's own table and the backend chosen come to be
with their first use, one through the other, and stay: no step replaces settings that are in effect,
and a backend only ever becomes what operations on it make of it.
-/

namespace CallBridge

/-- Valid settings always give a table, with as many slots as they say. -/
theorem Trampoline.create_of_valid {β : Type} (table : EntryTable) {s : Settings}
    (h : s.validate = .ok ()) :
    (create table (min s.capacity maxCallbacks) : Verdict Violation (Trampoline β)) =
      .ok { registry := .empty s.capacity, table } := by
  obtain ⟨hone, hmax⟩ := Settings.validate_eq_ok_iff.1 h
  have h2000 : maxCallbacks = 2000 := rfl
  have hbytes : ¬ wordCount / 2 ≤ s.capacity * Registry.slotBytes := by
    have h32 : Registry.slotBytes = 32 := rfl
    simp only [h32, wordCount]
    omega
  rw [create, min_eq_left hmax, Registry.create, if_neg (by omega), if_neg hbytes]
  rfl

section Backends

variable {β η : Type} [Registrar η β]

/-- A backend after one operation on it. -/
inductive Backend.Moves : Backend β η → Backend β η → Prop where
  | table (t : Trampoline β) (o : Trampoline.Operation β) :
      Moves (.trampoline t) (.trampoline (o.perform t).state)
  | host (h : HostBackend η) (r : Request β) : Moves (.host h) (.host (r.onHost h).state)

/-- The same backend, after any operations on it. -/
def Backend.Becomes : Backend β η → Backend β η → Prop := Relation.ReflTransGen Backend.Moves

namespace Backend

variable {b b' b'' : Backend β η}

theorem Becomes.refl (b : Backend β η) : b.Becomes b := Relation.ReflTransGen.refl

theorem Becomes.trans (h : b.Becomes b') (h' : b'.Becomes b'') : b.Becomes b'' :=
  Relation.ReflTransGen.trans h h'

theorem Moves.becomes (h : b.Moves b') : b.Becomes b' := .single h

theorem register_moves (c : Callback β) (b : Backend β η) : b.Moves (b.register c).state := by
  cases b with
  | trampoline t => exact .table t (.register c)
  | host h => exact .host h (.register c)

theorem registerShared_moves (s : SharedCallback β) (b : Backend β η) :
    b.Moves (b.registerShared s).state := by
  cases b with
  | trampoline t => exact .table t (.registerShared s)
  | host h => exact .host h (.registerShared s)

theorem unregister_moves (a : Word) (b : Backend β η) : b.Moves (b.unregister a).state := by
  cases b with
  | trampoline t => exact .table t (.unregister a)
  | host h => exact .host h (.unregister a)

theorem unregisterShared_moves (i : Identity) (b : Backend β η) :
    b.Moves (b.unregisterShared i).state := by
  cases b with
  | trampoline t => exact .table t (.unregisterShared i)
  | host h => exact .host h (.unregisterShared i)

end Backend

end Backends

namespace Process

variable {β η ε : Type} {p q r : Process β η ε} {t : Trampoline β} {b : Backend β η}

def SettingsValid (p : Process β η ε) : Prop :=
  ∀ s, p.settings = some s → s.validate = .ok ()

/-- What is settled is as it should be: the settings are valid, and the library's own table is in
order, and in use if it is the backend chosen. -/
structure InOrder (p : Process β η ε) : Prop where
  sound : p.Sound
  valid : p.SettingsValid
  opened : p.choice = some .native → ∃ t, p.native = .ready t

theorem Fresh.inOrder (h : p.Fresh) : p.InOrder where
  sound t ht := by
    rw [h.native] at ht
    contradiction
  valid s hs := by
    rw [h.settings] at hs
    contradiction
  opened hc := by
    rw [h.choice] at hc
    contradiction

/-- The library's own table at its first use. -/
def newTable (p : Process β η ε) (s : Settings) : Trampoline β where
  registry := .empty s.capacity
  table := .native p.nativeBase

/-- What opening the library's own table comes to. -/
inductive TableOpened (p : Process β η ε) : Run (Process β η ε) (Trampoline β) → Prop where
  | again {t : Trampoline β} (hn : p.native = .ready t) : TableOpened p ⟨.ok t, p, []⟩
  | first {s : Settings} {l : List Record} (hn : ∀ t, p.native ≠ .ready t)
      (hs : p.settings = some s ∨ p.settings = none) (hv : s.validate = .ok ()) :
      TableOpened p ⟨.ok (p.newTable s),
        { p with settings := some s, native := .ready (p.newTable s) }, l⟩
  | failed {e : Stop} {q : Process β η ε} {l : List Record} (hn : ∀ t, p.native ≠ .ready t)
      (hq : q = p ∨ q = { p with native := .poisoned }) : TableOpened p ⟨.error e, q, l⟩

theorem nativeTrampoline_of_untouched (hn : p.native = .untouched) :
    nativeTrampoline p = (Action.attempt (makeTable p.nativeBase) >>= fun made =>
      match made with
      | .ok t => do
        Action.modify fun p => { p with native := .ready t }
        pure t
      | .error e => do
        Action.modify fun p => { p with native := .poisoned }
        Action.panic e) p := by
  unfold nativeTrampoline
  rw [Action.get_bind]
  simp only [hn]
  rfl

/-- Opening the table fails only where reading the settings does, or did before. -/
theorem nativeTrampoline_opened (h : p.InOrder) : TableOpened p (nativeTrampoline p) := by
  cases hn : p.native with
  | ready t =>
    rw [nativeTrampoline_of_ready hn]
    exact .again hn
  | poisoned =>
    have hpoisoned : nativeTrampoline p = ⟨.error (.panic .poisoned), p, []⟩ := by
      unfold nativeTrampoline
      rw [Action.get_bind]
      simp only [hn]
      rfl
    rw [hpoisoned]
    exact .failed (by simp [hn]) (.inl rfl)
  | untouched =>
    have hnot : ∀ t, p.native ≠ .ready t := by simp [hn]
    rw [nativeTrampoline_of_untouched hn]
    -- Settings that are answered are valid and give a table, so that only reading them can fail.
    have hmake : ∀ {s : Settings} {q : Process β η ε} {l : List Record}, s.validate = .ok () →
        readSettings p = ⟨.ok s, q, l⟩ →
        Action.attempt (makeTable p.nativeBase) p = ⟨.ok (.ok (p.newTable s)), q, l ++ []⟩ := by
      intro s q l hv hr
      refine Action.attempt_of_ok ?_
      unfold makeTable
      rw [Action.bind_of_ok hr, Trampoline.create_of_valid _ hv]
      rfl
    have hread := readSettings_read p
    rcases hr : readSettings p with ⟨ended, q, l⟩
    rw [hr] at hread
    cases hread with
    | @again s hs =>
      have hv := h.valid s hs
      have hopened := TableOpened.first (l := []) hnot (.inl hs) hv
      rw [← hs] at hopened
      rw [Action.bind_of_ok (hmake hv hr)]
      exact hopened
    | first hs hv =>
      rw [Action.bind_of_ok (hmake hv hr)]
      exact .first hnot (.inr hs) hv
    | fatal hs v =>
      have hmade : makeTable p.nativeBase p =
          ⟨.error (.panic (.violation v)), p, [.event (.ofViolation v)]⟩ := by
        unfold makeTable
        exact Action.bind_of_error hr
      rw [Action.bind_of_ok (Action.attempt_of_panic hmade)]
      exact .failed hnot (.inr rfl)

/-- The library's own table has come into use. -/
def TableMade (p q : Process β η ε) : Prop :=
  (∀ t, p.native ≠ .ready t) ∧ ∃ t, q.native = .ready t

theorem not_tableMade (h : q.native = p.native) : ¬ TableMade p q := by
  rintro ⟨hnot, t, ht⟩
  exact hnot t (h ▸ ht)

theorem TableOpened.ready {l : List Record} (h : TableOpened p ⟨.ok t, q, l⟩) :
    q.native = .ready t := by
  cases h with
  | again hn => exact hn
  | first => rfl

theorem TableOpened.valid {x : Except Stop (Trampoline β)} {l : List Record}
    (h : TableOpened p ⟨x, q, l⟩) (hp : p.SettingsValid) : q.SettingsValid := by
  cases h with
  | again => exact hp
  | first _ _ hv =>
    rintro s ⟨⟩
    exact hv
  | failed _ hq => rcases hq with rfl | rfl <;> exact hp

theorem TableOpened.choice {x : Except Stop (Trampoline β)} {l : List Record}
    (h : TableOpened p ⟨x, q, l⟩) : q.choice = p.choice := by
  cases h with
  | again | first => rfl
  | failed _ hq => rcases hq with rfl | rfl <;> rfl

theorem TableOpened.settled_iff {x : Except Stop (Trampoline β)} {l : List Record}
    (h : TableOpened p ⟨x, q, l⟩) :
    q.settings.isSome = true ↔ p.settings.isSome = true ∨ TableMade p q := by
  cases h with
  | again => simp [not_tableMade]
  | first hn => exact iff_of_true rfl (.inr ⟨hn, _, rfl⟩)
  | failed hn hq =>
    have hmade : ¬ TableMade p q := by
      rcases hq with rfl | rfl
      · exact not_tableMade rfl
      · rintro ⟨-, t, ⟨⟩⟩
    rcases hq with rfl | rfl <;> simp [hmade]

theorem backend_of_backend? (hb : p.backend? = some b) : backend p = ⟨.ok b, p, []⟩ := by
  unfold backend
  rw [Action.get_bind]
  rcases backend?_eq_some hb with ⟨b', hc⟩ | ⟨t, hc, hn, rfl⟩
  · have hsame : b' = b := by simpa [backend?, hc] using hb
    simp only [hc, hsame]
    rfl
  · simp only [hc]
    exact Action.bind_of_ok (nativeTrampoline_of_ready hn)

theorem isSome_choice (hb : p.backend? = some b) : p.choice.isSome = true := by
  rcases backend?_eq_some hb with ⟨b', hc⟩ | ⟨t, hc, -⟩ <;> rw [hc, Option.isSome_some]

section Runs

variable [Registrar η β]

/-- What using the backend comes to: the backend that was opened, if one was, and the process after
the operation on it. -/
inductive BackendUsed (p : Process β η ε) :
    Except Stop (Backend β η) → Process β η ε → Prop where
  | installed {b b' : Backend β η} (hc : p.choice = some (.installed b)) (hb : b.Becomes b') :
      BackendUsed p (.ok b) { p with choice := some (.installed b') }
  | native {t t' : Trampoline β} {q : Process β η ε} {l : List Record}
      (hc : p.choice = some .native ∨ p.choice = none) (ht : TableOpened p ⟨.ok t, q, l⟩)
      (hb : (Backend.trampoline t : Backend β η).Becomes (.trampoline t')) :
      BackendUsed p (.ok (.trampoline t))
        { q with choice := some .native, native := .ready t' }
  | failed {e : Stop} {q : Process β η ε} {l : List Record} (hc : p.choice = none)
      (ht : TableOpened p ⟨.error e, q, l⟩) : BackendUsed p (.error e) q

theorem backend_used (h : p.InOrder) :
    BackendUsed p (backend p : Run _ (Backend β η)).ended
      (backend p : Run _ (Backend β η)).state := by
  obtain ⟨-, -, hready⟩ := nativeTrampoline_spec h.sound
  have hopened := nativeTrampoline_opened h
  unfold backend
  rw [Action.get_bind]
  rcases hr : nativeTrampoline p with ⟨ended, q, l⟩
  rw [hr] at hready hopened
  cases hc : p.choice with
  | none =>
    dsimp only
    cases ended with
    | error e =>
      rw [Action.bind_of_error hr]
      exact .failed hc hopened
    | ok t =>
      rw [Action.bind_of_ok hr]
      have hq : q.native = .ready t := hready t rfl
      have hused := BackendUsed.native (.inr hc) hopened (Backend.Becomes.refl _)
      rw [← hq] at hused
      exact hused
  | some c =>
    cases c with
    | installed b =>
      have hused := BackendUsed.installed hc (Backend.Becomes.refl b)
      rw [← hc] at hused
      exact hused
    | native =>
      dsimp only
      obtain ⟨t, hn⟩ := h.opened hc
      rw [nativeTrampoline_of_ready hn] at hr
      cases hr
      have hused := BackendUsed.native (.inl hc) hopened (Backend.Becomes.refl _)
      rw [← hc, ← hn] at hused
      rw [Action.bind_of_ok (nativeTrampoline_of_ready hn)]
      exact hused

/-- An operation on a backend that was opened and is put back. -/
theorem BackendUsed.setBackend {b' : Backend β η} (h : BackendUsed p (.ok b) q)
    (hq : q.backend? = some b) (hb : b.Moves b') : BackendUsed p (.ok b) (q.setBackend b') := by
  cases h with
  | @installed _ b₁ hc _ =>
    cases hq
    rw [setBackend_installed rfl]
    exact .installed hc hb.becomes
  | @native t t₁ q l hc ht _ =>
    cases hq
    cases hb with
    | table _ o =>
      rw [setBackend_native rfl]
      exact .native (q := q) hc ht (Backend.Moves.table _ o).becomes

theorem onBackend_used {α : Type} {f : Backend β η → Reply RegistrationError (Backend β η) α}
    (h : p.InOrder) (hf : ∀ b : Backend β η, b.Moves (f b).state) :
    BackendUsed p (backend p : Run _ (Backend β η)).ended (onBackend f p).state := by
  have hused := backend_used h
  obtain ⟨-, hb⟩ := backend_spec (η := η) h.sound
  unfold onBackend
  rcases hr : (backend p : Run _ (Backend β η)) with ⟨e | b, q, l⟩
  · rw [hr] at hused
    rw [Action.bind_of_error hr]
    exact hused
  · rw [hr] at hused hb
    rw [Action.bind_of_ok hr]
    exact hused.setBackend (hb b rfl) (hf b)

/-- What is settled in one state is so in the other, and a backend is the same one. -/
structure Onward (p q : Process β η ε) : Prop where
  settings : ∀ s, p.settings = some s → q.settings = some s
  native : ∀ t, p.native = .ready t →
    ∃ t', q.native = .ready t' ∧ (Backend.trampoline t : Backend β η).Becomes (.trampoline t')
  own : p.choice = some .native → q.choice = some .native
  installed : ∀ b, p.choice = some (.installed b) →
    ∃ b', q.choice = some (.installed b') ∧ b.Becomes b'

namespace Onward

theorem refl (p : Process β η ε) : Onward p p where
  settings _ hs := hs
  native t hn := ⟨t, hn, .refl _⟩
  own hc := hc
  installed b hc := ⟨b, hc, .refl b⟩

theorem trans (h : Onward p q) (h' : Onward q r) : Onward p r where
  settings s hs := h'.settings s (h.settings s hs)
  native t hn := by
    obtain ⟨t', hn', hb⟩ := h.native t hn
    obtain ⟨t'', hn'', hb'⟩ := h'.native t' hn'
    exact ⟨t'', hn'', hb.trans hb'⟩
  own hc := h'.own (h.own hc)
  installed b hc := by
    obtain ⟨b', hc', hb⟩ := h.installed b hc
    obtain ⟨b'', hc'', hb'⟩ := h'.installed b' hc'
    exact ⟨b'', hc'', hb.trans hb'⟩

theorem isSome_settings (h : Onward p q) (hs : p.settings.isSome = true) :
    q.settings.isSome = true := by
  obtain ⟨s, hs⟩ := Option.isSome_iff_exists.1 hs
  rw [h.settings s hs, Option.isSome_some]

/-- A choice that is made stays of its kind. -/
theorem own_iff (h : Onward p q) (hc : p.choice.isSome = true) :
    p.choice = some .native ↔ q.choice = some .native := by
  refine ⟨h.own, fun hq => ?_⟩
  obtain ⟨c, hc⟩ := Option.isSome_iff_exists.1 hc
  cases c with
  | native => exact hc
  | installed b =>
    obtain ⟨b', hb', -⟩ := h.installed b hc
    rw [hb'] at hq
    cases hq

theorem backend? (h : Onward p q) (hb : p.backend? = some b) :
    ∃ b', q.backend? = some b' ∧ b.Becomes b' := by
  rcases backend?_eq_some hb with ⟨b₀, hc⟩ | ⟨t, hc, hn, rfl⟩
  · obtain ⟨b', hc', hb'⟩ := h.installed b₀ hc
    have hsame : b₀ = b := by simpa [Process.backend?, hc] using hb
    exact ⟨b', by simp only [Process.backend?, hc'], hsame ▸ hb'⟩
  · obtain ⟨t', hn', hb'⟩ := h.native t hn
    exact ⟨.trampoline t', by simp only [Process.backend?, h.own hc, hn'], hb'⟩

/-- Where the table and the choice stay, only the settings matter. -/
theorem of_settings (hs : ∀ s, p.settings = some s → q.settings = some s)
    (hn : q.native = p.native) (hc : q.choice = p.choice) : Onward p q where
  settings := hs
  native t ht := ⟨t, hn.trans ht, .refl _⟩
  own h := hc.trans h
  installed b h := ⟨b, hc.trans h, .refl b⟩

end Onward

theorem TableOpened.onward {x : Except Stop (Trampoline β)} {l : List Record}
    (h : TableOpened p ⟨x, q, l⟩) : Onward p q := by
  have hchoice := h.choice
  refine ⟨fun s hs => ?_, fun t hn => ?_, fun hc => hchoice.trans hc,
    fun b hc => ⟨b, hchoice.trans hc, .refl b⟩⟩
  · cases h with
    | again => exact hs
    | first _ hs' =>
      rcases hs' with hs' | hs'
      · rw [← hs, hs']
      · rw [hs'] at hs
        contradiction
    | failed _ hq => rcases hq with rfl | rfl <;> exact hs
  · cases h with
    | again => exact ⟨t, hn, .refl _⟩
    | first hnot => exact absurd hn (hnot t)
    | failed hnot => exact absurd hn (hnot t)

theorem BackendUsed.onward {x : Except Stop (Backend β η)} (h : BackendUsed p x q) :
    Onward p q := by
  cases h with
  | @installed b b' hc hb =>
    refine ⟨fun _ hs => hs, fun t hn => ⟨t, hn, .refl _⟩, fun hc' => ?_, fun b₀ hc' => ?_⟩
    · rw [hc] at hc'
      cases hc'
    · rw [hc] at hc'
      cases hc'
      exact ⟨b', rfl, hb⟩
  | @native t t' q l hc ht hb =>
    have honward := ht.onward (η := η)
    refine ⟨honward.settings, fun t₀ hn => ?_, fun _ => rfl, fun b₀ hc' => ?_⟩
    · obtain ⟨t₁, hn₁, hb₁⟩ := honward.native t₀ hn
      rw [ht.ready] at hn₁
      cases hn₁
      exact ⟨t', rfl, hb₁.trans hb⟩
    · simp [hc'] at hc
  | failed hc ht => exact ht.onward

/-- Whatever backend was opened is the one chosen from then on. -/
theorem BackendUsed.backend? (h : BackendUsed p (.ok b) q) :
    ∃ b', q.backend? = some b' ∧ b.Becomes b' := by
  cases h with
  | installed _ hb => exact ⟨_, rfl, hb⟩
  | native _ _ hb => exact ⟨_, rfl, hb⟩

theorem BackendUsed.settled_iff {x : Except Stop (Backend β η)} (h : BackendUsed p x q) :
    q.settings.isSome = true ↔ p.settings.isSome = true ∨ TableMade p q := by
  cases h with
  | installed => simp [not_tableMade]
  | @native t t' q l hc ht hb =>
    have hmade : TableMade p { q with choice := some .native, native := .ready t' } ↔
        TableMade p q := by
      refine and_congr_right fun _ => iff_of_true ⟨t', rfl⟩ ⟨t, ht.ready⟩
    rw [hmade]
    exact ht.settled_iff
  | failed _ ht => exact ht.settled_iff

theorem BackendUsed.valid {x : Except Stop (Backend β η)} (h : BackendUsed p x q)
    (hp : p.SettingsValid) : q.SettingsValid := by
  cases h with
  | installed => exact hp
  | native _ ht => exact ht.valid hp
  | failed _ ht => exact ht.valid hp

theorem BackendUsed.opened {x : Except Stop (Backend β η)} (h : BackendUsed p x q)
    (hc : q.choice = some .native) : ∃ t, q.native = .ready t := by
  cases h with
  | installed => cases hc
  | @native t t' => exact ⟨t', rfl⟩
  | failed hnone ht =>
    rw [ht.choice, hnone] at hc
    contradiction

/-- All that a step can do to what is settled. -/
inductive Effect (p : Process β η ε) : Process β η ε → Prop where
  | none {q : Process β η ε} (h : p.Agrees q) : Effect p q
  | settles {s : Settings} (hs : p.settings = none) (hv : s.validate = .ok ()) :
      Effect p { p with settings := some s }
  | chooses {b : Backend β η} (hc : p.choice = none) :
      Effect p { p with choice := some (.installed b) }
  | opens {x : Except Stop (Trampoline β)} {q : Process β η ε} {l : List Record}
      (h : TableOpened p ⟨x, q, l⟩) : Effect p q
  | uses {x : Except Stop (Backend β η)} {q : Process β η ε} (h : BackendUsed p x q) : Effect p q
  | operates {t : Trampoline β} (h : p.native = .ready t) (o : Trampoline.Operation β) :
      Effect p { p with native := .ready (o.perform t).state }

theorem SettingsRead.effect {x : Except Stop Settings} {l : List Record}
    (h : SettingsRead p ⟨x, q, l⟩) : Effect p q := by
  cases h with
  | again | fatal => exact .none (.refl p)
  | first hs hv => exact .settles hs hv

theorem install_effect (s : Settings) (p : Process β η ε) : Effect p (install s p).state := by
  by_cases h : s.validate = .ok () ∧ p.settings = none
  · rw [install_of_valid h.1 h.2]
    exact .settles h.2 h.1
  · rw [install_of_not h]
    exact .none (.refl p)

theorem installBackend_effect (b : Backend β η) (p : Process β η ε) :
    Effect p (installBackend b p).state := by
  by_cases hc : p.choice = none
  · rw [installBackend_of_none hc]
    exact .chooses hc
  · rw [installBackend_of_isSome (Option.isSome_iff_ne_none.2 hc)]
    exact .none (.refl p)

theorem Step.effect (hp : p.InOrder) (hstep : Step p q) : Effect p q := by
  cases hstep with
  | outside hq => exact .none hq
  | readsSettings => exact (readSettings_read p).effect
  | installs s => exact install_effect s p
  | choosesBackend b => exact installBackend_effect b p
  | opensTable => exact .opens (nativeTrampoline_opened hp)
  | opensBackend => exact .uses (backend_used hp)
  | registers c => exact .uses (onBackend_used hp (Backend.register_moves c))
  | registersShared s => exact .uses (onBackend_used hp (Backend.registerShared_moves s))
  | unregisters a => exact .uses (onBackend_used hp (Backend.unregister_moves a))
  | unregistersShared i => exact .uses (onBackend_used hp (Backend.unregisterShared_moves i))
  | operates hn o => exact .operates hn o

theorem Effect.onward (h : Effect p q) : Onward p q := by
  cases h with
  | none hq => exact .of_settings (fun _ hs => hq.settings.trans hs) hq.native hq.choice
  | settles hs => exact .of_settings (by simp [hs]) rfl rfl
  | chooses hc => exact ⟨fun _ hs => hs, fun t hn => ⟨t, hn, .refl _⟩, by simp [hc], by simp [hc]⟩
  | opens h => exact h.onward
  | uses h => exact h.onward
  | @operates t hn o =>
    refine ⟨fun _ hs => hs, fun t' hn' => ?_, fun hc => hc, fun b hc => ⟨b, hc, .refl b⟩⟩
    rw [hn] at hn'
    cases hn'
    exact ⟨(o.perform t).state, rfl, (Backend.Moves.table t o).becomes⟩

theorem Effect.valid (h : Effect p q) (hp : p.SettingsValid) : q.SettingsValid := by
  cases h with
  | none hq => exact fun s hs => hp s (hq.settings ▸ hs)
  | settles _ hv =>
    rintro s ⟨⟩
    exact hv
  | chooses | operates => exact hp
  | opens h => exact h.valid hp
  | uses h => exact h.valid hp

/-- The library's own table is in use where it is the backend chosen. -/
theorem Effect.opened (h : Effect p q) (hp : p.InOrder) (hc : q.choice = some .native) :
    ∃ t, q.native = .ready t := by
  have hkept : p.choice = some .native → ∃ t, q.native = .ready t := fun hc => by
    obtain ⟨t, hn⟩ := hp.opened hc
    obtain ⟨t', hn', -⟩ := h.onward.native t hn
    exact ⟨t', hn'⟩
  cases h with
  | none hq => exact hkept (hq.choice ▸ hc)
  | settles | operates => exact hkept hc
  | chooses => cases hc
  | opens h => exact hkept (h.choice ▸ hc)
  | uses h => exact h.opened hc

theorem Step.inOrder (hp : p.InOrder) (hstep : Step p q) : q.InOrder where
  sound := hstep.sound hp.sound
  valid := (hstep.effect hp).valid hp.valid
  opened := (hstep.effect hp).opened hp

/-- The states to which steps lead. -/
def Leads : Process β η ε → Process β η ε → Prop := Relation.ReflTransGen Step

theorem Leads.refl (p : Process β η ε) : Leads p p := Relation.ReflTransGen.refl

theorem Leads.trans (h : Leads p q) (h' : Leads q r) : Leads p r :=
  Relation.ReflTransGen.trans h h'

theorem Step.leads (h : Step p q) : Leads p q := .single h

theorem lasting_leads (p : Process β η ε) : Lasting (Leads p) := fun _ _ h hstep => h.tail hstep

/-- All that is known of a state from another that leads to it. -/
theorem Leads.settled (h : Leads p q) (hp : p.InOrder) : q.InOrder ∧ Onward p q := by
  induction h with
  | refl => exact ⟨hp, .refl p⟩
  | tail _ hstep ih =>
    obtain ⟨hinOrder, honward⟩ := ih
    exact ⟨hstep.inOrder hinOrder, honward.trans (hstep.effect hinOrder).onward⟩

end Runs

end Process

end CallBridge
