import CallBridge.Process.Logging
import CallBridge.Proofs.Settled

/-!
Histories of a process: what a program does one act after the other, each from the state that the
one before left, and what is settled by which act. An act can settle more than it asks for, since
the settings, the library's own table and the backend chosen come to be one through the other.
-/

namespace CallBridge

namespace Process

variable {β η ε : Type} {p : Process β η ε}

theorem keeps_agrees_modify {f : Process β η ε → Process β η ε} (hf : ∀ p, Agrees p (f p)) :
    Action.Keeps (Agrees p) (Action.modify f) := fun q hq => hq.trans (hf q)

/-- Logging starts outside of everything that is settled. -/
theorem keeps_agrees_startLogging (s : LogSettings) :
    Action.Keeps (Agrees p) (startLogging s : Action (Process β η ε) Unit) := by
  have hrecord : ∀ x : Record,
      Action.Keeps (Agrees p) (Action.record x : Action (Process β η ε) Unit) := fun _ _ h => h
  have hstart : Action.Keeps (Agrees p)
      (Action.modify fun p : Process β η ε => { p with loggingStarted := true }) :=
    keeps_agrees_modify fun _ => ⟨rfl, rfl, rfl, rfl⟩
  have hfiles : ∀ files, Action.Keeps (Agrees p)
      (Action.modify fun p : Process β η ε => { p with files }) :=
    fun _ => keeps_agrees_modify fun _ => ⟨rfl, rfl, rfl, rfl⟩
  unfold startLogging
  refine Action.Keeps.bind Action.keeps_get fun p' => ?_
  split_ifs
  · exact Action.keeps_pure _
  cases filter p'.environment s with
  | error t => exact Action.keeps_stop _
  | ok f =>
    dsimp only
    cases logPath? s with
    | none => exact Action.Keeps.bind (hrecord _) fun _ => hstart
    | some path =>
      dsimp only
      refine Action.Keeps.bind (hfiles _) fun _ => ?_
      split
      · refine Action.Keeps.bind (hrecord _) fun _ => ?_
        exact Action.Keeps.bind (Action.keeps_emit _) fun _ => hstart
      · split
        · exact Action.Keeps.bind (Action.keeps_stop _) fun _ => hstart
        · refine Action.Keeps.bind (hfiles _) fun _ => ?_
          exact Action.Keeps.bind (hrecord _) fun _ => hstart

/-- Settings that are not put into effect do not start logging. -/
theorem startWith_of_not {s : Settings} (h : ¬ (s.validate = .ok () ∧ p.settings = none)) :
    startWith s p = ⟨.ok (.error s.refusal), p, []⟩ := by
  unfold startWith
  rw [Action.bind_of_ok (install_of_not h)]
  rfl

theorem startWith_of_valid {s : Settings} (hv : s.validate = .ok ()) (hs : p.settings = none) :
    Agrees { p with settings := some s } (startWith s p).state ∧
      ∀ e, (startWith s p).ended ≠ .ok (.error e) := by
  have hlog := keeps_agrees_startLogging s.logging { p with settings := some s } (.refl _)
  unfold startWith
  rw [Action.bind_of_ok (install_of_valid hv hs)]
  dsimp only
  rcases hr : startLogging s.logging { p with settings := some s } with ⟨e | u, q, l⟩
  · rw [hr] at hlog
    rw [Action.bind_of_error hr]
    exact ⟨hlog, nofun⟩
  · rw [hr] at hlog
    rw [Action.bind_of_ok hr]
    exact ⟨hlog, nofun⟩

/-- What a native call comes to: it is rejected before anything happens, the settings that it needs
cannot be read, or the function is entered. -/
inductive Gated {α : Type} (p : Process β η ε) :
    Run (Process β η ε) (Except CallError α) → Prop where
  | rejected {e : CallError} {q : Process β η ε} (h : p.Agrees q) : Gated p ⟨.ok (.error e), q, []⟩
  | fatal {e : Stop} {v : Violation} {q : Process β η ε} (hs : p.settings = none)
      (h : p.Agrees q) : Gated p ⟨.error e, q, [.event (.ofViolation v)]⟩
  | entered {ended : Except Stop (Except CallError α)} {q : Process β η ε} {l : List Record}
      {a : Word} (hs : q.settings.isSome = true) (hl : .event (.nativeCall a) ∈ l)
      (hended : ∀ e, ended ≠ .ok (.error e)) : Gated p ⟨ended, q, l⟩

theorem Gated.map {α γ : Type} {r : Run (Process β η ε) (Except CallError α)} (h : Gated p r)
    (f : α → γ) : Gated p (r.map (·.map f)) := by
  cases h with
  | rejected h => exact .rejected h
  | fatal hs h => exact .fatal hs h
  | @entered ended q l a hs hl hended =>
    refine .entered hs hl ?_
    rcases ended with e | e | x
    · exact nofun
    · exact absurd rfl (hended e)
    · exact nofun

theorem Gated.of_agrees {α : Type} {p' : Process β η ε}
    {r : Run (Process β η ε) (Except CallError α)} (hp : p.Agrees p') (h : Gated p' r) :
    Gated p r := by
  cases h with
  | rejected h => exact .rejected (hp.trans h)
  | fatal hs h => exact .fatal (hp.settings.symm.trans hs) (hp.trans h)
  | entered hs hl hended => exact .entered hs hl hended

theorem Gated.leaveCall {r : Run (Process β η ε) (Except CallError Frame)} (h : Gated p r)
    (c : TypedCall) (mark : Nat) : Gated p (leaveCall c mark r) := by
  have hrelease : ∀ q : Process β η ε,
      Agrees q { q with memory := q.memory.release mark } := fun _ => ⟨rfl, rfl, rfl, rfl⟩
  cases h with
  | rejected h => exact .rejected (h.trans (hrelease _))
  | fatal hs h => exact .fatal hs (h.trans (hrelease _))
  | entered hs hl hended =>
    exact .entered hs hl fun e he => hended e ((leaveCall_error_iff mark).1 he)

/-- Settings are in effect after a native call if they were before or if it reaches its function. -/
theorem Gated.settled_iff {α : Type} {r : Run (Process β η ε) (Except CallError α)}
    (h : Gated p r) :
    r.state.settings.isSome = true ↔
      p.settings.isSome = true ∨ ∃ a, .event (.nativeCall a) ∈ r.records := by
  cases h with
  | rejected h => simp [h.settings]
  | fatal hs h => simp [h.settings, hs, Event.ofViolation]
  | entered hs hl => exact iff_of_true hs (.inr ⟨_, hl⟩)

/-- Native code changes what is settled by steps only, for it has no other way to it. -/
def Stepwise [Registrar η β] (enter : NativeCode (Process β η ε)) : Prop :=
  ∀ a w p, Leads p (enter a w p).state

section Calls

variable [Registrar η β] {enter : NativeCode (Process β η ε)}
  (henter : Stepwise enter)

include henter

theorem keeps_leads_enter (p : Process β η ε) (a : Word) (w : ArgumentWords) :
    Action.Keeps (Leads p) (enter a w) := fun q hq => hq.trans (henter a w q)

theorem callFrame_gated (hp : p.InOrder) (f : Frame) :
    Gated p ((callFrame enter f p).map accepted) := by
  have hread := readSettings_read p
  have hstep : Step p (readSettings p).state := .readsSettings
  rw [callFrame_eq]
  by_cases hf : f.function = 0
  · rw [if_pos hf]
    exact .rejected (.refl p)
  rw [if_neg hf]
  rcases hr : readSettings p with ⟨x, q, l⟩
  rw [hr] at hread hstep
  have hentered : ∀ s, q.settings = some s →
      (enterFrame enter f s (clearErrno s q)).state.settings.isSome = true := by
    intro s hs
    have hleads := (lasting_leads q).keeps_enterFrame (keeps_leads_enter henter q) f s
      (clearErrno s q) (Step.outside (clearErrno_agrees s q)).leads
    exact (hleads.settled (hstep.inOrder hp)).2.isSome_settings (by simp [hs])
  cases x with
  | error e =>
    rw [Action.bind_of_error hr]
    cases hread with
    | fatal hs v => exact .fatal hs (.refl _)
  | ok s =>
    have hs : q.settings = some s := by
      cases hread with
      | again hs => exact hs
      | first => rfl
    rw [Action.bind_of_ok hr]
    refine .entered (hentered s hs) (List.mem_append_right l List.mem_cons_self) fun e he => ?_
    obtain ⟨g, he⟩ := accepted_error_iff.1 he
    revert he
    show (enterFrame enter f s (clearErrno s q)).ended ≠ _
    rw [enterFrame_eq]
    exact leaveFrame_accepted f g s _ e

theorem callWords_gated (hp : p.InOrder) (function : Word) (words : List Word) :
    Gated p (callWords enter function words p) := by
  cases hframe : Frame.ofWords function words with
  | error e =>
    unfold callWords
    rw [hframe]
    exact .rejected (.refl p)
  | ok f =>
    rw [callWords_of_frame hframe]
    exact callFrame_gated henter hp f

theorem call_gated (hp : p.InOrder) (c : TypedCall) (args : List Value) :
    Gated p (call enter c args p) := by
  cases hprepare : c.prepare p.memory args with
  | error e =>
    rw [call_of_unprepared hprepare]
    exact .rejected (.refl p)
  | ok prepared =>
    have hout : Agrees p { p with memory := prepared.1 } := ⟨rfl, rfl, rfl, rfl⟩
    rw [call_of_prepared hprepare]
    have hframe := callFrame_gated henter ((Step.outside hout).inOrder hp)
      { function := c.function, words := prepared.2 }
    exact (hframe.of_agrees hout).leaveCall c _

end Calls

end Process

/-- What a program does with the process it runs in. -/
inductive Act (β η : Type) where
  | install (s : Settings)
  | startWith (s : Settings)
  | readSettings
  | callFrame (f : Frame)
  | callWords (function : Word) (words : List Word)
  | call (c : TypedCall) (args : List Value)
  | installBackend (b : Backend β η)
  | openTable
  | openBackend
  | request (r : Request β)

/-- What an act is answered. Of a native call it is whether the call went out. -/
inductive Answer (β η : Type) where
  | installed (r : Except SettingsError Unit)
  | settings (s : Settings)
  | called (r : Except CallError Unit)
  | chosen (r : Except RegistrationError Unit)
  | table (t : Trampoline β)
  | backend (b : Backend β η)
  | replied (r : Except RegistrationError (Option Word))

namespace Act

variable {β η : Type}

/-- The act puts settings into effect, if it can. -/
def Asks (s : Settings) (a : Act β η) : Prop := a = install s ∨ a = startWith s

def IsCall : Act β η → Prop
  | callFrame _ | callWords .. | call .. => True
  | _ => False

theorem Asks.not_isCall {s : Settings} {a : Act β η} (h : a.Asks s) : ¬ a.IsCall := by
  rcases h with rfl | rfl <;> exact id

def UsesBackend : Act β η → Prop
  | openBackend | request _ => True
  | _ => False

end Act

section Acts

variable {β η ε : Type} [Registrar η β]

/-- A request to the backend chosen. -/
def Request.inProcess (p : Process β η ε) :
    Request β → Run (Process β η ε) (Except RegistrationError (Option Word))
  | register c => (p.register c).map (·.map some)
  | registerShared s => (p.registerShared s).map (·.map some)
  | unregister a => (p.unregister a).map (·.map fun _ => none)
  | unregisterShared i => (p.unregisterShared i).map (·.map fun _ => none)

theorem Request.inProcess_step (p : Process β η ε) (r : Request β) :
    p.Step (r.inProcess p).state := by
  cases r with
  | register c => exact .registers c
  | registerShared s => exact .registersShared s
  | unregister a => exact .unregisters a
  | unregisterShared i => exact .unregistersShared i

theorem Request.inProcess_used {p : Process β η ε} (h : p.InOrder) (r : Request β) :
    p.BackendUsed (p.backend : Run _ (Backend β η)).ended (r.inProcess p).state := by
  cases r with
  | register c => exact Process.onBackend_used h (Backend.register_moves c)
  | registerShared s => exact Process.onBackend_used h (Backend.registerShared_moves s)
  | unregister a => exact Process.onBackend_used h (Backend.unregister_moves a)
  | unregisterShared i => exact Process.onBackend_used h (Backend.unregisterShared_moves i)

namespace Act

def run (enter : NativeCode (Process β η ε)) (p : Process β η ε) :
    Act β η → Run (Process β η ε) (Answer β η)
  | install s => (p.install s).map .installed
  | startWith s => (p.startWith s).map .installed
  | readSettings => p.readSettings.map .settings
  | callFrame f => ((p.callFrame enter f).map Prod.fst).map .called
  | callWords function words =>
    ((p.callWords enter function words).map (·.map fun _ => ())).map .called
  | call c args => ((p.call enter c args).map (·.map fun _ => ())).map .called
  | installBackend b => (p.installBackend b).map .chosen
  | openTable => p.nativeTrampoline.map .table
  | openBackend => (p.backend : Run _ (Backend β η)).map .backend
  | request r => (r.inProcess p).map .replied

section Runs

variable {enter : NativeCode (Process β η ε)} (henter : Process.Stepwise enter)
  {p : Process β η ε} {a : Act β η}

include henter

theorem run_gated (hp : p.InOrder) (ha : a.IsCall) :
    ∃ r : Run (Process β η ε) (Except CallError Unit),
      p.Gated r ∧ a.run enter p = r.map .called := by
  cases a with
  | callFrame f =>
    have hgated := (Process.callFrame_gated henter hp f).map fun _ => ()
    refine ⟨_, hgated, ?_⟩
    show ((p.callFrame enter f).map Prod.fst).map _ = _
    rcases p.callFrame enter f with ⟨e | ⟨e | ⟨⟩, g⟩, q, l⟩ <;> rfl
  | callWords function words =>
    exact ⟨_, (Process.callWords_gated henter hp function words).map _, rfl⟩
  | call c args => exact ⟨_, (Process.call_gated henter hp c args).map _, rfl⟩
  | _ => cases ha

/-- Every act is a piece of a run. -/
theorem run_leads (p : Process β η ε) (a : Act β η) : p.Leads (a.run enter p).state := by
  have hkept := Process.keeps_leads_enter henter p
  have hlasting := Process.lasting_leads p
  cases a with
  | install s => exact (Process.Step.installs s).leads
  | startWith s =>
    by_cases h : s.validate = .ok () ∧ p.settings = none
    · obtain ⟨hagrees, -⟩ := Process.startWith_of_valid h.1 h.2
      have hinstalled : p.Step (p.install s).state := .installs s
      rw [Process.install_of_valid h.1 h.2] at hinstalled
      exact hinstalled.leads.trans (Process.Step.outside hagrees).leads
    · show p.Leads (p.startWith s).state
      rw [Process.startWith_of_not h]
      exact .refl p
  | readSettings => exact Process.Step.readsSettings.leads
  | callFrame f => exact hlasting.keeps_callFrame hkept f p (.refl p)
  | callWords function words =>
    show p.Leads (p.callWords enter function words).state
    cases hframe : Frame.ofWords function words with
    | error e =>
      unfold Process.callWords
      rw [hframe]
      exact .refl p
    | ok f =>
      rw [Process.callWords_of_frame hframe]
      exact hlasting.keeps_callFrame hkept f p (.refl p)
  | call c args => exact hlasting.keeps_call hkept c args p (.refl p)
  | installBackend b => exact (Process.Step.choosesBackend b).leads
  | openTable => exact Process.Step.opensTable.leads
  | openBackend => exact Process.Step.opensBackend.leads
  | request r => exact (r.inProcess_step p).leads

end Runs

end Act

/-- One act with the process before it and what it came to. -/
structure Turn (β η ε : Type) where
  act : Act β η
  before : Process β η ε
  ran : Run (Process β η ε) (Answer β η)

namespace Turn

/-- Settings are put into effect. That logging cannot start afterwards does not take them back. -/
def Installs (s : Settings) (t : Turn β η ε) : Prop :=
  t.act.Asks s ∧ ∀ e, t.ran.ended ≠ .ok (.installed (.error e))

/-- The settings are known from then on. -/
def Finds (s : Settings) (t : Turn β η ε) : Prop :=
  t.Installs s ∨ t.ran.ended = .ok (.settings s)

/-- A native call reaches its function. -/
def EntersNative (t : Turn β η ε) : Prop :=
  t.act.IsCall ∧ ∃ a, .event (.nativeCall a) ∈ t.ran.records

/-- The settings are read: they are answered, needed by a native call, or taken for the library's
own table at its first use. A use that panics because they are out of range reads none. -/
def Reads (t : Turn β η ε) : Prop :=
  (∃ s, t.ran.ended = .ok (.settings s)) ∨ t.EntersNative ∨ t.before.TableMade t.ran.state

def Settles (t : Turn β η ε) : Prop := (∃ s, t.Installs s) ∨ t.Reads

/-- A backend is answered where the act asks for one. -/
def Opens (b : Backend β η) (t : Turn β η ε) : Prop :=
  t.act.UsesBackend ∧ (t.before.backend : Run _ (Backend β η)).ended = .ok b

def Chooses (b : Backend β η) (t : Turn β η ε) : Prop :=
  (t.act = .installBackend b ∧ t.ran.ended = .ok (.chosen (.ok ()))) ∨ t.Opens b

end Turn

/-- The turn of an act. -/
def Act.turn (enter : NativeCode (Process β η ε)) (p : Process β η ε) (a : Act β η) :
    Turn β η ε where
  act := a
  before := p
  ran := a.run enter p

/-- One turn after the other, whatever each of them came to. -/
def turns (enter : NativeCode (Process β η ε)) : List (Act β η) → Process β η ε → List (Turn β η ε)
  | [], _ => []
  | a :: acts, p => a.turn enter p :: turns enter acts (a.run enter p).state

namespace Act

section Turns

variable {enter : NativeCode (Process β η ε)} (henter : Process.Stepwise enter)
  {p : Process β η ε} {a : Act β η}

theorem turn_installs_iff {s : Settings} (ha : a.Asks s) :
    (a.turn enter p).Installs s ↔ s.validate = .ok () ∧ p.settings = none := by
  by_cases h : s.validate = .ok () ∧ p.settings = none
  · refine iff_of_true ⟨ha, fun e he => ?_⟩ h
    rcases ha with rfl | rfl
    · rw [turn, run, Process.install_of_valid h.1 h.2] at he
      cases he
    · obtain ⟨a, hended, ⟨⟩⟩ := Run.map_ended.1 he
      exact (Process.startWith_of_valid h.1 h.2).2 e hended
  · refine iff_of_false ?_ h
    rintro ⟨-, hnot⟩
    rcases ha with rfl | rfl
    · refine hnot s.refusal ?_
      rw [turn, run, Process.install_of_not h]
      rfl
    · refine hnot s.refusal ?_
      rw [turn, run, Process.startWith_of_not h]
      rfl

/-- Settings that are not put into effect leave no trace, not even a line of a log. -/
theorem turn_refused {s : Settings} (ha : a.Asks s) (h : ¬ (a.turn enter p).Installs s) :
    (a.turn enter p).ran = ⟨.ok (.installed (.error s.refusal)), p, []⟩ := by
  rw [turn_installs_iff ha] at h
  rcases ha with rfl | rfl
  · rw [turn, run, Process.install_of_not h]
    rfl
  · rw [turn, run, Process.startWith_of_not h]
    rfl

theorem turn_finds {s : Settings} (h : (a.turn enter p).Finds s) :
    (a.run enter p).state.settings = some s := by
  rcases h with h | h
  · obtain ⟨hv, hs⟩ := (turn_installs_iff h.1).1 h
    rcases h.1 with rfl | rfl
    · rw [run, Process.install_of_valid hv hs]
      rfl
    · exact (Process.startWith_of_valid hv hs).1.settings
  · have hread := Process.readSettings_read p
    cases a with
    | readSettings =>
      obtain ⟨s', hended, ⟨⟩⟩ := Run.map_ended.1 h
      obtain ⟨o, hstate, -, hsome⟩ := Process.readSettings_spec p
      show p.readSettings.state.settings = _
      rw [hstate]
      exact hsome _ hended
    | _ =>
      obtain ⟨_, -, ⟨⟩⟩ := Run.map_ended.1 h

/-- A backend that an act chooses is the one chosen after it. -/
theorem turn_chooses {b : Backend β η} (hp : p.InOrder) (h : (a.turn enter p).Chooses b) :
    ∃ b', (a.run enter p).state.backend? = some b' ∧ b.Becomes b' := by
  rcases h with ⟨rfl, hended⟩ | ⟨huses, hended⟩
  · by_cases hc : p.choice = none
    · rw [run, Process.installBackend_of_none hc]
      exact ⟨b, rfl, .refl b⟩
    · rw [turn, run, Process.installBackend_of_isSome (Option.isSome_iff_ne_none.2 hc)] at hended
      cases hended
  · replace hended : (p.backend : Run _ (Backend β η)).ended = .ok b := hended
    cases a with
    | openBackend =>
      have hused := Process.backend_used (η := η) hp
      rw [hended] at hused
      exact hused.backend?
    | request r =>
      have hused := r.inProcess_used (η := η) hp
      rw [hended] at hused
      exact hused.backend?
    | _ => cases huses

include henter

/-- Settings are in effect after an act if they were before, or if the act settles them. -/
theorem turn_settled_iff (hp : p.InOrder) :
    (a.run enter p).state.settings.isSome = true ↔
      p.settings.isSome = true ∨ (a.turn enter p).Settles := by
  obtain ⟨hafter, honward⟩ := (run_leads henter p a).settled hp
  constructor
  · intro hsome
    refine or_iff_not_imp_left.2 fun hnot => ?_
    have hs : p.settings = none := by simpa using hnot
    -- Installing and calling are each more than one act, and read alike.
    have hasked : ∀ s, a.Asks s → (a.turn enter p).Settles := fun s ha => by
      by_contra hsettles
      have hran : (a.run enter p) = _ := turn_refused ha fun h => hsettles (.inl ⟨s, h⟩)
      rw [hran, hs] at hsome
      contradiction
    have hcalled : a.IsCall → (a.turn enter p).Settles := fun ha => by
      obtain ⟨r, hgated, hr⟩ := run_gated henter hp ha
      rw [hr] at hsome
      have hentered := (hgated.settled_iff.1 hsome).resolve_left hnot
      refine .inr (.inr (.inl ⟨ha, ?_⟩))
      rw [turn, hr]
      exact hentered
    cases a with
    | install s => exact hasked s (.inl rfl)
    | startWith s => exact hasked s (.inr rfl)
    | readSettings =>
      obtain ⟨s, hanswered⟩ := (Process.readSettings_settled_iff.1 hsome).resolve_left hnot
      exact .inr (.inl ⟨s, Run.map_ended.2 ⟨s, hanswered, rfl⟩⟩)
    | callFrame | callWords | call => exact hcalled trivial
    | installBackend b => exact absurd (Process.installBackend_settings b p ▸ hsome) hnot
    | openTable =>
      have hmade := (Process.nativeTrampoline_opened hp).settled_iff.1 hsome
      exact .inr (.inr (.inr (hmade.resolve_left hnot)))
    | openBackend =>
      have hmade := (Process.backend_used (η := η) hp).settled_iff.1 hsome
      exact .inr (.inr (.inr (hmade.resolve_left hnot)))
    | request r =>
      have hmade := (r.inProcess_used (η := η) hp).settled_iff.1 hsome
      exact .inr (.inr (.inr (hmade.resolve_left hnot)))
  · rintro (hs | ⟨s, hinstalls⟩ | ⟨s, hs⟩ | ⟨hcall, f, hf⟩ | ⟨-, t, ht⟩)
    · exact honward.isSome_settings hs
    · rw [turn_finds (.inl hinstalls), Option.isSome_some]
    · rw [turn_finds (.inr hs), Option.isSome_some]
    · replace hcall : a.IsCall := hcall
      obtain ⟨r, hgated, hr⟩ := run_gated henter hp hcall
      rw [turn, hr] at hf
      rw [hr]
      exact hgated.settled_iff.2 (.inr ⟨f, hf⟩)
    · exact (hafter.sound t ht).settled

/-- A native call that is rejected reads nothing. -/
theorem turn_rejected (hp : p.InOrder) {e : CallError}
    (h : (a.turn enter p).ran.ended = .ok (.called (.error e))) :
    p.Agrees (a.run enter p).state ∧ (a.run enter p).records = [] ∧ ¬ (a.turn enter p).Settles := by
  replace h : (a.run enter p).ended = .ok (.called (.error e)) := h
  have hcall : a.IsCall := by
    cases a with
    | callFrame | callWords | call => trivial
    | _ => obtain ⟨_, -, ⟨⟩⟩ := Run.map_ended.1 h
  obtain ⟨r, hgated, hr⟩ := run_gated henter hp hcall
  have hquiet : p.Agrees r.state ∧ r.records = [] := by
    rw [hr] at h
    obtain ⟨_, hended, ⟨⟩⟩ := Run.map_ended.1 h
    cases hgated with
    | rejected hagrees => exact ⟨hagrees, rfl⟩
    | fatal => cases hended
    | entered _ _ hnot => exact absurd hended (hnot e)
  obtain ⟨hagrees, hrecords⟩ := hquiet
  rw [hr]
  refine ⟨hagrees, hrecords, ?_⟩
  rintro (⟨s, ha, -⟩ | ⟨s, hs⟩ | ⟨-, f, hf⟩ | hmade)
  · exact Asks.not_isCall ha hcall
  · rw [turn, h] at hs
    cases hs
  · rw [turn, hr] at hf
    exact List.not_mem_nil (hrecords ▸ hf)
  · rw [turn, hr] at hmade
    exact Process.not_tableMade hagrees.native hmade

/-- Only an act that chooses a backend, or native code, ends that there is no choice. -/
theorem turn_unchosen (hp : p.InOrder) (hc : p.choice = none)
    (hnative : ¬ (a.turn enter p).EntersNative)
    (hchooses : ∀ b, ¬ (a.turn enter p).Chooses b) : (a.run enter p).state.choice = none := by
  have hasked : ∀ s, a.Asks s → (a.run enter p).state.choice = none := fun s ha => by
    by_cases hi : (a.turn enter p).Installs s
    · obtain ⟨hv, hs⟩ := (turn_installs_iff ha).1 hi
      rcases ha with rfl | rfl
      · rw [run, Process.install_of_valid hv hs]
        exact hc
      · exact (Process.startWith_of_valid hv hs).1.choice.trans hc
    · have hran : a.run enter p = _ := turn_refused ha hi
      rw [hran]
      exact hc
  have hcalled : a.IsCall → (a.run enter p).state.choice = none := fun ha => by
    obtain ⟨r, hgated, hr⟩ := run_gated henter hp ha
    rw [hr]
    cases hgated with
    | rejected h => exact h.choice.trans hc
    | fatal _ h => exact h.choice.trans hc
    | @entered _ _ _ f _ hl =>
      refine absurd ⟨ha, f, ?_⟩ hnative
      rw [turn, hr]
      exact hl
  have hused : ∀ {q : Process β η ε}, a.UsesBackend →
      p.BackendUsed (p.backend : Run _ (Backend β η)).ended q → q.choice = none := by
    intro q ha h
    cases hended : (p.backend : Run _ (Backend β η)).ended with
    | ok b => exact absurd (.inr ⟨ha, hended⟩) (hchooses b)
    | error e =>
      rw [hended] at h
      cases h with
      | failed _ ht => exact ht.choice.trans hc
  cases a with
  | install s => exact hasked s (.inl rfl)
  | startWith s => exact hasked s (.inr rfl)
  | readSettings =>
    obtain ⟨o, hstate, -⟩ := Process.readSettings_spec p
    show p.readSettings.state.choice = none
    rw [hstate]
    exact hc
  | callFrame | callWords | call => exact hcalled trivial
  | installBackend b =>
    refine absurd (.inl ⟨rfl, ?_⟩) (hchooses b)
    rw [turn, run, Process.installBackend_of_none hc]
    rfl
  | openTable => exact (Process.nativeTrampoline_opened hp).choice.trans hc
  | openBackend => exact hused trivial (Process.backend_used hp)
  | request r => exact hused trivial (r.inProcess_used hp)

end Turns

end Act

section Histories

variable {enter : NativeCode (Process β η ε)} (henter : Process.Stepwise enter)
  {p : Process β η ε} {acts : List (Act β η)} {before after : List (Turn β η ε)} {t : Turn β η ε}

include henter

/-- A turn in a history is that of an act in a state that was led to, and so are all after it. -/
theorem turns_split (h : turns enter acts p = before ++ t :: after) :
    ∃ (a : Act β η) (q : Process β η ε) (rest : List (Act β η)), t = a.turn enter q ∧ p.Leads q ∧
      after = turns enter rest (a.run enter q).state := by
  induction before generalizing acts p with
  | nil =>
    cases acts with
    | nil => cases h
    | cons a acts =>
      obtain ⟨rfl, rfl⟩ := List.cons.inj h
      exact ⟨a, p, acts, rfl, .refl p, rfl⟩
  | cons t' before ih =>
    cases acts with
    | nil => cases h
    | cons a acts =>
      obtain ⟨-, htail⟩ := List.cons.inj h
      obtain ⟨a', q, rest, ht, hq, hafter⟩ := ih htail
      exact ⟨a', q, rest, ht, (a.run_leads henter p).trans hq, hafter⟩

theorem turns_mem (h : t ∈ turns enter acts p) :
    ∃ (a : Act β η) (q : Process β η ε), t = a.turn enter q ∧ p.Leads q := by
  obtain ⟨before, after, hsplit⟩ := List.append_of_mem h
  obtain ⟨a, q, -, ht, hq, -⟩ := turns_split henter hsplit
  exact ⟨a, q, ht, hq⟩

/-- Induction on the turns before one. -/
theorem turns_induction
    {motive : List (Turn β η ε) → Process β η ε → Process β η ε → Prop}
    (nil : ∀ q, motive [] q q)
    (cons : ∀ (a : Act β η) (q : Process β η ε) (ts last), q.InOrder →
      motive ts (a.run enter q).state last → motive (a.turn enter q :: ts) q last)
    (hp : p.InOrder) (h : turns enter acts p = before ++ t :: after) :
    motive before p t.before := by
  induction before generalizing acts p with
  | nil =>
    cases acts with
    | nil => cases h
    | cons a acts =>
      obtain ⟨rfl, -⟩ := List.cons.inj h
      exact nil p
  | cons t' before ih =>
    cases acts with
    | nil => cases h
    | cons a acts =>
      obtain ⟨rfl, htail⟩ := List.cons.inj h
      exact cons a p before t.before hp (ih ((a.run_leads henter p).settled hp).1 htail)

/-- Settings are in effect before a turn if they were at the start, or if a turn settled them. -/
theorem turns_settled_iff (hp : p.InOrder) (h : turns enter acts p = before ++ t :: after) :
    t.before.settings.isSome = true ↔ p.settings.isSome = true ∨ ∃ t' ∈ before, t'.Settles := by
  refine turns_induction henter (motive := fun ts q last => last.settings.isSome = true ↔
    q.settings.isSome = true ∨ ∃ t' ∈ ts, t'.Settles) (fun q => by simp) ?_ hp h
  intro a q ts last hq ih
  rw [ih, a.turn_settled_iff henter hq, or_assoc]
  simp

/-- No backend is chosen before a turn if none was at the start, none was by a turn, and no native
code ran. -/
theorem turns_unchosen (hp : p.InOrder) (hc : p.choice = none)
    (h : turns enter acts p = before ++ t :: after)
    (hbefore : ∀ t' ∈ before, ¬ t'.EntersNative ∧ ∀ b, ¬ t'.Chooses b) :
    t.before.choice = none := by
  refine turns_induction henter (motive := fun ts q last => q.choice = none →
    (∀ t' ∈ ts, ¬ t'.EntersNative ∧ ∀ b, ¬ t'.Chooses b) → last.choice = none)
    (fun q hc _ => hc) ?_ hp h hc hbefore
  intro a q ts last hq ih hc hts
  obtain ⟨⟨hnative, hchooses⟩, hts⟩ := List.forall_mem_cons.1 hts
  exact ih (a.turn_unchosen henter hq hc hnative hchooses) hts

end Histories

/-- A history in which whatever is settled is settled once and for all. -/
structure Consistent (ts : List (Turn β η ε)) : Prop where
  /-- Settings are put into effect exactly if they are valid and no act before has put any into
  effect or read them. -/
  installs : ∀ {before t after s}, ts = before ++ t :: after → t.act.Asks s →
    (t.Installs s ↔ s.validate = .ok () ∧ ∀ t' ∈ before, ¬ t'.Settles)
  /-- If they are not, nothing happens, and logging does not start either. -/
  refused : ∀ {t s}, t ∈ ts → t.act.Asks s → ¬ t.Installs s →
    t.ran = ⟨.ok (.installed (.error s.refusal)), t.before, []⟩
  /-- A native call that is rejected reads nothing. -/
  rejected : ∀ {t e}, t ∈ ts → t.ran.ended = .ok (.called (.error e)) →
    t.before.Agrees t.ran.state ∧ t.ran.records = [] ∧ ¬ t.Settles
  /-- Settings that were installed or answered are what is answered from then on. -/
  settings : ∀ {before t after s}, ts = before ++ t :: after → t.Finds s →
    ∀ t' ∈ after, t'.act = .readSettings → t'.ran = ⟨.ok (.settings s), t'.before, []⟩
  /-- The library's own table has the capacity of the settings, whenever these are found. -/
  capacity : ∀ {t table}, t ∈ ts → t.ran.state.native = .ready table →
    (∃ s, t.ran.state.readSettings = ⟨.ok s, t.ran.state, []⟩ ∧
      table.registry.capacity = s.capacity) ∧
    ∀ t' ∈ ts, ∀ s, t'.Finds s → table.registry.capacity = s.capacity
  /-- The backend that an act chooses is the one that is opened from then on, whether it is the
  library's own or not, and none can be installed any more. -/
  backend : ∀ {before t after b}, ts = before ++ t :: after → t.Chooses b → ∀ t' ∈ after,
    (∀ b', t'.act = .installBackend b' →
      t'.ran = ⟨.ok (.chosen (.error .backendAlreadyInstalled)), t'.before, []⟩) ∧
    (t.ran.state.choice = some .native ↔ t'.before.choice = some .native) ∧
    (t'.act.UsesBackend → ∃ b', t'.Opens b' ∧ b.Becomes b')
  /-- Before any choice a backend can be installed. -/
  installable : ∀ {before t after b}, ts = before ++ t :: after → t.act = .installBackend b →
    (∀ t' ∈ before, ¬ t'.EntersNative ∧ ∀ b', ¬ t'.Chooses b') →
    t.ran = ⟨.ok (.chosen (.ok ())), { t.before with choice := some (.installed b) },
      [.event (.backendInstalled b.capacity)]⟩

section Histories

variable {enter : NativeCode (Process β η ε)} (henter : Process.Stepwise enter)
  {p : Process β η ε} {acts : List (Act β η)} {before after : List (Turn β η ε)} {t : Turn β η ε}

include henter

/-- What is settled after a turn is so before every later one. -/
theorem turns_onward (hp : p.InOrder) (h : turns enter acts p = before ++ t :: after)
    {t' : Turn β η ε} (ht' : t' ∈ after) :
    ∃ a : Act β η, t' = a.turn enter t'.before ∧ t'.before.InOrder ∧
      t.ran.state.Onward t'.before := by
  obtain ⟨a, q, rest, rfl, hq, rfl⟩ := turns_split henter h
  obtain ⟨a', q', rfl, hq'⟩ := turns_mem henter ht'
  have hsettled := ((hq.trans (a.run_leads henter q)).settled hp).1
  obtain ⟨hinOrder, honward⟩ := hq'.settled hsettled
  exact ⟨a', rfl, hinOrder, honward⟩

/-- Every turn leads to the end of the history. -/
theorem turns_end (acts : List (Act β η)) (p : Process β η ε) :
    ∃ last, p.Leads last ∧ ∀ t ∈ turns enter acts p, t.ran.state.Leads last := by
  induction acts generalizing p with
  | nil => exact ⟨p, .refl p, fun _ ht => absurd ht List.not_mem_nil⟩
  | cons a acts ih =>
    obtain ⟨last, hlast, hall⟩ := ih (a.run enter p).state
    refine ⟨last, (a.run_leads henter p).trans hlast, fun t ht => ?_⟩
    rcases List.mem_cons.1 ht with rfl | ht
    · exact hlast
    · exact hall t ht

theorem turns_capacity (hp : p.InOrder) {table : Trampoline β} (ht : t ∈ turns enter acts p)
    (hn : t.ran.state.native = .ready table) :
    (∃ s, t.ran.state.readSettings = ⟨.ok s, t.ran.state, []⟩ ∧
      table.registry.capacity = s.capacity) ∧
    ∀ t' ∈ turns enter acts p, ∀ s, t'.Finds s → table.registry.capacity = s.capacity := by
  obtain ⟨last, -, hlast⟩ := turns_end henter acts p
  have hafter : ∀ t' ∈ turns enter acts p, t'.ran.state.InOrder ∧ t'.ran.state.Onward last ∧
      ∀ s, t'.Finds s → t'.ran.state.settings = some s := by
    intro t' ht'
    have honward := hlast t' ht'
    obtain ⟨a, q, rfl, hq⟩ := turns_mem henter ht'
    have hinOrder := ((hq.trans (a.run_leads henter q)).settled hp).1
    exact ⟨hinOrder, (honward.settled hinOrder).2, fun s hs => a.turn_finds hs⟩
  obtain ⟨hinOrder, honward, -⟩ := hafter t ht
  obtain ⟨s₀, hs₀, hcapacity⟩ := (hinOrder.sound table hn).configured
  rw [min_eq_left (Settings.validate_eq_ok_iff.1 (hinOrder.valid s₀ hs₀)).2] at hcapacity
  refine ⟨⟨s₀, Process.readSettings_of_some hs₀, hcapacity⟩, fun t' ht' s hs => ?_⟩
  obtain ⟨-, honward', hfinds⟩ := hafter t' ht'
  -- Both are still in effect at the end.
  have hsame : some s₀ = some s :=
    (honward.settings s₀ hs₀).symm.trans (honward'.settings s (hfinds s hs))
  rw [hcapacity, Option.some.inj hsame]

theorem turns_backend (hp : p.InOrder) (h : turns enter acts p = before ++ t :: after)
    {b : Backend β η} (hb : t.Chooses b) {t' : Turn β η ε} (ht' : t' ∈ after) :
    (∀ b', t'.act = .installBackend b' →
      t'.ran = ⟨.ok (.chosen (.error .backendAlreadyInstalled)), t'.before, []⟩) ∧
    (t.ran.state.choice = some .native ↔ t'.before.choice = some .native) ∧
    (t'.act.UsesBackend → ∃ b', t'.Opens b' ∧ b.Becomes b') := by
  obtain ⟨a', ha', -, honward⟩ := turns_onward henter hp h ht'
  obtain ⟨a, q, -, rfl, hq, -⟩ := turns_split henter h
  -- The backend after the first turn, and what has become of it before the second.
  obtain ⟨b₁, hb₁, hbecomes⟩ := a.turn_chooses (hq.settled hp).1 hb
  obtain ⟨b₂, hb₂, hbecomes'⟩ := honward.backend? hb₁
  have hopen := Process.backend_of_backend? hb₂
  have hown := honward.own_iff (Process.isSome_choice hb₁)
  have hchoice := Process.isSome_choice hb₂
  refine ⟨fun b' hact => ?_, hown,
    fun huses => ⟨b₂, ⟨huses, by rw [hopen]⟩, hbecomes.trans hbecomes'⟩⟩
  rw [ha'] at hact ⊢
  replace hact : a' = .installBackend b' := hact
  rw [hact, Act.turn, Act.run, Process.installBackend_of_isSome hchoice]
  rfl

theorem turns_installs (hp : p.Fresh) (h : turns enter acts p = before ++ t :: after)
    {s : Settings} (ha : t.act.Asks s) :
    t.Installs s ↔ s.validate = .ok () ∧ ∀ t' ∈ before, ¬ t'.Settles := by
  have hsettled := turns_settled_iff henter hp.inOrder h
  obtain ⟨a, q, -, rfl, -⟩ := turns_split henter h
  replace ha : a.Asks s := ha
  have hnone : q.settings = none ↔ ∀ t' ∈ before, ¬ t'.Settles := by
    rw [← Option.not_isSome_iff_eq_none, show q.settings.isSome = true ↔ _ from hsettled,
      hp.settings]
    simp
  rw [Act.turn_installs_iff ha, hnone]

theorem turns_settings (hp : p.InOrder) (h : turns enter acts p = before ++ t :: after)
    {s : Settings} (hs : t.Finds s) {t' : Turn β η ε} (ht' : t' ∈ after)
    (hact : t'.act = .readSettings) : t'.ran = ⟨.ok (.settings s), t'.before, []⟩ := by
  obtain ⟨a', ha', -, honward⟩ := turns_onward henter hp h ht'
  obtain ⟨a, q, -, rfl, -⟩ := turns_split henter h
  have hread := Process.readSettings_of_some (honward.settings s (a.turn_finds hs))
  rw [ha'] at hact ⊢
  replace hact : a' = .readSettings := hact
  rw [hact, Act.turn, Act.run, hread]
  rfl

theorem turns_installable (hp : p.Fresh) (h : turns enter acts p = before ++ t :: after)
    {b : Backend β η} (hact : t.act = .installBackend b)
    (hbefore : ∀ t' ∈ before, ¬ t'.EntersNative ∧ ∀ b', ¬ t'.Chooses b') :
    t.ran = ⟨.ok (.chosen (.ok ())), { t.before with choice := some (.installed b) },
      [.event (.backendInstalled b.capacity)]⟩ := by
  have hc := turns_unchosen henter hp.inOrder hp.choice h hbefore
  obtain ⟨a, q, -, rfl, -⟩ := turns_split henter h
  replace hact : a = .installBackend b := hact
  replace hc : q.choice = none := hc
  subst hact
  show (q.installBackend b).map Answer.chosen = _
  rw [Process.installBackend_of_none hc]
  rfl

/-- Process-wide choices are made once and stay consistent, in every history of a process that has
done nothing yet: of whatever acts, in whatever order, and with native code that may itself do what
it likes through the library. -/
theorem turns_consistent (hp : p.Fresh) (acts : List (Act β η)) :
    Consistent (turns enter acts p) where
  installs h ha := turns_installs henter hp h ha
  refused ht ha hnot := by
    obtain ⟨a, q, rfl, -⟩ := turns_mem henter ht
    exact a.turn_refused ha hnot
  rejected ht hended := by
    obtain ⟨a, q, rfl, hq⟩ := turns_mem henter ht
    exact a.turn_rejected henter (hq.settled hp.inOrder).1 hended
  settings h hs _ ht' hact := turns_settings henter hp.inOrder h hs ht' hact
  capacity ht hn := turns_capacity henter hp.inOrder ht hn
  backend h hb _ ht' := turns_backend henter hp.inOrder h hb ht'
  installable h hact hbefore := turns_installable henter hp h hact hbefore

end Histories

end Acts

/-- A null function is rejected, settings without a slot are refused and others installed, and from
then on everything is as these say: no other settings are taken, the library's own table is the
backend of the first registration, and no other is. -/
theorem turns_consistent_two_slots :
    let fresh : Process Unit Empty Unit :=
      { files := .ofFiles "" [], nativeBase := 0x400000, client := () }
    let enter := Process.enterTable
      { memory := Process.memory
        body := fun _ _ => (pure none : Action (Process Unit Empty Unit) (Option Value)) } {}
    let c : Callback Unit := { params := [], results := [], body := () }
    let acts : List (Act Unit Empty) :=
      [.callWords 0 [], .startWith { capacity := 0 }, .install { capacity := 2 },
        .install { capacity := 3 }, .request (.register c), .callWords 0x400000 [],
        .installBackend (.trampoline { registry := .empty 1, table := .native 0 }), .readSettings]
    fresh.Fresh ∧ Process.Stepwise enter ∧ Consistent (turns enter acts fresh) ∧
      (turns enter acts fresh).map (·.ran.ended) =
        [.ok (.called (.error .nullFunction)), .ok (.installed (.error (.capacity 0))),
          .ok (.installed (.ok ())), .ok (.installed (.error .alreadyInstalled)),
          .ok (.replied (.ok (some 0x400000))), .ok (.called (.ok ())),
          .ok (.chosen (.error .backendAlreadyInstalled)), .ok (.settings { capacity := 2 })] := by
  intro fresh enter c acts
  have hfresh : fresh.Fresh := ⟨rfl, rfl, rfl⟩
  have hstepwise : Process.Stepwise enter := fun a w p =>
    (Process.lasting_leads p).keeps_enterEntry (fun _ _ => Action.keeps_pure _) _ a (w.loaded _) p
      (.refl p)
  refine ⟨hfresh, hstepwise, turns_consistent hstepwise hfresh acts, ?_⟩
  simp only [fresh, enter, c, acts]
  rfl

end CallBridge
