import CallBridge.Process.Gateway
import CallBridge.Proofs.Actions
import CallBridge.Proofs.ProcessRuns

/-!
Native calls by the run of the function that they enter. What happens before a function is entered
does not depend on it, and what happens afterwards is fixed by how it ended. So a call is one equation
in the run of the function, whatever native code is behind the address.
-/

namespace CallBridge

/-- The run with what was reported before it. -/
def Run.after {σ α : Type} (l : List Record) (r : Run σ α) : Run σ α where
  ended := r.ended
  state := r.state
  records := l ++ r.records

/-- The same run with another answer. -/
def Run.map {σ α γ : Type} (f : α → γ) (r : Run σ α) : Run σ γ where
  ended := r.ended.map f
  state := r.state
  records := r.records

theorem Run.map_ended {σ α γ : Type} {f : α → γ} {r : Run σ α} {c : γ} :
    (r.map f).ended = .ok c ↔ ∃ a, r.ended = .ok a ∧ f a = c := by
  rcases r with ⟨e | a, s, l⟩
  · simp [map, Except.map]
  · simp [map, Except.map]

/-- The declared result in the words that a function left. -/
def ResultWords.value? (r : ResultWords) (m : Memory) (result : Option Kind) : Option Value :=
  result.map fun k => .ofWord m k (if k.isFloat then r.f0 else r.r1)

theorem TypedCall.readResult_eq (c : TypedCall) (m : Memory) (f : Frame) (r : ResultWords)
    (err : Word) : c.readResult m (f.returned r err) = r.value? m c.result := by
  unfold readResult Frame.returned ResultWords.value?
  simp

namespace Process

variable {β η ε : Type} {p q : Process β η ε}

/-- No settings are in effect, and those of the environment ask for a capacity out of range. -/
def Misconfigured (p : Process β η ε) (n : Nat) : Prop :=
  p.settings = none ∧ Settings.ofEnvironment p.environment p.files p.format = .error (.capacity n)

theorem readSettings_of_misconfigured {n : Nat} (h : p.Misconfigured n) :
    readSettings p = ⟨.error (.panic (.violation (.configuredCapacity n))), p,
      [.event (.ofViolation (.configuredCapacity n))]⟩ := by
  rw [readSettings_of_none h.1, h.2]

/-- Settings are found in all other cases, and put into effect if none were. -/
theorem readSettings_of_not (h : ∀ n, ¬ p.Misconfigured n) :
    ∃ s l, readSettings p = ⟨.ok s, { p with settings := some s }, l⟩ := by
  cases hs : p.settings with
  | some s =>
    refine ⟨s, [], ?_⟩
    rw [readSettings_of_some hs, ← hs]
  | none =>
    rw [readSettings_of_none hs]
    cases he : Settings.ofEnvironment p.environment p.files p.format with
    | ok s => exact ⟨s, _, rfl⟩
    | error e =>
      cases e with
      | capacity n => exact absurd ⟨hs, he⟩ (h n)
      | _ => exact ⟨{}, _, rfl⟩

theorem readSettings_of_ended {s : Settings} (h : (readSettings p).ended = .ok s) :
    ∃ l, readSettings p = ⟨.ok s, { p with settings := some s }, l⟩ := by
  have hsettings : ∀ n, ¬ p.Misconfigured n := by
    intro n hn
    rw [readSettings_of_misconfigured hn] at h
    cases h
  obtain ⟨s', l, hread⟩ := readSettings_of_not hsettings
  rw [hread] at h
  cases h
  exact ⟨l, hread⟩

/-- The settings do not depend on the copies in memory. -/
theorem readSettings_withMemory (p : Process β η ε) (memory : Memory) :
    readSettings { p with memory } = ⟨(readSettings p).ended,
      { (readSettings p).state with memory }, (readSettings p).records⟩ := by
  rcases Option.eq_none_or_eq_some p.settings with hs | ⟨s, hs⟩
  · rw [readSettings_of_none hs, readSettings_of_none (p := { p with memory }) hs]
    cases Settings.ofEnvironment p.environment p.files p.format with
    | ok s => rfl
    | error e => cases e <;> rfl
  · rw [readSettings_of_some hs, readSettings_of_some (p := { p with memory }) hs]

/-- What a call does to the error number before the native function is entered. -/
def clearErrno (s : Settings) (p : Process β η ε) : Process β η ε :=
  if s.captureErrno then { p with errno := 0 } else p

theorem clearErrno_agrees (s : Settings) (p : Process β η ε) : Agrees p (clearErrno s p) := by
  unfold clearErrno
  split_ifs <;> exact ⟨rfl, rfl, rfl, rfl⟩

/-- A native call from the moment on at which the function is entered. -/
def enterFrame (enter : NativeCode (Process β η ε)) (f : Frame) (s : Settings) :
    Action (Process β η ε) (Except CallError Unit × Frame) := do
  let r ← enter f.function f.words
  let p ← Action.get
  let err := if s.captureErrno then p.errorWord else 0
  Action.modify fun p =>
    { p with stats := { p.stats with calls := p.stats.calls + 1 } }
  Action.emit (.nativeReturn f.function r.r1 err)
  pure (.ok (), f.returned r err)

theorem callFrame_eq (enter : NativeCode (Process β η ε)) (f : Frame) :
    callFrame enter f = if f.function = 0 then pure (.error .nullFunction, f) else
      (do
        let s ← readSettings
        Action.emit (.nativeCall f.function)
        Action.modify (clearErrno s)
        enterFrame enter f s) := by
  unfold callFrame
  refine if_congr Iff.rfl rfl (congrArg (readSettings >>= ·) (funext fun s => ?_))
  refine congrArg (Action.emit (.nativeCall f.function) >>= ·) (funext fun _ => ?_)
  unfold clearErrno enterFrame
  split_ifs <;> rfl

/-- A native call whose function returns is counted and reported. -/
theorem enterFrame_of_ok {enter : NativeCode (Process β η ε)} {f : Frame} {q : Process β η ε}
    {r : ResultWords} {l : List Record} (s : Settings)
    (h : enter f.function f.words p = ⟨.ok r, q, l⟩) :
    let err := if s.captureErrno then q.errorWord else 0
    enterFrame enter f s p =
      ⟨.ok (.ok (), f.returned r err),
        { q with stats := { q.stats with calls := q.stats.calls + 1 } },
        l ++ [.event (.nativeReturn f.function r.r1 err)]⟩ := by
  unfold enterFrame
  rw [Action.bind_of_ok h]
  rfl

section Frames

variable {enter : NativeCode (Process β η ε)} {f : Frame}

/-- What the gateway makes of the run of the function that it entered. -/
def leaveFrame (f : Frame) (s : Settings) :
    Run (Process β η ε) ResultWords → Run (Process β η ε) (Except CallError Unit × Frame)
  | ⟨.ok r, q, l⟩ =>
    let err := if s.captureErrno then q.errorWord else 0
    ⟨.ok (.ok (), f.returned r err),
      { q with stats := { q.stats with calls := q.stats.calls + 1 } },
      l ++ [.event (.nativeReturn f.function r.r1 err)]⟩
  | ⟨.error e, q, l⟩ => ⟨.error e, q, l⟩

theorem enterFrame_eq (enter : NativeCode (Process β η ε)) (f : Frame) (s : Settings)
    (p : Process β η ε) :
    enterFrame enter f s p = leaveFrame f s (enter f.function f.words p) := by
  rcases hr : enter f.function f.words p with ⟨e | r, q, l⟩
  · unfold enterFrame
    rw [Action.bind_of_error hr]
    rfl
  · rw [enterFrame_of_ok s hr]
    rfl

theorem leaveFrame_of_ok {ran : Run (Process β η ε) ResultWords} {r : ResultWords}
    (h : ran.ended = .ok r) (f : Frame) (s : Settings) :
    ∃ err, (leaveFrame f s ran).ended = .ok (.ok (), f.returned r err) := by
  obtain ⟨ended, q, l⟩ := ran
  cases h
  exact ⟨_, rfl⟩

theorem leaveFrame_of_error {ran : Run (Process β η ε) ResultWords} {e : Stop}
    (h : ran.ended = .error e) (f : Frame) (s : Settings) :
    (leaveFrame f s ran).ended = .error e := by
  obtain ⟨ended, q, l⟩ := ran
  cases h
  rfl

/-- A function that was entered is not refused any more. -/
theorem leaveFrame_accepted (f g : Frame) (s : Settings) (ran : Run (Process β η ε) ResultWords)
    (e : CallError) : (leaveFrame f s ran).ended ≠ .ok (.error e, g) := by
  rcases ran with ⟨e' | r, q, l⟩ <;> exact nofun

/-- Nothing that the function reported is taken back. -/
theorem leaveFrame_records (f : Frame) (s : Settings) (ran : Run (Process β η ε) ResultWords) :
    ran.records <+: (leaveFrame f s ran).records := by
  rcases ran with ⟨e | r, q, l⟩
  · exact List.prefix_rfl
  · exact List.prefix_append l _

theorem callFrame_of_null (hf : f.function = 0) :
    callFrame enter f p = ⟨.ok (.error .nullFunction, f), p, []⟩ := by
  rw [callFrame_eq, if_pos hf]
  rfl

/-- Without settings no function is entered. -/
theorem callFrame_of_unread (hf : f.function ≠ 0) {e : Stop} {l : List Record}
    (h : readSettings p = ⟨.error e, q, l⟩) : callFrame enter f p = ⟨.error e, q, l⟩ := by
  rw [callFrame_eq, if_neg hf, Action.bind_of_error h]

theorem callFrame_of_read (hf : f.function ≠ 0) {s : Settings} {l : List Record}
    (h : readSettings p = ⟨.ok s, q, l⟩) :
    callFrame enter f p =
      (leaveFrame f s (enter f.function f.words (clearErrno s q))).after
        (l ++ [.event (.nativeCall f.function)]) := by
  rw [callFrame_eq, if_neg hf, Action.bind_of_ok h, Action.emit_bind, Action.modify_bind,
    enterFrame_eq, Run.after, List.append_assoc, List.singleton_append]

/-- A frame is refused for its null function only, and stays as it is. -/
theorem callFrame_error_iff {e : CallError} {g : Frame} :
    (callFrame enter f p).ended = .ok (.error e, g) ↔
      f.function = 0 ∧ e = .nullFunction ∧ g = f := by
  by_cases hf : f.function = 0
  · rw [callFrame_of_null hf]
    simp [hf, eq_comm]
  · refine iff_of_false (fun h => ?_) fun h => hf h.1
    rcases hread : readSettings p with ⟨e' | s, q, l⟩
    · rw [callFrame_of_unread hf hread] at h
      cases h
    · rw [callFrame_of_read hf hread] at h
      exact leaveFrame_accepted _ _ _ _ _ h

end Frames

/-- The frame of a call that was not refused. -/
def accepted (called : Except CallError Unit × Frame) : Except CallError Frame :=
  called.1.map fun () => called.2

theorem accepted_error_iff {r : Run (Process β η ε) (Except CallError Unit × Frame)}
    {e : CallError} :
    (r.map accepted).ended = .ok (.error e) ↔ ∃ f, r.ended = .ok (.error e, f) := by
  rcases r with ⟨e' | ⟨e' | ⟨⟩, f⟩, q, l⟩ <;> simp [Run.map, accepted, Except.map]

/-- A call with bare words is that of the frame they make, and shows it unless it was refused. -/
theorem callWords_of_frame {enter : NativeCode (Process β η ε)} {function : Word}
    {words : List Word} {f : Frame} (h : Frame.ofWords function words = .ok f)
    (p : Process β η ε) :
    callWords enter function words p = (callFrame enter f p).map accepted := by
  unfold callWords
  rw [h]
  dsimp only
  rcases hr : callFrame enter f p with ⟨e | called, q, l⟩
  · rw [Action.bind_of_error hr]
    rfl
  · rw [Action.bind_of_ok hr]
    simp only [Action.pure_apply, List.append_nil]
    rfl

section Calls

variable {enter : NativeCode (Process β η ε)} {c : TypedCall} {args : List Value}

/-- What a typed call makes of the run of its frame: copies made since there were `mark` of them are
released, and then the result is read. -/
def leaveCall (c : TypedCall) (mark : Nat) (r : Run (Process β η ε) (Except CallError Frame)) :
    Run (Process β η ε) (Except CallError (Option Value × Word)) :=
  let memory := r.state.memory.release mark
  ⟨r.ended.map fun called => called.map fun f => (c.readResult memory f, f.err),
    { r.state with memory }, r.records⟩

theorem call_of_unprepared {e : CallError} (h : c.prepare p.memory args = .error e) :
    call enter c args p = ⟨.ok (.error e), p, []⟩ := by
  unfold call
  rw [Action.get_bind, h]
  rfl

theorem call_of_prepared {m : Memory} {w : ArgumentWords}
    (h : c.prepare p.memory args = .ok (m, w)) :
    call enter c args p = leaveCall c p.memory.copies.length
      ((callFrame enter { function := c.function, words := w } { p with memory := m }).map
        accepted) := by
  unfold call
  rw [Action.get_bind, h]
  dsimp only
  rw [Action.modify_bind]
  rcases hr : callFrame enter { function := c.function, words := w } { p with memory := m } with
    ⟨ended, q, l⟩
  have hensured : Action.ensuring (callFrame enter { function := c.function, words := w })
      (fun q => { q with memory := q.memory.release p.memory.copies.length })
        { p with memory := m } =
      ⟨ended, { q with memory := q.memory.release p.memory.copies.length }, l⟩ := by
    simp only [Action.ensuring, hr]
  rcases ended with e | ⟨e | ⟨⟩, f⟩
  · rw [Action.bind_of_error hensured]
    rfl
  · rw [Action.bind_of_ok hensured]
    simp only [Action.pure_apply, List.append_nil]
    rfl
  · rw [Action.bind_of_ok hensured]
    simp only [Action.get_bind, Action.pure_apply, List.append_nil]
    rfl

/-- A call whose function returned has a result, and is counted. -/
theorem leaveCall_of_returned (c : TypedCall) (mark : Nat) (f : Frame) (s : Settings)
    (r : ResultWords) (q : Process β η ε) (l l' : List Record) :
    let memory := q.memory.release mark
    let err := if s.captureErrno then q.errorWord else 0
    leaveCall c mark (((leaveFrame f s ⟨.ok r, q, l'⟩).after l).map accepted) =
      ⟨.ok (.ok (r.value? memory c.result, err)),
        { q with memory, stats := { q.stats with calls := q.stats.calls + 1 } },
        l ++ (l' ++ [.event (.nativeReturn f.function r.r1 err)])⟩ := by
  intro memory err
  rw [← c.readResult_eq memory f r err]
  rfl

/-- A call whose function did not return ends in the same way. -/
theorem leaveCall_of_stopped (c : TypedCall) (mark : Nat) (f : Frame) (s : Settings) (e : Stop)
    (q : Process β η ε) (l l' : List Record) :
    leaveCall c mark (((leaveFrame f s ⟨.error e, q, l'⟩).after l).map accepted) =
      ⟨.error e, { q with memory := q.memory.release mark }, l ++ l'⟩ := rfl

theorem leaveCall_error_iff (mark : Nat) {r : Run (Process β η ε) (Except CallError Frame)}
    {e : CallError} : (leaveCall c mark r).ended = .ok (.error e) ↔ r.ended = .ok (.error e) := by
  rcases r with ⟨e' | e' | f, q, l⟩ <;> simp [leaveCall, Except.map]

/-- Without declared kinds a call is one that declares the kinds of its arguments, less the error
number. -/
theorem callUndeclared_eq (enter : NativeCode (Process β η ε)) (function : Word) (args : List Value)
    (result : Option Kind) (p : Process β η ε) :
    let called := call enter { function, params := args.map Value.kind, result } args p
    callUndeclared enter function args result p =
      ⟨called.ended.map (·.map Prod.fst), called.state, called.records⟩ := by
  unfold callUndeclared
  rcases hr : call enter { function, params := args.map Value.kind, result } args p with
    ⟨e | r, q, l⟩
  · rw [Action.bind_of_error hr]
    rfl
  · rw [Action.bind_of_ok hr, Action.pure_apply, List.append_nil]
    rfl

theorem callUndeclared_error_iff {function : Word} {result : Option Kind} {e : CallError} :
    (callUndeclared enter function args result p).ended = .ok (.error e) ↔
      (call enter { function, params := args.map Value.kind, result } args p).ended =
        .ok (.error e) := by
  rw [callUndeclared_eq]
  rcases (call enter { function, params := args.map Value.kind, result } args p).ended with
    e' | e' | r <;> simp [Except.map]

end Calls

end Process

end CallBridge
