import CallBridge.Action

/-!
What actions do to a state, whatever they report and however they end.
-/

namespace CallBridge

namespace Action

variable {σ α γ : Type} {P : σ → Prop}

/-- The property holds again after the action, however the action ends. -/
def Keeps (P : σ → Prop) (x : Action σ α) : Prop := ∀ s, P s → P (x s).state

theorem keeps_pure (a : α) : Keeps P (pure a : Action σ α) := fun _ h => h

theorem keeps_get : Keeps P (get : Action σ σ) := fun _ h => h

theorem keeps_emit (e : Event) : Keeps P (emit e : Action σ Unit) := fun _ h => h

theorem keeps_stop (e : Stop) : Keeps P (stop e : Action σ α) := fun _ h => h

/-- Nothing that was reported is taken back. -/
theorem records_prefix_bind (x : Action σ α) (f : α → Action σ γ) (s : σ) :
    (x s).records <+: ((x >>= f) s).records := by
  cases hr : x s with
  | mk ended s' l =>
    cases ended with
    | error e => simp [bind_of_error hr]
    | ok a =>
      rw [bind_of_ok hr]
      exact List.prefix_append l _

theorem get_bind (f : σ → Action σ γ) (s : σ) : (get >>= f) s = f s s := rfl

theorem modify_bind (g : σ → σ) (f : Unit → Action σ γ) (s : σ) :
    (modify g >>= f) s = f () (g s) := rfl

theorem emit_bind (e : Event) (f : Unit → Action σ γ) (s : σ) :
    (emit e >>= f) s = ⟨(f () s).ended, (f () s).state, .event e :: (f () s).records⟩ := rfl

theorem Keeps.bind {x : Action σ α} {f : α → Action σ γ} (hx : Keeps P x)
    (hf : ∀ a, Keeps P (f a)) : Keeps P (x >>= f) := by
  intro s hs
  have hnext := hx s hs
  cases hr : x s with
  | mk ended s' l =>
    rw [hr] at hnext
    cases ended with
    | error e => simpa [bind_of_error hr] using hnext
    | ok a => simpa [bind_of_ok hr] using hf a s' hnext

theorem bind_ended_of_ok {x : Action σ α} {f : α → Action σ γ} {s : σ} {a : α}
    (h : (x s).ended = .ok a) : ((x >>= f) s).ended = (f a (x s).state).ended := by
  rcases hr : x s with ⟨ended, s', l⟩
  rw [hr] at h
  cases h
  rw [bind_of_ok hr]

theorem bind_ended_of_error {x : Action σ α} {f : α → Action σ γ} {s : σ} {e : Stop}
    (h : (x s).ended = .error e) : ((x >>= f) s).ended = .error e := by
  rcases hr : x s with ⟨ended, s', l⟩
  rw [hr] at h
  cases h
  rw [bind_of_error hr]

/-- What changes nothing leaves the state of what ran before it. -/
theorem bind_state {x : Action σ α} {f : α → Action σ γ} (hf : ∀ a s, (f a s).state = s) {s : σ} :
    ((x >>= f) s).state = (x s).state := by
  rcases hr : x s with ⟨e | a, s', l⟩
  · rw [bind_of_error hr]
  · rw [bind_of_ok hr, hf]

/-- An attempt ends like the action itself, or with its panic for a result. -/
theorem attempt_cases (x : Action σ α) (s : σ) :
    (∃ a, (x s).ended = .ok a ∧ attempt x s = ⟨.ok (.ok a), (x s).state, (x s).records⟩) ∨
      (∃ p, attempt x s = ⟨.ok (.error p), (x s).state, (x s).records⟩) ∨
      ∃ e, attempt x s = ⟨.error e, (x s).state, (x s).records⟩ := by
  unfold attempt
  cases x s with
  | mk ended s' l =>
    rcases ended with e | a
    · cases e with
      | panic p => exact .inr (.inl ⟨p, rfl⟩)
      | abort => exact .inr (.inr ⟨.abort, rfl⟩)
      | exhausted => exact .inr (.inr ⟨.exhausted, rfl⟩)
    · exact .inl ⟨a, rfl, rfl⟩

theorem attempt_state (x : Action σ α) (s : σ) : (attempt x s).state = (x s).state := by
  rcases attempt_cases x s with ⟨a, -, h⟩ | ⟨p, h⟩ | ⟨e, h⟩ <;> rw [h]

theorem attempt_records (x : Action σ α) (s : σ) : (attempt x s).records = (x s).records := by
  rcases attempt_cases x s with ⟨a, -, h⟩ | ⟨p, h⟩ | ⟨e, h⟩ <;> rw [h]

theorem attempt_of_ok {x : Action σ α} {s s' : σ} {a : α} {l : List Record}
    (h : x s = ⟨.ok a, s', l⟩) : attempt x s = ⟨.ok (.ok a), s', l⟩ := by
  simp only [attempt, h]

theorem attempt_of_panic {x : Action σ α} {s s' : σ} {p : Panic} {l : List Record}
    (h : x s = ⟨.error (.panic p), s', l⟩) : attempt x s = ⟨.ok (.error p), s', l⟩ := by
  simp only [attempt, h]

theorem attempt_of_abort {x : Action σ α} {s s' : σ} {l : List Record}
    (h : x s = ⟨.error .abort, s', l⟩) : attempt x s = ⟨.error .abort, s', l⟩ := by
  simp only [attempt, h]

theorem attempt_of_exhausted {x : Action σ α} {s s' : σ} {l : List Record}
    (h : x s = ⟨.error .exhausted, s', l⟩) : attempt x s = ⟨.error .exhausted, s', l⟩ := by
  simp only [attempt, h]

theorem Keeps.attempt {x : Action σ α} (hx : Keeps P x) : Keeps P (attempt x) := by
  intro s hs
  rw [attempt_state]
  exact hx s hs

theorem Keeps.ensuring {x : Action σ α} {f : σ → σ} (hx : Keeps P x) (hf : ∀ s, P s → P (f s)) :
    Keeps P (ensuring x f) := fun s hs => hf _ (hx s hs)

theorem keeps_require (r : Except Violation α) : Keeps P (require r : Action σ α) := by
  intro s hs
  cases r <;> exact hs

theorem demand_state (r : Verdict Violation α) (s : σ) :
    (demand r s : Run σ α).state = s := by
  cases r <;> rfl

theorem demand_ended {r : Verdict Violation α} {s : σ} {a : α}
    (h : (demand r s : Run σ α).ended = .ok a) : r = .ok a := by
  cases r with
  | ok b => exact congrArg Verdict.ok (Except.ok.inj h)
  | error v => cases h
  | overflow o => cases h

end Action

end CallBridge
