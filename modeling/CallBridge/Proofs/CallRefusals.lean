import CallBridge.Proofs.Placements
import CallBridge.Proofs.TypedCalls

/-!
Why a typed call is refused. Several things can be wrong with one call, and the one that is reported
is the first in a fixed order: the number of arguments, then the first argument that is not in order,
then the null function. A refused call leaves no trace. Any other enters its function once, unless
there are no settings to be had.
-/

namespace CallBridge

namespace TypedCall

/-- What is wrong with argument `i`. Something counts if nothing listed before it is wrong with the
same argument. -/
inductive Defect (c : TypedCall) (args : List Value) (i : Nat) : CallError → Prop where
  | kind {v : Value} {k : Kind} (argument : args[i]? = some v) (param : c.params[i]? = some k)
      (other : v.kind ≠ k) : Defect c args i (.argumentKind i k v.kind)
  | string {v : Value} (argument : args[i]? = some v) (param : c.params[i]? = some v.kind)
      (nul : ¬ v.Passable) : Defect c args i .invalidString
  | room {v : Value} (argument : args[i]? = some v) (param : c.params[i]? = some v.kind)
      (passable : v.Passable) (full : 9 < spilledWords (c.params.take (i + 1))) :
      Defect c args i (.tooManyArguments args.length)

/-- Why a call is refused. -/
inductive Refused (c : TypedCall) (args : List Value) : CallError → Prop where
  | count (other : args.length ≠ c.params.length) :
      Refused c args (.argumentCount c.params.length args.length)
  | argument {i : Nat} {e : CallError} (counted : args.length = c.params.length)
      (defect : c.Defect args i e) (first : ∀ j < i, ∀ e', ¬ c.Defect args j e') :
      Refused c args e
  | null (counted : args.length = c.params.length) (fine : ∀ i e, ¬ c.Defect args i e)
      (zero : c.function = 0) : Refused c args .nullFunction

end TypedCall

namespace Classifier

variable {c : Classifier}

/-- The argument that takes the stack beyond the frame is the one behind the last stack word. -/
theorem place_of_full {r : RegisterClass} (hroom : c.stackWords ≤ 9)
    (hfull : 9 < (c.place r).2.stackWords) : (c.place r).1 = .stack 9 := by
  have hplace : c.place r = (.stack c.stackWords, { c with stackWords := c.stackWords + 1 }) := by
    unfold place at *
    cases r <;> dsimp only at * <;> split_ifs at *
    all_goals first | rfl | exact absurd hfull (Nat.not_lt.2 hroom)
  rw [hplace] at hfull ⊢
  have hlast : c.stackWords = 9 := Nat.le_antisymm hroom (Nat.lt_succ_iff.1 hfull)
  rw [hlast]

end Classifier

namespace TypedCall

variable {c : TypedCall} {args : List Value} {i : Nat} {e : CallError}

theorem Defect.lt_length (h : c.Defect args i e) : i < args.length := by
  cases h with
  | kind argument => exact (List.getElem?_eq_some_iff.1 argument).1
  | string argument => exact (List.getElem?_eq_some_iff.1 argument).1
  | room argument => exact (List.getElem?_eq_some_iff.1 argument).1

section Stops

variable {cl : Classifier} {v : Value} {k : Kind} {count index : Nat} {m : Memory}
  {w : ArgumentWords} {rest : List (Value × Kind)}

theorem place_of_kind (h : v.kind ≠ k) :
    place count index cl m w ((v, k) :: rest) = .error (.argumentKind index k v.kind) := by
  rw [place, if_pos h]

theorem place_of_string (h : ¬ v.Passable) :
    place count index cl m w ((v, v.kind) :: rest) = .error .invalidString := by
  rw [place, if_neg (not_not.2 rfl), Value.pass?_of_not_passable h]

theorem place_of_room (hpass : v.Passable)
    (hfull : (cl.place v.kind.registerClass).1 = .stack 9) :
    place count index cl m w ((v, v.kind) :: rest) = .error (.tooManyArguments count) := by
  obtain ⟨x, hx, -⟩ := Value.pass?_spec hpass m
  have hnone : ¬ intRegisterCount + 9 < maxCallArgs := by decide
  rw [place, if_neg (not_not.2 rfl), hx]
  simp only [hfull, if_neg hnone]

end Stops

/-- What is known of the arguments before the first that is not in order. -/
theorem fine_take (hcount : args.length = c.params.length) (hi : i ≤ args.length)
    (first : ∀ j < i, ∀ e, ¬ c.Defect args j e) :
    (args.take i).map Value.kind = c.params.take i ∧ (∀ v ∈ args.take i, v.Passable) ∧
      spilledWords (c.params.take i) ≤ 9 := by
  have hfine : ∀ j (hj : j < i), args[j].kind = c.params[j] ∧ args[j].Passable ∧
      spilledWords (c.params.take (j + 1)) ≤ 9 := by
    intro j hj
    have hargument : args[j]? = some args[j] := List.getElem?_eq_getElem (by omega)
    have hparam : c.params[j]? = some c.params[j] := List.getElem?_eq_getElem (by omega)
    have hkind : args[j].kind = c.params[j] := by
      by_contra hne
      exact first j hj _ (.kind hargument hparam hne)
    rw [← hkind] at hparam
    have hpass : args[j].Passable := by
      by_contra hnul
      exact first j hj _ (.string hargument hparam hnul)
    refine ⟨hkind, hpass, ?_⟩
    by_contra hfull
    exact first j hj _ (.room hargument hparam hpass (Nat.not_le.1 hfull))
  refine ⟨?_, ?_, ?_⟩
  · refine List.ext_getElem (by simp; omega) fun j hj _ => ?_
    rw [List.getElem_map, List.getElem_take, List.getElem_take]
    exact (hfine j (by simp at hj; omega)).1
  · intro v hv
    obtain ⟨j, hj, rfl⟩ := List.mem_take_iff_getElem.1 hv
    exact (hfine j (by omega)).2.1
  · cases i with
    | zero => exact Nat.zero_le _
    | succ j => exact (hfine j (by omega)).2.2

/-- Arguments of the declared kinds that native code can be given and that fit the frame are in
order. -/
theorem not_defect_of_take (hkinds : (args.take i).map Value.kind = c.params.take i)
    (hpass : ∀ v ∈ args.take i, v.Passable) (hspilled : spilledWords (c.params.take i) ≤ 9) :
    ∀ j < i, ∀ e, ¬ c.Defect args j e := by
  intro j hj e hdefect
  have hparams : ∀ v, args[j]? = some v → c.params[j]? = some v.kind := by
    intro v hv
    rw [← List.getElem?_take_of_lt hj, ← hkinds, List.getElem?_map, List.getElem?_take_of_lt hj, hv]
    rfl
  cases hdefect with
  | kind argument param other =>
    rw [hparams _ argument] at param
    exact other (Option.some.inj param)
  | string argument _ nul =>
    exact nul (hpass _ (List.mem_of_getElem? ((List.getElem?_take_of_lt hj).trans argument)))
  | room argument _ _ full =>
    have hle : spilledWords (c.params.take (j + 1)) ≤ spilledWords (c.params.take i) :=
      spilledWords_mono (List.take_prefix_take_left (Nat.succ_le_of_lt hj))
    omega

/-- The first argument that is not in order is reported, whatever follows it. -/
theorem prepare_of_defect (hcount : args.length = c.params.length) (hdefect : c.Defect args i e)
    (first : ∀ j < i, ∀ e', ¬ c.Defect args j e') (m : Memory) : c.prepare m args = .error e := by
  have hi := hdefect.lt_length
  obtain ⟨hkinds, hpass, hspilled⟩ := fine_take hcount (Nat.le_of_lt hi) first
  have hstack : stackWords ((args.take i).map Value.kind) ≤ maxCallArgs - intRegisterCount := by
    rw [stackWords_eq, hkinds]
    exact hspilled
  have hsplit : args.zip c.params = (args.take i).zip ((args.take i).map Value.kind) ++
      (args[i], c.params[i]) :: (args.drop (i + 1)).zip (c.params.drop (i + 1)) := by
    rw [hkinds, ← List.zip_cons_cons, ← List.drop_eq_getElem_cons, ← List.drop_eq_getElem_cons,
      ← List.zip_append (by simp; omega), List.take_append_drop, List.take_append_drop]
  have hindex : 0 + (args.take i).length = i := by simp; omega
  obtain ⟨_, w', -, hplace, -⟩ :=
    place_append hpass Classifier.start_onHost hstack args.length 0 m {}
  rw [prepare, if_pos hcount, hsplit, hplace, hindex]
  cases hdefect with
  | kind argument param other =>
    obtain ⟨_, rfl⟩ := List.getElem?_eq_some_iff.1 argument
    obtain ⟨_, rfl⟩ := List.getElem?_eq_some_iff.1 param
    exact place_of_kind other
  | string argument param nul =>
    obtain ⟨_, rfl⟩ := List.getElem?_eq_some_iff.1 argument
    obtain ⟨_, hk⟩ := List.getElem?_eq_some_iff.1 param
    rw [hk]
    exact place_of_string nul
  | room argument param passable full =>
    obtain ⟨_, rfl⟩ := List.getElem?_eq_some_iff.1 argument
    obtain ⟨hparam, hk⟩ := List.getElem?_eq_some_iff.1 param
    rw [hk]
    refine place_of_room passable (Classifier.place_of_full ?_ ?_)
    · exact hstack
    · rw [← stackWords_eq, List.take_succ_eq_append_getElem hparam, hk, ← hkinds, stackWords,
        List.map_append, Classifier.advance_append] at full
      exact full

theorem not_refused_of_fine (hkinds : args.map Value.kind = c.params)
    (hpass : ∀ v ∈ args, v.Passable) (hspilled : spilledWords c.params ≤ 9)
    (hfunction : c.function ≠ 0) : ∀ e, ¬ c.Refused args e := by
  have hcount : args.length = c.params.length := by rw [← hkinds, List.length_map]
  have hfine : ∀ j < args.length, ∀ e, ¬ c.Defect args j e := by
    refine not_defect_of_take ?_ ?_ ?_
    · rw [List.take_length, hcount, List.take_length, hkinds]
    · rwa [List.take_length]
    · rwa [hcount, List.take_length]
  intro e hrefused
  cases hrefused with
  | count other => exact other hcount
  | argument _ defect => exact hfine _ defect.lt_length _ defect
  | null _ _ zero => exact hfunction zero

/-- Arguments that are all in order are prepared; their copies are added to memory. -/
theorem prepare_of_fine (hcount : args.length = c.params.length)
    (hfine : ∀ i e, ¬ c.Defect args i e) (m : Memory) :
    ∃ w, c.prepare m args =
      .ok ({ m with copies := m.copies ++ args.flatMap Value.copies }, w) := by
  obtain ⟨hkinds, hpass, hspilled⟩ := fine_take hcount le_rfl fun j _ => hfine j
  rw [List.take_length] at hkinds hpass
  rw [hcount, List.take_length] at hkinds hspilled
  rw [← stackWords_eq] at hspilled
  obtain ⟨m', w, hprepare, hpasses⟩ := prepare_passes hkinds hpass hspilled m
  exact ⟨w, hpasses.copies ▸ hprepare⟩

/-- Among arguments that are not all in order there is a first that is not. -/
theorem Defect.exists_first (h : c.Defect args i e) :
    ∃ i e, c.Defect args i e ∧ ∀ j < i, ∀ e', ¬ c.Defect args j e' := by
  classical
  have hex : ∃ i e, c.Defect args i e := ⟨i, e, h⟩
  obtain ⟨e', hdefect⟩ := Nat.find_spec hex
  exact ⟨_, e', hdefect, fun j hj e'' he => Nat.find_min hex hj ⟨e'', he⟩⟩

/-- A call that is not refused has all its arguments in order and a function to call. -/
theorem fine_of_not_refused (h : ∀ e, ¬ c.Refused args e) :
    args.length = c.params.length ∧ (∀ i e, ¬ c.Defect args i e) ∧ c.function ≠ 0 := by
  have hcount : args.length = c.params.length := by
    by_contra hne
    exact h _ (.count hne)
  have hfine : ∀ i e, ¬ c.Defect args i e := by
    intro i e hdefect
    obtain ⟨_, e', hfirst, hothers⟩ := hdefect.exists_first
    exact h e' (.argument hcount hfirst hothers)
  exact ⟨hcount, hfine, fun hzero => h _ (.null hcount hfine hzero)⟩

/-- Arguments that are prepared are all in order. Their copies are added to memory, and nothing
else. -/
theorem fine_of_prepare {m m' : Memory} {w : ArgumentWords} (h : c.prepare m args = .ok (m', w)) :
    args.length = c.params.length ∧ (∀ i e, ¬ c.Defect args i e) ∧
      m' = { m with copies := m.copies ++ args.flatMap Value.copies } := by
  have hcount : args.length = c.params.length := by
    by_contra hne
    rw [prepare, if_neg hne] at h
    cases h
  have hfine : ∀ i e, ¬ c.Defect args i e := by
    intro i e hdefect
    obtain ⟨_, e', hfirst, hothers⟩ := hdefect.exists_first
    rw [prepare_of_defect hcount hfirst hothers] at h
    cases h
  obtain ⟨w', hprepare⟩ := prepare_of_fine hcount hfine m
  rw [h] at hprepare
  cases hprepare
  exact ⟨hcount, hfine, rfl⟩

/-- A call that is prepared passes its arguments. -/
theorem passes_of_prepare {m m' : Memory} {w : ArgumentWords}
    (h : c.prepare m args = .ok (m', w)) :
    (∀ v ∈ args, v.Passable) ∧ Passes c.params args m m' w := by
  obtain ⟨hcount, hfine, -⟩ := fine_of_prepare h
  obtain ⟨hkinds, hpass, hspilled⟩ := fine_take hcount le_rfl fun j _ => hfine j
  rw [List.take_length] at hkinds hpass
  rw [hcount, List.take_length] at hkinds hspilled
  rw [← stackWords_eq] at hspilled
  obtain ⟨m', w, hprepare, hpasses⟩ := prepare_passes hkinds hpass hspilled m
  cases h.symm.trans hprepare
  exact ⟨hpass, hpasses⟩

/-- A typed call is refused unless its arguments can be prepared and there is a function. -/
theorem not_refused_iff (m : Memory) :
    (∀ e, ¬ c.Refused args e) ↔ (c.prepare m args).isOk = true ∧ c.function ≠ 0 := by
  constructor
  · intro h
    obtain ⟨hcount, hfine, hfunction⟩ := fine_of_not_refused h
    obtain ⟨w, hprepare⟩ := prepare_of_fine hcount hfine m
    exact ⟨by rw [hprepare]; rfl, hfunction⟩
  · rintro ⟨hok, hfunction⟩ e hrefused
    cases hprepare : c.prepare m args with
    | error e' =>
      rw [hprepare] at hok
      cases hok
    | ok prepared =>
      obtain ⟨hcount, hfine, -⟩ := fine_of_prepare hprepare
      cases hrefused with
      | count other => exact other hcount
      | argument _ defect => exact hfine _ _ defect
      | null _ _ zero => exact hfunction zero

end TypedCall

theorem Memory.release_copies (l l' : List (List UInt8)) (e : Word → List UInt8) :
    release ⟨l ++ l', e⟩ l.length = ⟨l, e⟩ := by
  rw [release, List.take_left]

namespace Process

variable {β η ε : Type} {p : Process β η ε} {c : TypedCall} {args : List Value}

/-- Copies that were made for a call are gone when it ends before its function is entered. -/
theorem leaveCall_of_stored (ended : Except Stop CallError) (l : List Record) :
    leaveCall c p.memory.copies.length ⟨ended.map .error,
      { p with
        memory := { p.memory with copies := p.memory.copies ++ args.flatMap Value.copies } }, l⟩ =
      ⟨ended.map .error, p, l⟩ := by
  simp only [leaveCall, Memory.release_copies]
  cases ended <;> rfl

/-- A refused call leaves no trace. -/
theorem call_of_refused {e : CallError} (h : c.Refused args e) (enter : NativeCode (Process β η ε))
    (p : Process β η ε) : call enter c args p = ⟨.ok (.error e), p, []⟩ := by
  cases h with
  | count other => exact call_of_unprepared (if_neg other)
  | argument counted defect first =>
    exact call_of_unprepared (c.prepare_of_defect counted defect first _)
  | null counted fine zero =>
    obtain ⟨w, hprepare⟩ := TypedCall.prepare_of_fine counted fine p.memory
    rw [call_of_prepared hprepare, callFrame_of_null zero]
    exact leaveCall_of_stored (.ok .nullFunction) []

/-- A call whose words are prepared enters its function with them. -/
theorem call_of_words {w : ArgumentWords} {s : Settings} {l : List Record}
    (hfunction : c.function ≠ 0)
    (hprepare : c.prepare p.memory args =
      .ok ({ p.memory with copies := p.memory.copies ++ args.flatMap Value.copies }, w))
    (hread : readSettings p = ⟨.ok s, { p with settings := some s }, l⟩)
    (enter : NativeCode (Process β η ε)) :
    call enter c args p = leaveCall c p.memory.copies.length
      (((leaveFrame { function := c.function, words := w } s
        (enter c.function w (entered { p with settings := some s } args))).after
          (l ++ [.event (.nativeCall c.function)])).map accepted) := by
  have hstored := p.readSettings_withMemory
    { p.memory with copies := p.memory.copies ++ args.flatMap Value.copies }
  rw [hread] at hstored
  rw [call_of_prepared hprepare, callFrame_of_read hfunction hstored]
  rfl

section Entered

variable (hcount : args.length = c.params.length) (hfine : ∀ i e, ¬ c.Defect args i e)
  (hfunction : c.function ≠ 0)

include hcount hfine hfunction

/-- Without settings the function is not entered, and nothing but the panic is reported. -/
theorem call_of_misconfigured {n : Nat} (h : p.Misconfigured n)
    (enter : NativeCode (Process β η ε)) :
    call enter c args p = ⟨.error (.panic (.violation (.configuredCapacity n))), p,
      [.event (.ofViolation (.configuredCapacity n))]⟩ := by
  obtain ⟨w, hprepare⟩ := TypedCall.prepare_of_fine hcount hfine p.memory
  have hread := p.readSettings_withMemory
    { p.memory with copies := p.memory.copies ++ args.flatMap Value.copies }
  rw [readSettings_of_misconfigured h] at hread
  rw [call_of_prepared hprepare, callFrame_of_unread hfunction hread]
  exact leaveCall_of_stored (.error _) _

/-- A call that is in order enters its function once, with words and in a state that do not depend
on the function. -/
theorem call_of_fine {s : Settings} {l : List Record}
    (hread : readSettings p = ⟨.ok s, { p with settings := some s }, l⟩) :
    ∃ w, ∀ enter : NativeCode (Process β η ε), call enter c args p =
      leaveCall c p.memory.copies.length
        (((leaveFrame { function := c.function, words := w } s
          (enter c.function w (entered { p with settings := some s } args))).after
            (l ++ [.event (.nativeCall c.function)])).map accepted) := by
  obtain ⟨w, hprepare⟩ := TypedCall.prepare_of_fine hcount hfine p.memory
  exact ⟨w, fun enter => call_of_words hfunction hprepare hread enter⟩

end Entered

/-- Only a refused call ends with an error. -/
theorem refused_of_call {enter : NativeCode (Process β η ε)} {e : CallError}
    (h : (call enter c args p).ended = .ok (.error e)) : c.Refused args e := by
  by_cases hrefused : ∃ e', c.Refused args e'
  · obtain ⟨e', he'⟩ := hrefused
    rw [call_of_refused he'] at h
    cases h
    exact he'
  · obtain ⟨hcount, hfine, hfunction⟩ := TypedCall.fine_of_not_refused (not_exists.1 hrefused)
    by_cases hn : ∃ n, p.Misconfigured n
    · obtain ⟨n, hn⟩ := hn
      rw [call_of_misconfigured hcount hfine hfunction hn] at h
      cases h
    · obtain ⟨s, l, hread⟩ := readSettings_of_not (not_exists.1 hn)
      obtain ⟨w, hcall⟩ := call_of_fine hcount hfine hfunction hread
      rw [hcall enter, leaveCall_error_iff, accepted_error_iff] at h
      obtain ⟨f, h⟩ := h
      exact absurd h (leaveFrame_accepted _ _ _ _ _)

theorem entered_stats (p : Process β η ε) (args : List Value) : (p.entered args).stats = p.stats := by
  unfold entered clearErrno
  split_ifs <;> rfl

/-- A call that declares the kinds its arguments have is not refused for their number or kinds. -/
theorem undeclared_error {enter : NativeCode (Process β η ε)} {function : Word}
    {result : Option Kind} {e : CallError}
    (h : (callUndeclared enter function args result p).ended = .ok (.error e)) :
    e = .tooManyArguments args.length ∨ e = .nullFunction ∨ e = .invalidString := by
  cases refused_of_call (callUndeclared_error_iff.1 h) with
  | count other => exact absurd (List.length_map _).symm other
  | argument _ defect =>
    cases defect with
    | kind argument param other =>
      rw [List.getElem?_map, argument] at param
      exact absurd (Option.some.inj param) other
    | string => exact .inr (.inr rfl)
    | room => exact .inl rfl
  | null => exact .inr (.inl rfl)

/-- What a typed call comes to. It ends with an error exactly if it is refused, and then with that of
the first defect in the order of the checks; the process is as it was, whatever native code is. Any
other call panics before its function is entered, if the settings cannot be read; else it enters the
function once, ends well if the function returns, and is then counted once. Arguments without
declared kinds are never refused for their number or their kinds. -/
theorem call_refused_or_entered (c : TypedCall) (args : List Value) (p : Process β η ε) :
    (∀ (enter : NativeCode (Process β η ε)) (e : CallError),
      ((call enter c args p).ended = .ok (.error e) ↔ c.Refused args e) ∧
      (c.Refused args e → call enter c args p = ⟨.ok (.error e), p, []⟩)) ∧
    ((∀ e, ¬ c.Refused args e) →
      (∀ n, p.Misconfigured n → ∀ enter, call enter c args p =
        ⟨.error (.panic (.violation (.configuredCapacity n))), p,
          [.event (.ofViolation (.configuredCapacity n))]⟩) ∧
      ((∀ n, ¬ p.Misconfigured n) → ∃ s l w q,
        readSettings p = ⟨.ok s, { p with settings := some s }, l⟩ ∧ q.stats = p.stats ∧
        ∀ enter : NativeCode (Process β η ε),
          let ran := enter c.function w q
          let called := call enter c args p
          called = leaveCall c p.memory.copies.length
            (((leaveFrame { function := c.function, words := w } s ran).after
              (l ++ [.event (.nativeCall c.function)])).map accepted) ∧
          (∀ r, ran.ended = .ok r → (∃ v, called.ended = .ok (.ok v)) ∧
            called.state.stats.calls = ran.state.stats.calls + 1) ∧
          ∀ e, ran.ended = .error e → called.ended = .error e)) ∧
    ∀ (enter : NativeCode (Process β η ε)) (function : Word) (result : Option Kind) (e : CallError),
      (callUndeclared enter function args result p).ended = .ok (.error e) →
        (∀ n m, e ≠ .argumentCount n m) ∧ ∀ i k k', e ≠ .argumentKind i k k' := by
  refine ⟨fun enter e => ⟨⟨refused_of_call, fun he => ?_⟩, fun he => call_of_refused he enter p⟩,
    fun h => ?_, fun enter function result e he => ?_⟩
  · rw [call_of_refused he]
  · obtain ⟨hcount, hfine, hfunction⟩ := TypedCall.fine_of_not_refused h
    refine ⟨fun n hn => call_of_misconfigured hcount hfine hfunction hn, fun hn => ?_⟩
    obtain ⟨s, l, hread⟩ := readSettings_of_not hn
    obtain ⟨w, hcall⟩ := call_of_fine hcount hfine hfunction hread
    refine ⟨s, l, w, _, hread, entered_stats { p with settings := some s } args,
      fun enter => ⟨hcall enter, ?_, ?_⟩⟩
    · intro r hr
      rw [hcall enter]
      rcases hran : enter c.function w (entered { p with settings := some s } args) with ⟨x, q, l'⟩
      rw [hran] at hr
      cases hr
      rw [leaveCall_of_returned]
      exact ⟨⟨_, rfl⟩, rfl⟩
    · intro e he
      rw [hcall enter]
      rcases hran : enter c.function w (entered { p with settings := some s } args) with ⟨x, q, l'⟩
      rw [hran] at he
      cases he
      rw [leaveCall_of_stopped]
  · rcases undeclared_error he with rfl | rfl | rfl <;> simp

/-- A call in order that panics, for the environment asks for a table without slots. -/
theorem call_stopped_by_capacity :
    let p : Process Unit Empty Unit :=
      { environment := { entries := [("NATIVECALL_CALLBACK_CAPACITY", Utf8.bytes "0")] }
        files := .ofFiles "" [], nativeBase := 0x400000, client := () }
    let c : TypedCall := { function := 0x500000, params := [.i32], result := some .i32 }
    let args : List Value := [⟨.i32, 7⟩]
    (∀ e, ¬ c.Refused args e) ∧ ∀ enter : NativeCode (Process Unit Empty Unit),
      (call enter c args p).ended = .error (.panic (.violation (.configuredCapacity 0))) ∧
        ¬ ∃ v, (call enter c args p).ended = .ok (.ok v) := by
  intro p c args
  have hn : p.Misconfigured 0 := by
    refine ⟨rfl, ?_⟩
    decide +kernel
  have hpass : ∀ v ∈ args, v.Passable := by simp [args, Value.Passable, Value.text?]
  have hfine : ∀ e, ¬ c.Refused args e :=
    TypedCall.not_refused_of_fine rfl hpass (by decide) (by decide)
  obtain ⟨hcount, hdefects, hfunction⟩ := TypedCall.fine_of_not_refused hfine
  refine ⟨hfine, fun enter => ?_⟩
  rw [call_of_misconfigured hcount hdefects hfunction hn]
  exact ⟨rfl, by rintro ⟨v, ⟨⟩⟩⟩

/-- A string with a NUL behind a number, and the same call with a string that can be passed. -/
theorem call_refused_or_entered_string :
    let fresh : Process Unit Empty Unit :=
      { files := .ofFiles "" [], nativeBase := 0x400000, client := () }
    let c : TypedCall := { function := 0x500000, params := [.i32, .cstring], result := some .i32 }
    let args (s : String) : List Value := [⟨.i32, 7⟩, ⟨.cstring, s⟩]
    let enter : NativeCode (Process Unit Empty Unit) := fun _ _ => pure { r1 := 3 }
    call enter c (args "a\x00b") fresh = ⟨.ok (.error .invalidString), fresh, []⟩ ∧
      (∃ v, (call enter c (args "ab") fresh).ended = .ok (.ok v)) ∧
      (call enter c (args "ab") fresh).state.stats.calls = 1 := by
  intro fresh c args enter
  have hnul : ¬ (⟨.cstring, "a\x00b"⟩ : Value).Passable := by simp [Value.Passable, Value.text?]
  have hfirst : ∀ j < 1, ∀ e, ¬ c.Defect (args "a\x00b") j e :=
    TypedCall.not_defect_of_take rfl (by simp [args, Value.Passable, Value.text?]) (by decide)
  have hpass : ∀ v ∈ args "ab", v.Passable := by simp [args, Value.Passable, Value.text?]
  have hfine : ∀ e, ¬ c.Refused (args "ab") e :=
    TypedCall.not_refused_of_fine rfl hpass (by decide) (by decide)
  have hread : ∀ n, ¬ fresh.Misconfigured n := by
    rintro n ⟨-, hn⟩
    cases hn
  obtain ⟨hrefused, -, -⟩ := call_refused_or_entered c (args "a\x00b") fresh
  obtain ⟨-, hother, -⟩ := call_refused_or_entered c (args "ab") fresh
  obtain ⟨s, l, w, q, -, hstats, hentered⟩ := (hother hfine).2 hread
  obtain ⟨-, hreturned, -⟩ := hentered enter
  obtain ⟨hok, hcounted⟩ := hreturned { r1 := 3 } rfl
  refine ⟨(hrefused enter _).2 (.argument rfl (.string rfl rfl hnul) hfirst), hok, ?_⟩
  rw [hcounted]
  show q.stats.calls + 1 = 1
  rw [hstats]
  rfl

end Process

end CallBridge
