import CallBridge.Proofs.IntegerCalls

/-!
Native calls one after the other. They share the error number, the counters and the memory for
copies of strings, and a caller may take one frame for several of them. A call that is refused touches
none of these. Any other leaves the copies as they were, and where the settings ask for it the
function finds the error number cleared. So a call comes to what it comes to alone, whatever was
called before.
-/

namespace CallBridge

/-- The ways to call a function, each with all that the caller gives. -/
inductive GatewayCall where
  | words (function : Word) (words : List Word)
  | frame (f : Frame)
  | typed (c : TypedCall) (args : List Value)
  | undeclared (function : Word) (args : List Value) (result : Option Kind)

/-- What a call comes back with. A frame that the caller gave comes back in any case. -/
inductive GatewayAnswer where
  | words (called : Except CallError Frame)
  | frame (called : Except CallError Unit) (f : Frame)
  | typed (called : Except CallError (Option Value × Word))
  | undeclared (called : Except CallError (Option Value))

namespace GatewayCall

def function : GatewayCall → Word
  | .words function _ | .undeclared function _ _ => function
  | .frame f => f.function
  | .typed c _ => c.function

/-- Why a call is refused. -/
inductive Refused : GatewayCall → CallError → Prop where
  | words {function : Word} {ws : List Word} {e : CallError}
    (h : Process.WordsRefused ws.length function e) : Refused (.words function ws) e
  | frame {f : Frame} (h : f.function = 0) : Refused (.frame f) .nullFunction
  | typed {c : TypedCall} {args : List Value} {e : CallError} (h : c.Refused args e) :
    Refused (.typed c args) e
  | undeclared {function : Word} {args : List Value} {result : Option Kind} {e : CallError}
    (h : TypedCall.Refused { function, params := args.map Value.kind, result } args e) :
    Refused (.undeclared function args result) e

/-- The call is not refused, so its function is entered. -/
def Reaches (call : GatewayCall) : Prop := ∀ e, ¬ call.Refused e

/-- The words of a call, told from what its caller gives: bare words are the integer words, and the
first eight are the float words too; a frame has its own; arguments have one word each, and all other
words are zero. `m'` is memory with the copies of the strings among the arguments. -/
def Carries : GatewayCall → (m m' : Memory) → (w : ArgumentWords) → Prop
  | .words _ ws, m, m', w => m' = m ∧
    w.ints.toList = ws ++ List.replicate (15 - ws.length) 0 ∧ w.floats.toList = w.ints.toList.take 8
  | .frame f, m, m', w => m' = m ∧ w = f.words
  | .typed c args, m, m', w => TypedCall.Passes c.params args m m' w
  | .undeclared _ args _, m, m', w => TypedCall.Passes (args.map Value.kind) args m m' w

/-- The answer of a call that is refused. -/
def refusal (e : CallError) : GatewayCall → GatewayAnswer
  | .words .. => .words (.error e)
  | .frame f => .frame (.error e) f
  | .typed .. => .typed (.error e)
  | .undeclared .. => .undeclared (.error e)

/-- A frame of which only the results are new: those in `r` and the error number. -/
def left (function : Word) (w : ArgumentWords) (r : ResultWords) (err : Word) : Frame where
  function
  words := { w with floats := w.floats.set 0 r.f0 floatRegisterCount_pos }
  r1 := r.r1
  r2 := r.r2
  err

/-- The answer of a call whose function was entered with words `w` and returned. Strings are read in
the memory given. -/
def answer (m : Memory) (w : ArgumentWords) (r : ResultWords) (err : Word) :
    GatewayCall → GatewayAnswer
  | .words function _ => .words (.ok (left function w r err))
  | .frame f => .frame (.ok ()) (left f.function w r err)
  | .typed c _ => .typed (.ok (r.value? m c.result, err))
  | .undeclared _ _ result => .undeclared (.ok (r.value? m result))

/-- The answer of the call is a string, which is read from memory. -/
def ReadsText : GatewayCall → Prop
  | .words .. | .frame _ => False
  | .typed c _ => c.result = some .cstring
  | .undeclared _ _ result => result = some .cstring

/-- Where no string is read, the answer has nothing to do with memory. -/
theorem answer_eq_of_not_readsText {call : GatewayCall} (h : ¬ call.ReadsText) (m m' : Memory)
    (w : ArgumentWords) (r : ResultWords) (err : Word) :
    call.answer m w r err = call.answer m' w r err := by
  have hvalue : ∀ {result : Option Kind}, ¬ result = some .cstring →
      r.value? m result = r.value? m' result := by
    intro result hresult
    rcases result with - | k
    · rfl
    · cases k with
      | cstring => exact absurd rfl hresult
      | _ => rfl
  cases call with
  | words | frame => rfl
  | typed c => rw [answer, answer, hvalue h]
  | undeclared function args result => rw [answer, answer, hvalue h]

variable {β η ε : Type}

def run (enter : NativeCode (Process β η ε)) (p : Process β η ε) :
    GatewayCall → Run (Process β η ε) GatewayAnswer
  | .words function ws => (p.callWords enter function ws).map .words
  | .frame f => (p.callFrame enter f).map fun (called, f) => .frame called f
  | .typed c args => (p.call enter c args).map .typed
  | .undeclared function args result =>
    (p.callUndeclared enter function args result).map .undeclared

theorem reaches_words_iff {function : Word} {ws : List Word} :
    Reaches (.words function ws) ↔ ws.length ≤ 15 ∧ function ≠ 0 := by
  constructor
  · intro h
    have hshort : ws.length ≤ 15 := by
      by_contra hlong
      exact h _ (.words (.inl ⟨Nat.not_le.1 hlong, rfl⟩))
    exact ⟨hshort, fun hzero => h _ (.words (.inr ⟨hshort, hzero, rfl⟩))⟩
  · rintro ⟨hshort, hfunction⟩ e (h | _)
    rcases h with ⟨hlong, -⟩ | ⟨-, hzero, -⟩
    · exact Nat.not_le.2 hlong hshort
    · exact hfunction hzero

theorem reaches_frame_iff {f : Frame} : Reaches (.frame f) ↔ f.function ≠ 0 := by
  constructor
  · exact fun h hzero => h _ (.frame hzero)
  · rintro hfunction e (_ | hzero)
    exact hfunction hzero

theorem reaches_typed_iff {c : TypedCall} {args : List Value} :
    Reaches (.typed c args) ↔ ∀ e, ¬ c.Refused args e := by
  constructor
  · exact fun h e he => h e (.typed he)
  · rintro h e (_ | _ | he)
    exact h e he

theorem reaches_undeclared_iff {function : Word} {args : List Value} {result : Option Kind} :
    Reaches (.undeclared function args result) ↔
      Reaches (.typed { function, params := args.map Value.kind, result } args) := by
  rw [reaches_typed_iff]
  constructor
  · exact fun h e he => h e (.undeclared he)
  · rintro h e (_ | _ | _ | he)
    exact h e he

instance (c : TypedCall) (args : List Value) : Decidable (Reaches (.typed c args)) :=
  decidable_of_iff _ ((TypedCall.not_refused_iff {}).symm.trans reaches_typed_iff.symm)

instance : DecidablePred Reaches
  | .words .. => decidable_of_iff _ reaches_words_iff.symm
  | .frame _ => decidable_of_iff _ reaches_frame_iff.symm
  | .typed c args => inferInstanceAs (Decidable (Reaches (.typed c args)))
  | .undeclared .. => decidable_of_iff _ reaches_undeclared_iff.symm

end GatewayCall

namespace Process

variable {β η ε : Type}

/-- The process as a function finds it that is entered with settings `s` over memory `m`. -/
def facing (p : Process β η ε) (s : Settings) (m : Memory) : Process β η ε :=
  clearErrno s { p with settings := some s, memory := m }

section Facing

variable (p : Process β η ε) (s : Settings) (m : Memory)

@[simp] theorem facing_errno :
    (p.facing s m).errno = if s.captureErrno then 0 else p.errno := by
  unfold facing clearErrno
  split_ifs <;> rfl

@[simp] theorem facing_memory : (p.facing s m).memory = m := by
  unfold facing clearErrno
  split_ifs <;> rfl

@[simp] theorem facing_settings : (p.facing s m).settings = some s := by
  unfold facing clearErrno
  split_ifs <;> rfl

@[simp] theorem facing_stats : (p.facing s m).stats = p.stats := by
  unfold facing clearErrno
  split_ifs <;> rfl

end Facing

/-- The process after a call whose function left `q` behind. -/
def resumed (p q : Process β η ε) : Process β η ε :=
  { q with
    memory := { p.memory with elsewhere := q.memory.elsewhere }
    stats := { q.stats with calls := q.stats.calls + 1 } }

/-- The error number that a call reports if its function left `q` behind. -/
def errorOf (s : Settings) (q : Process β η ε) : Word := if s.captureErrno then q.errorWord else 0

end Process

namespace GatewayCall

variable {β η ε : Type} {p q : Process β η ε} {enter : NativeCode (Process β η ε)}
  {m m' : Memory} {w : ArgumentWords} {f : Frame} {c : TypedCall} {args : List Value}
  {call : GatewayCall}

/-- A call that is refused leaves no trace. -/
theorem run_of_refused {e : CallError} (h : call.Refused e) (enter : NativeCode (Process β η ε))
    (p : Process β η ε) : call.run enter p = ⟨.ok (call.refusal e), p, []⟩ := by
  cases h with
  | @words function ws _ h =>
    have hcall : p.callWords enter function ws = ⟨.ok (.error e), p, []⟩ := by
      rcases h with ⟨hlong, rfl⟩ | ⟨hshort, hzero, rfl⟩
      · exact Process.callWords_of_long hlong function p
      · obtain ⟨w, -, -, hcall⟩ := Process.callWords_of_short hshort function
        rw [hcall, Process.callFrame_of_null hzero]
        rfl
    rw [run, hcall]
    rfl
  | frame h =>
    rw [run, Process.callFrame_of_null h]
    rfl
  | typed h =>
    rw [run, Process.call_of_refused h]
    rfl
  | undeclared h =>
    rw [run, Process.callUndeclared_eq, Process.call_of_refused h]
    rfl

section Reached

variable {s : Settings} {l l' : List Record} {r : ResultWords}
  (hread : p.readSettings = ⟨.ok s, { p with settings := some s }, l⟩)

include hread

/-- A frame whose function returned. -/
theorem callFrame_of_returned (hfunction : f.function ≠ 0)
    (hran : enter f.function f.words (p.facing s p.memory) = ⟨.ok r, q, l'⟩)
    (hcopies : q.memory.copies = p.memory.copies) :
    ∃ before after, p.callFrame enter f =
      ⟨.ok (.ok (), left f.function f.words r (q.errorOf s)), p.resumed q,
        before ++ (l' ++ after)⟩ := by
  have hentered : enter f.function f.words (Process.clearErrno s { p with settings := some s }) =
      ⟨.ok r, q, l'⟩ := hran
  have hmemory : q.memory = { p.memory with elsewhere := q.memory.elsewhere } :=
    congrArg (Memory.mk · _) hcopies
  refine ⟨l ++ [.event (.nativeCall f.function)],
    [.event (.nativeReturn f.function r.r1 (q.errorOf s))], ?_⟩
  rw [Process.callFrame_of_read hfunction hread, hentered, Process.resumed, ← hmemory]
  rfl

/-- A typed call whose function returned and left the copies in place. -/
theorem call_of_returned (hfunction : c.function ≠ 0)
    (hprepare : c.prepare p.memory args = .ok (m, w))
    (hran : enter c.function w (p.facing s m) = ⟨.ok r, q, l'⟩)
    (hcopies : q.memory.copies = m.copies) :
    ∃ before after, p.call enter c args =
      ⟨.ok (.ok (r.value? { p.memory with elsewhere := q.memory.elsewhere } c.result,
          q.errorOf s)), p.resumed q, before ++ (l' ++ after)⟩ := by
  obtain ⟨-, -, rfl⟩ := TypedCall.fine_of_prepare hprepare
  have hreleased : q.memory.release p.memory.copies.length =
      { p.memory with elsewhere := q.memory.elsewhere } := by
    rw [Memory.release, hcopies, List.take_left]
  have hentered : enter c.function w (Process.entered { p with settings := some s } args) =
      ⟨.ok r, q, l'⟩ := hran
  refine ⟨l ++ [.event (.nativeCall c.function)],
    [.event (.nativeReturn c.function r.r1 (q.errorOf s))], ?_⟩
  rw [Process.call_of_words hfunction hprepare hread, hentered, Process.leaveCall_of_returned,
    hreleased]
  rfl

end Reached

/-- A call that is not refused enters its function with its own words, over whatever process, and
comes back with what the function came to. The words depend on the copies that there are, and on
nothing else in the process. -/
theorem run_of_reaches (h : call.Reaches) (copies : List (List UInt8)) :
    ∃ copies' w, ∀ p : Process β η ε, p.memory.copies = copies →
      call.Carries p.memory ⟨copies', p.memory.elsewhere⟩ w ∧
      ∀ (s : Settings) (l : List Record),
        p.readSettings = ⟨.ok s, { p with settings := some s }, l⟩ →
        ∀ (enter : NativeCode (Process β η ε)) (r : ResultWords) (q : Process β η ε)
          (l' : List Record),
          enter call.function w (p.facing s ⟨copies', p.memory.elsewhere⟩) = ⟨.ok r, q, l'⟩ →
          q.memory.copies = copies' →
          ∃ before after, call.run enter p =
            ⟨.ok (call.answer { p.memory with elsewhere := q.memory.elsewhere } w r (q.errorOf s)),
              p.resumed q, before ++ (l' ++ after)⟩ := by
  have htyped : ∀ {c : TypedCall} {args : List Value}, Reaches (.typed c args) →
      c.function ≠ 0 ∧ ∃ copies' w, ∀ m : Memory, m.copies = copies →
        c.prepare m args = .ok (⟨copies', m.elsewhere⟩, w) := by
    intro c args h
    obtain ⟨hcount, hfine, hfunction⟩ := TypedCall.fine_of_not_refused (reaches_typed_iff.1 h)
    obtain ⟨w, hprepare⟩ := TypedCall.prepare_of_fine hcount hfine { copies }
    refine ⟨hfunction, copies ++ args.flatMap Value.copies, w, ?_⟩
    rintro m rfl
    exact TypedCall.prepare_elsewhere hprepare m.elsewhere
  cases call with
  | words function ws =>
    obtain ⟨hshort, hfunction⟩ := reaches_words_iff.1 h
    obtain ⟨w, hints, hfloats, hcall⟩ := Process.callWords_of_short hshort function
    refine ⟨copies, w, ?_⟩
    rintro p rfl
    refine ⟨⟨rfl, hints, hfloats⟩, fun s l hread enter r q l' hran hcopies => ?_⟩
    obtain ⟨before, after, hframe⟩ :=
      callFrame_of_returned (f := { function, words := w }) hread hfunction hran hcopies
    exact ⟨before, after, by rw [run, hcall, hframe]; rfl⟩
  | frame f =>
    refine ⟨copies, f.words, ?_⟩
    rintro p rfl
    refine ⟨⟨rfl, rfl⟩, fun s l hread enter r q l' hran hcopies => ?_⟩
    obtain ⟨before, after, hframe⟩ :=
      callFrame_of_returned hread (reaches_frame_iff.1 h) hran hcopies
    exact ⟨before, after, by rw [run, hframe]; rfl⟩
  | typed c args =>
    obtain ⟨hfunction, copies', w, hprepare⟩ := htyped h
    refine ⟨copies', w, fun p hp => ?_⟩
    have hown := hprepare p.memory hp
    refine ⟨(TypedCall.passes_of_prepare hown).2, fun s l hread enter r q l' hran hcopies => ?_⟩
    obtain ⟨before, after, hcall⟩ := call_of_returned hread hfunction hown hran hcopies
    exact ⟨before, after, by rw [run, hcall]; rfl⟩
  | undeclared function args result =>
    obtain ⟨hfunction, copies', w, hprepare⟩ := htyped (reaches_undeclared_iff.1 h)
    refine ⟨copies', w, fun p hp => ?_⟩
    have hown := hprepare p.memory hp
    refine ⟨(TypedCall.passes_of_prepare hown).2, fun s l hread enter r q l' hran hcopies => ?_⟩
    obtain ⟨before, after, hcall⟩ := call_of_returned hread hfunction hown hran hcopies
    exact ⟨before, after, by rw [run, Process.callUndeclared_eq, hcall]; rfl⟩

end GatewayCall

section Visits

variable {β η ε : Type}

/-- The function entered in `p` returns and makes no native calls of its own. The copies in memory and
the settings are not its business; whatever else it does, such as to write elsewhere in memory or to
register callbacks, is left open. -/
structure Process.Quiet (p : Process β η ε) (ran : Run (Process β η ε) ResultWords) : Prop where
  returns : ∃ r, ran.ended = .ok r
  copies : ran.state.memory.copies = p.memory.copies
  settings : ∀ s, p.settings = some s → ran.state.settings = some s
  calls : ran.state.stats.calls = p.stats.calls

/-- A call with the native code that it goes to. -/
structure Visit (β η ε : Type) where
  call : GatewayCall
  enter : NativeCode (Process β η ε)

/-- A call in its place among others: the process before it and what it came to. -/
structure VisitTurn (β η ε : Type) where
  visit : Visit β η ε
  before : Process β η ε
  ran : Run (Process β η ε) GatewayAnswer

namespace VisitTurn

/-- If the call reaches its function, that is quiet. -/
def Quiet (s : Settings) (t : VisitTurn β η ε) : Prop :=
  t.visit.call.Reaches → ∀ m w, t.visit.call.Carries t.before.memory m w →
    (t.before.facing s m).Quiet
      (t.visit.enter t.visit.call.function w (t.before.facing s m))

/-- What a call has to do with the others. If it is refused, it leaves the process as it is, and the
caller's frame too. Otherwise its function is entered with its own words over its own memory, and it
finds no error number where the settings ask for that, else the one that is there. The error number
that the function leaves stays with the process; it is reported with its sign, or zero is where the
settings do not ask for it. The caller's frame comes back with other results only. -/
structure Isolated (s : Settings) (t : VisitTurn β η ε) : Prop where
  refused : ∀ e, t.visit.call.Refused e → t.ran = ⟨.ok (t.visit.call.refusal e), t.before, []⟩
  reached : t.visit.call.Reaches → ∃ m w entered r q l before after,
    t.visit.call.Carries t.before.memory m w ∧
    entered.errno = (if s.captureErrno then 0 else t.before.errno) ∧ entered.memory = m ∧
    t.visit.enter t.visit.call.function w entered = ⟨.ok r, q, l⟩ ∧
    t.ran.ended = .ok (t.visit.call.answer { t.before.memory with elsewhere := q.memory.elsewhere }
      w r (if s.captureErrno then q.errno.signExtend 64 else 0)) ∧
    t.ran.state.errno = q.errno ∧
    t.ran.state.memory = { t.before.memory with elsewhere := q.memory.elsewhere } ∧
    t.ran.records = before ++ (l ++ after)
  frame : ∀ f called f', t.visit.call = .frame f → t.ran.ended = .ok (.frame called f') →
    (∀ e, called = .error e → f' = f) ∧
    f'.function = f.function ∧ f'.words.ints = f.words.ints ∧
      ∀ i (_ : i < floatRegisterCount), i ≠ 0 → f'.words.floats[i] = f.words.floats[i]
  counted : t.ran.state.stats.calls =
    t.before.stats.calls + if t.visit.call.Reaches then 1 else 0

end VisitTurn

namespace Visit

def run (v : Visit β η ε) (p : Process β η ε) : Run (Process β η ε) GatewayAnswer :=
  v.call.run v.enter p

def turn (v : Visit β η ε) (p : Process β η ε) : VisitTurn β η ε := ⟨v, p, v.run p⟩

/-- One call after the other, each from the state that the one before left. -/
def turns : List (Visit β η ε) → Process β η ε → List (VisitTurn β η ε)
  | [], _ => []
  | v :: vs, p => v.turn p :: turns vs (v.run p).state

/-- The process behind all of them. -/
def after (vs : List (Visit β η ε)) (p : Process β η ε) : Process β η ε :=
  vs.foldl (fun p v => (v.run p).state) p

/-- What the function comes to is told by its words, the copies in memory and the error number, where
`e` or `e'` is found outside of the copies. If the call reads a string, what the function leaves in
memory is told too. -/
def Steady (v : Visit β η ε) (e e' : Word → List UInt8) : Prop :=
  ∀ a w (p q : Process β η ε), p.memory.copies = q.memory.copies → p.memory.elsewhere = e →
    q.memory.elsewhere = e' → p.errno = q.errno →
    (v.enter a w p).ended = (v.enter a w q).ended ∧
      (v.enter a w p).state.errno = (v.enter a w q).state.errno ∧
      (v.call.ReadsText →
        (v.enter a w p).state.memory.elsewhere = (v.enter a w q).state.memory.elsewhere)

variable {p p' : Process β η ε} {s s' : Settings} {v : Visit β η ε}

theorem run_of_refused {e : CallError} (h : v.call.Refused e) (p : Process β η ε) :
    v.run p = ⟨.ok (v.call.refusal e), p, []⟩ := GatewayCall.run_of_refused h v.enter p

/-- A call is refused, or it reaches its function. -/
theorem refused_or_reaches (v : Visit β η ε) : (∃ e, v.call.Refused e) ∨ v.call.Reaches := by
  by_cases h : ∃ e, v.call.Refused e
  · exact .inl h
  · exact .inr (not_exists.1 h)

/-- A call that reaches its function comes back with what that came to. The words with which the
function is entered depend on the copies only. -/
theorem run_of_reaches (h : v.call.Reaches) (copies : List (List UInt8)) :
    ∃ copies' w, ∀ p : Process β η ε, p.memory.copies = copies →
      v.call.Carries p.memory ⟨copies', p.memory.elsewhere⟩ w ∧
      ∀ s : Settings, p.readSettings.ended = .ok s → (v.turn p).Quiet s →
        ∃ r q l before after,
          v.enter v.call.function w (p.facing s ⟨copies', p.memory.elsewhere⟩) = ⟨.ok r, q, l⟩ ∧
          q.settings = some s ∧ q.stats.calls = p.stats.calls ∧
          v.run p = ⟨.ok (v.call.answer { p.memory with elsewhere := q.memory.elsewhere } w r
            (q.errorOf s)), p.resumed q, before ++ (l ++ after)⟩ := by
  obtain ⟨copies', w, hall⟩ :=
    GatewayCall.run_of_reaches (β := β) (η := η) (ε := ε) h copies
  refine ⟨copies', w, fun p hp => ?_⟩
  obtain ⟨hcarries, hruns⟩ := hall p hp
  refine ⟨hcarries, fun s hs hquiet => ?_⟩
  obtain ⟨l₀, hread⟩ := Process.readSettings_of_ended hs
  obtain ⟨⟨r, hended⟩, hcopies, hsettings, hcalls⟩ := hquiet h _ w hcarries
  dsimp only [turn] at hended hcopies hsettings hcalls
  rcases hran : v.enter v.call.function w (p.facing s ⟨copies', p.memory.elsewhere⟩) with
    ⟨ended, q, l⟩
  simp only [hran, Process.facing_memory, Process.facing_settings,
    Process.facing_stats] at hended hcopies hsettings hcalls
  subst hended
  obtain ⟨before, after, hrun⟩ := hruns s l₀ hread v.enter r q l hran hcopies
  exact ⟨r, q, l, before, after, rfl, hsettings s rfl, hcalls, hrun⟩

/-- No call does more to the others than it may. -/
theorem turn_isolated (hs : p.readSettings.ended = .ok s) (hquiet : (v.turn p).Quiet s) :
    (v.turn p).Isolated s where
  refused _ h := run_of_refused h p
  reached h := by
    obtain ⟨copies, w, hall⟩ := run_of_reaches (v := v) h p.memory.copies
    obtain ⟨hcarries, hruns⟩ := hall p rfl
    obtain ⟨r, q, l, before, after, hran, -, -, hrun⟩ := hruns s hs hquiet
    refine ⟨_, w, _, r, q, l, before, after, hcarries, by simp [turn], by simp, hran, ?_⟩
    rw [turn, hrun]
    exact ⟨rfl, rfl, rfl, rfl⟩
  frame f called f' hcall hended := by
    rw [turn] at hcall hended
    rcases v.refused_or_reaches with ⟨e, h⟩ | h
    · rw [run_of_refused h, hcall] at hended
      cases hended
      exact ⟨fun _ _ => rfl, rfl, rfl, fun _ _ _ => rfl⟩
    · obtain ⟨copies, w, hall⟩ := run_of_reaches (v := v) h p.memory.copies
      obtain ⟨hcarries, hruns⟩ := hall p rfl
      obtain ⟨r, q, l, before, after, -, -, -, hrun⟩ := hruns s hs hquiet
      rw [hrun, hcall] at hended
      rw [hcall] at hcarries
      obtain ⟨-, rfl⟩ := hcarries
      cases hended
      exact ⟨nofun, rfl, rfl, fun i hi hne =>
        Vector.getElem_set_ne floatRegisterCount_pos hi hne.symm⟩
  counted := by
    unfold turn
    rcases v.refused_or_reaches with ⟨e, h⟩ | h
    · rw [run_of_refused h, if_neg fun hreaches => hreaches e h]
      exact (BitVec.add_zero _).symm
    · obtain ⟨copies, w, hall⟩ := run_of_reaches (v := v) h p.memory.copies
      obtain ⟨r, q, l, before, after, -, -, hcalls, hrun⟩ := (hall p rfl).2 s hs hquiet
      rw [hrun, if_pos h]
      exact congrArg (· + 1) hcalls

/-- A call leaves the copies in memory and the settings to the next one. -/
theorem run_leaves (hs : p.readSettings.ended = .ok s) (hquiet : (v.turn p).Quiet s) :
    (v.run p).state.memory.copies = p.memory.copies ∧
      (v.run p).state.readSettings.ended = .ok s := by
  rcases v.refused_or_reaches with ⟨e, h⟩ | h
  · rw [run_of_refused h]
    exact ⟨rfl, hs⟩
  · obtain ⟨copies, w, hall⟩ := run_of_reaches (v := v) h p.memory.copies
    obtain ⟨r, q, l, before, after, -, hsettings, -, hrun⟩ := (hall p rfl).2 s hs hquiet
    rw [hrun]
    refine ⟨rfl, ?_⟩
    rw [Process.readSettings_of_some (p := p.resumed q) hsettings]

/-- Two calls alike over the same copies are answered alike, if error numbers are reported. -/
theorem run_ended_eq (hs : p.readSettings.ended = .ok s) (hs' : p'.readSettings.ended = .ok s')
    (hquiet : (v.turn p).Quiet s) (hquiet' : (v.turn p').Quiet s')
    (hcapture : s.captureErrno = true) (hcapture' : s'.captureErrno = true)
    (hcopies : p'.memory.copies = p.memory.copies)
    (hsteady : v.Steady p'.memory.elsewhere p.memory.elsewhere) :
    (v.run p').ended = (v.run p).ended := by
  rcases v.refused_or_reaches with ⟨e, h⟩ | h
  · rw [run_of_refused h, run_of_refused h]
  · obtain ⟨copies, w, hall⟩ := run_of_reaches (v := v) h p.memory.copies
    obtain ⟨r, q, l, _, _, hran, -, -, hrun⟩ := (hall p rfl).2 s hs hquiet
    obtain ⟨r', q', l', _, _, hran', -, -, hrun'⟩ := (hall p' hcopies).2 s' hs' hquiet'
    -- Both functions find no error number, and the same words and copies.
    obtain ⟨hended, herrno, hleft⟩ := hsteady v.call.function w
      (p'.facing s' ⟨copies, p'.memory.elsewhere⟩) (p.facing s ⟨copies, p.memory.elsewhere⟩)
      (by simp) (by simp) (by simp) (by simp [hcapture, hcapture'])
    rw [hran, hran'] at hended herrno hleft
    cases hended
    dsimp only at herrno hleft
    have herror : q'.errorOf s' = q.errorOf s := by
      rw [Process.errorOf, Process.errorOf, hcapture, hcapture', Process.errorWord, herrno]
      rfl
    have hanswer : v.call.answer ⟨p'.memory.copies, q'.memory.elsewhere⟩ w r (q'.errorOf s') =
        v.call.answer ⟨p.memory.copies, q.memory.elsewhere⟩ w r (q.errorOf s) := by
      by_cases htext : v.call.ReadsText
      · rw [hleft htext, hcopies, herror]
      · rw [herror]
        exact GatewayCall.answer_eq_of_not_readsText htext _ _ _ _ _
    rw [hrun, hrun']
    exact congrArg Except.ok hanswer

theorem turns_visits (vs : List (Visit β η ε)) (p : Process β η ε) :
    (turns vs p).map VisitTurn.visit = vs := by
  induction vs generalizing p with
  | nil => rfl
  | cons v vs ih => exact congrArg (v :: ·) (ih _)

/-- Functions that are quiet wherever they are entered are so in any sequence of calls. -/
theorem turns_quiet {vs : List (Visit β η ε)}
    (h : ∀ v ∈ vs, ∀ a w (p : Process β η ε), p.Quiet (v.enter a w p)) (s : Settings)
    (p : Process β η ε) : ∀ t ∈ turns vs p, t.Quiet s := by
  intro t ht _ m w _
  have hmem : t.visit ∈ (turns vs p).map VisitTurn.visit := List.mem_map_of_mem ht
  rw [turns_visits] at hmem
  exact h _ hmem _ _ _

/-- Each call of a sequence is run from a process with the same settings and the same copies in
memory. -/
theorem turns_spec {vs : List (Visit β η ε)} (hs : p.readSettings.ended = .ok s)
    (hquiet : ∀ t ∈ turns vs p, t.Quiet s) :
    (∀ t ∈ turns vs p, t = t.visit.turn t.before ∧ t.before.readSettings.ended = .ok s ∧
      t.before.memory.copies = p.memory.copies) ∧
    (after vs p).memory.copies = p.memory.copies := by
  induction vs generalizing p with
  | nil => exact ⟨by simp [turns], rfl⟩
  | cons v vs ih =>
    rw [turns, List.forall_mem_cons] at hquiet ⊢
    obtain ⟨hfirst, hrest⟩ := hquiet
    obtain ⟨hcopies, hsettings⟩ := run_leaves hs hfirst
    obtain ⟨hturns, hafter⟩ := ih hsettings hrest
    rw [hcopies] at hturns hafter
    exact ⟨⟨⟨rfl, hs, rfl⟩, hturns⟩, hafter⟩

/-- Each call of a sequence that reached its function is counted. -/
theorem after_calls {vs : List (Visit β η ε)} (hs : p.readSettings.ended = .ok s)
    (hquiet : ∀ t ∈ turns vs p, t.Quiet s) :
    (after vs p).stats.calls =
      p.stats.calls + BitVec.ofNat 64 (vs.countP fun v => v.call.Reaches) := by
  induction vs generalizing p with
  | nil => exact (BitVec.add_zero _).symm
  | cons v vs ih =>
    rw [turns, List.forall_mem_cons] at hquiet
    obtain ⟨hfirst, hrest⟩ := hquiet
    have hcounted : (v.run p).state.stats.calls =
        p.stats.calls + if v.call.Reaches then 1 else 0 := (turn_isolated hs hfirst).counted
    have hcalls := ih (run_leaves hs hfirst).2 hrest
    rw [List.countP_cons, Nat.add_comm, BitVec.ofNat_add, ← BitVec.add_assoc]
    simp only [decide_eq_true_eq]
    refine hcalls.trans ?_
    rw [hcounted]
    split_ifs <;> rfl

/-- Calls that do not nest are isolated from one another, whatever their functions do. None does more
to the others than it may; all together leave the copies in memory as they were, and are counted as
often as they reached a function. Where error numbers are reported, a call is answered the same in any
two sequences, whatever comes before it and whatever error numbers were there at first, if its
function goes by what the call lets it see: what it finds outside of the copies is the same in both,
or makes no difference to it. -/
theorem calls_isolated {vs : List (Visit β η ε)} (hs : p.readSettings.ended = .ok s)
    (hquiet : ∀ t ∈ turns vs p, t.Quiet s) :
    (turns vs p).map VisitTurn.visit = vs ∧
    (∀ t ∈ turns vs p, t.Isolated s ∧ t.before.memory.copies = p.memory.copies) ∧
    (after vs p).memory.copies = p.memory.copies ∧
    (after vs p).stats.calls =
      p.stats.calls + BitVec.ofNat 64 (vs.countP fun v => v.call.Reaches) ∧
    ∀ (p' : Process β η ε) (s' : Settings) (vs' : List (Visit β η ε)),
      p'.readSettings.ended = .ok s' → (∀ t' ∈ turns vs' p', t'.Quiet s') →
      s.captureErrno = true → s'.captureErrno = true → p'.memory.copies = p.memory.copies →
      ∀ t ∈ turns vs p, ∀ t' ∈ turns vs' p', t'.visit = t.visit →
        t.visit.Steady t'.before.memory.elsewhere t.before.memory.elsewhere →
        t'.ran.ended = t.ran.ended := by
  obtain ⟨hturns, hafter⟩ := turns_spec hs hquiet
  refine ⟨turns_visits vs p, fun t ht => ?_, hafter, after_calls hs hquiet, ?_⟩
  · obtain ⟨hturn, hsettings, hcopies⟩ := hturns t ht
    rw [hturn]
    exact ⟨turn_isolated hsettings (hturn ▸ hquiet t ht), hcopies⟩
  · intro p' s' vs' hs' hquiet' hcapture hcapture' hsame t ht t' ht' hvisit hsteady
    obtain ⟨hturn, hsettings, hcopies⟩ := hturns t ht
    obtain ⟨hturn', hsettings', hcopies'⟩ := (turns_spec hs' hquiet').1 t' ht'
    rw [hvisit] at hturn'
    have hboth : t'.before.memory.copies = t.before.memory.copies :=
      hcopies'.trans (hsame.trans hcopies.symm)
    have hended := run_ended_eq hsettings hsettings' (hturn ▸ hquiet t ht)
      (hturn' ▸ hquiet' t' ht') hcapture hcapture' hboth hsteady
    rw [hturn, hturn']
    exact hended

/-- A function that adds up what it is given and the error number that it finds, after one that fails
and writes to memory and a frame that names no function, in a process with an error number left over.
Each is given just its own words, and the last is answered as in a process without an error number. -/
theorem calls_isolated_stale :
    let fresh (errno : BitVec 32) : Process Unit Empty Unit :=
      { files := .ofFiles "" [], nativeBase := 0x400000, errno, client := () }
    let adds : NativeCode (Process Unit Empty Unit) := fun _ w p =>
      ⟨.ok { r1 := w.ints[0] + w.ints[1] + w.floats[0] + p.errno.signExtend 64 }, p, []⟩
    let fails : NativeCode (Process Unit Empty Unit) := fun _ w p =>
      ⟨.ok { r1 := w.ints[8], f0 := w.floats[7] },
        { p with errno := -1, memory := { p.memory with elsewhere := fun _ => [1] } }, []⟩
    let first : Visit Unit Empty Unit := ⟨.words 0x500010 [1, 2, 3, 4, 5, 6, 7, 8, 9], fails⟩
    let last : Visit Unit Empty Unit :=
      ⟨.typed { function := 0x500000, params := [.i32, .f64, .i32], result := some .i32 }
        [⟨.i32, 7⟩, ⟨.f64, 100⟩, ⟨.i32, -2⟩], adds⟩
    let earlier : List (Visit Unit Empty Unit) := [first, ⟨.frame { function := 0, r1 := 9 }, adds⟩]
    (fresh 5).readSettings.ended = .ok {} ∧
      (∀ t ∈ turns (earlier ++ [last]) (fresh 5), t.Quiet {}) ∧ (∀ e e', last.Steady e e') ∧
      (after (earlier ++ [last]) (fresh 5)).stats.calls = 2 ∧
      (∃ f, (first.run (fresh 5)).ended = .ok (.words (.ok f)) ∧ f.r1 = 9 ∧ f.words.floats[0] = 8 ∧
        f.err = BitVec.allOnes 64) ∧
      (last.run (after earlier (fresh 5))).ended = (last.run (fresh 0)).ended ∧
      (last.run (fresh 0)).ended = .ok (.typed (.ok (some ⟨.i32, 105⟩, 0))) := by
  intro fresh adds fails first last earlier
  have hs : ∀ errno, (fresh errno).readSettings.ended = .ok {} := fun _ => rfl
  have hadds : ∀ a w (p : Process Unit Empty Unit), p.Quiet (adds a w p) :=
    fun _ _ _ => ⟨⟨_, rfl⟩, rfl, fun _ h => h, rfl⟩
  have hfails : ∀ a w (p : Process Unit Empty Unit), p.Quiet (fails a w p) :=
    fun _ _ _ => ⟨⟨_, rfl⟩, rfl, fun _ h => h, rfl⟩
  have hall : ∀ v ∈ earlier ++ [last], ∀ a w (p : Process Unit Empty Unit),
      p.Quiet (v.enter a w p) := by simp [earlier, first, last, hadds, hfails]
  have hlast : ∀ v ∈ [last], ∀ a w (p : Process Unit Empty Unit), p.Quiet (v.enter a w p) := by
    simp [last, hadds]
  have hsteady : ∀ e e', last.Steady e e' := by
    intro e e' a w p q _ _ _ herrno
    simp [last, adds, herrno, GatewayCall.ReadsText]
  have hquiet := turns_quiet hall {} (fresh 5)
  obtain ⟨-, -, -, hcalls, halike⟩ := calls_isolated (hs 5) hquiet
  refine ⟨hs 5, hquiet, hsteady, hcalls, ⟨_, rfl, rfl, rfl, rfl⟩, ?_, rfl⟩
  exact (halike (fresh 0) {} [last] (hs 0) (turns_quiet hlast _ _) rfl rfl rfl
    (last.turn (after earlier (fresh 5))) (by simp [earlier, turns, after])
    (last.turn (fresh 0)) (by simp [turns]) rfl (hsteady _ _)).symm

end Visit

end Visits

end CallBridge
