import CallBridge.Proofs.BlockEncoding
import CallBridge.Proofs.CallRefusals

/-!
Calls with arguments of the integer class. Such arguments fill the integer words of a frame in their
order, six in registers and the others behind them, so a typed call hands over the same integer words
as a call with the bare words. The two frames differ in their float words only, and native code that
does not look at those cannot tell the calls apart.
-/

namespace CallBridge

section Integers

variable {k : Kind} {v : Value} {vs : List Value}

theorem Kind.registerClass_of_notMem (h : k ∉ [Kind.f32, .f64, .cstring]) :
    k.registerClass = .integer := by
  cases k with
  | f32 | f64 => simp at h
  | _ => rfl

theorem Kind.isFloat_of_notMem (h : k ∉ [Kind.f32, .f64]) : k.isFloat = false := by
  cases k with
  | f32 | f64 => simp at h
  | _ => rfl

theorem Value.pass?_of_notMem (h : v.kind ∉ [Kind.f32, .f64, .cstring]) :
    ∃ w, ∀ m, v.pass? m = some (w, m) := by
  have hstring : v.kind ≠ .cstring := fun he => h (by simp [he])
  obtain ⟨w, -, hpass⟩ := exists_word_of_ne hstring
  exact ⟨w, fun m => (hpass m).1⟩

theorem Value.passable_of_notMem (h : v.kind ∉ [Kind.f32, .f64, .cstring]) : v.Passable := by
  intro s hs
  obtain ⟨k, x⟩ := v
  cases k with
  | cstring => simp at h
  | _ => cases hs

/-- Values of the integer class are passed in words of their own and leave nothing in memory. -/
theorem Value.passAll_of_notMem (hvs : ∀ v ∈ vs, v.kind ∉ [Kind.f32, .f64, .cstring]) :
    ∃ ws, ws.length = vs.length ∧ ∀ m, passAll m vs = some (ws, m) := by
  induction vs with
  | nil => exact ⟨[], rfl, fun _ => rfl⟩
  | cons v vs ih =>
    obtain ⟨hv, hvs⟩ := List.forall_mem_cons.1 hvs
    obtain ⟨w, hpass⟩ := pass?_of_notMem hv
    obtain ⟨ws, hlength, hrest⟩ := ih hvs
    refine ⟨w :: ws, congrArg (· + 1) hlength, fun m => ?_⟩
    simp only [passAll, hpass m, hrest m, bind, Option.bind]

end Integers

/-- The word of an integer stands among the integer words of the frame. -/
theorem ArgumentWords.put_of_integer (w : ArgumentWords) (x : Word) {earlier : List Kind} {k : Kind}
    (hk : k.registerClass = .integer) :
    w.put x ((Classifier.behind earlier).place k.registerClass).1 =
      w.setInt (wordNumber earlier k) x := by
  rw [← Classifier.wordNumber_place_behind, Classifier.place_behind, hk]
  by_cases hlt : classCount .integer earlier < RegisterClass.integer.registers
  · rw [if_pos hlt]
    rfl
  · rw [if_neg hlt]
    rfl

namespace TypedCall

/-- Integers are put into the frame one behind the other; all other words stay as they are. -/
theorem place_integers {vs : List Value} (hvs : ∀ v ∈ vs, v.kind ∉ [Kind.f32, .f64, .cstring])
    {m : Memory} {ws : List Word} (hws : Value.passAll m vs = some (ws, m)) {earlier : List Kind}
    (hearlier : ∀ k ∈ earlier, k.registerClass = .integer) (hroom : earlier.length + vs.length ≤ 15)
    (count index : Nat) (w : ArgumentWords) :
    ∃ w', place count index (.behind earlier) m w (vs.zip (vs.map Value.kind)) = .ok (m, w') ∧
      w'.ints.toList = w.ints.toList.take earlier.length ++ ws ++
        w.ints.toList.drop (earlier.length + ws.length) ∧
      w'.floats = w.floats := by
  -- Each argument joins the earlier ones, and the words put so far are one more.
  induction vs generalizing earlier index w ws with
  | nil =>
    cases hws
    exact ⟨w, rfl, by simp, rfl⟩
  | cons v vs ih =>
    obtain ⟨hv, hvs⟩ := List.forall_mem_cons.1 hvs
    obtain ⟨x, hx⟩ := Value.pass?_of_notMem hv
    obtain ⟨ws', -, hrest⟩ := Value.passAll_of_notMem hvs
    simp only [Value.passAll, hx m, hrest m, bind, Option.bind, Option.some.injEq,
      Prod.mk.injEq, and_true] at hws
    subst hws
    rw [List.length_cons] at hroom
    have hclass := Kind.registerClass_of_notMem hv
    have hnext : ∀ k ∈ earlier ++ [v.kind], k.registerClass = .integer := by
      simpa [or_imp, forall_and, hclass] using hearlier
    have hlength : (earlier ++ [v.kind]).length = earlier.length + 1 := by simp
    have hframe : ((Classifier.behind earlier).place v.kind.registerClass).1.InFrame := by
      refine Classifier.inFrame_place_behind ?_
      rw [spilledWords_of_integer hnext, hlength]
      omega
    obtain ⟨w', hplace, hints, hfloats⟩ :=
      ih hvs (hrest m) hnext (by omega) (index + 1) (w.setInt earlier.length x)
    refine ⟨w', ?_, ?_, hfloats⟩
    · rw [List.map_cons, List.zip_cons_cons, place_cons (hx m) hframe,
        ArgumentWords.put_of_integer w x hclass, wordNumber_of_integer hearlier hclass,
        ← Classifier.behind_append, hplace]
    · have hset : (w.setInt earlier.length x).ints.toList = w.ints.toList.set earlier.length x :=
        Vector.toList_setIfInBounds
      have hbound : earlier.length < w.ints.toList.length := by
        rw [Vector.length_toList]
        show earlier.length < 15
        omega
      rw [hints, hlength, hset, List.take_succ_eq_append_getElem (by simpa using hbound),
        List.getElem_set_self, List.take_set_of_le le_rfl, List.drop_set_of_lt (by omega),
        List.length_cons, Nat.add_right_comm, Nat.add_assoc earlier.length]
      simp

end TypedCall

theorem Memory.release_of_le {m : Memory} {mark : Nat} (h : m.copies.length ≤ mark) :
    m.release mark = m := by
  rw [release, List.take_of_length_le h]

theorem Memory.release_self (m : Memory) : m.release m.copies.length = m := release_of_le le_rfl

namespace Process

variable {β η ε : Type} {p : Process β η ε} {enter : NativeCode (Process β η ε)} {c : TypedCall}
  {vs : List Value} {ws : List Word}

/-- A typed call shows of the frame that it got back the integer result and the error number, unless
it declares a float. -/
theorem leaveCall_eq (hresult : ∀ k ∈ c.result, k ∉ [Kind.f32, .f64]) (mark : Nat)
    (r : Run (Process β η ε) (Except CallError Frame)) :
    leaveCall c mark r =
      ⟨r.ended.map (·.map fun f =>
          (c.result.map fun k => .ofWord (r.state.memory.release mark) k f.r1, f.err)),
        { r.state with memory := r.state.memory.release mark }, r.records⟩ := by
  have hread : ∀ (m : Memory) (f : Frame),
      c.readResult m f = c.result.map fun k => .ofWord m k f.r1 := by
    intro m f
    refine Option.map_congr fun k hk => ?_
    rw [if_neg (by rw [Kind.isFloat_of_notMem (hresult k hk)]; decide)]
  simp only [leaveCall, hread]

/-- What a typed call makes of the run of its frame does not depend on the argument words. -/
theorem leaveCall_congr (mark : Nat) (function : Word) (w w' : ArgumentWords) (s : Settings)
    (ran : Run (Process β η ε) ResultWords) (l : List Record) :
    leaveCall c mark (((leaveFrame { function, words := w } s ran).after l).map accepted) =
      leaveCall c mark (((leaveFrame { function, words := w' } s ran).after l).map accepted) := by
  rcases ran with ⟨e | r, q, l'⟩
  · rfl
  · rw [leaveCall_of_returned, leaveCall_of_returned]

section Frames

variable (hvs : ∀ v ∈ vs, v.kind ∉ [Kind.f32, .f64, .cstring])

include hvs

/-- The sixteenth integer has no word any more. -/
theorem call_of_long (h : 15 < vs.length) (function : Word) (result : Option Kind)
    (p : Process β η ε) :
    call enter { function, params := vs.map Value.kind, result } vs p =
      ⟨.ok (.error (.tooManyArguments vs.length)), p, []⟩ := by
  have hspilled : ∀ n ≤ vs.length, spilledWords ((vs.map Value.kind).take n) = n - 6 := by
    intro n hn
    have hclass : ∀ k ∈ (vs.map Value.kind).take n, k.registerClass = .integer := by
      intro k hk
      obtain ⟨v, hv, rfl⟩ := List.mem_map.1 (List.mem_of_mem_take hk)
      exact Kind.registerClass_of_notMem (hvs v hv)
    rw [spilledWords_of_integer hclass, List.length_take, List.length_map, Nat.min_eq_left hn]
  have hpass : ∀ v ∈ vs, v.Passable := fun v hv => Value.passable_of_notMem (hvs v hv)
  refine call_of_refused (.argument (i := 15) (List.length_map _).symm ?_ ?_) enter p
  · refine .room (List.getElem?_eq_getElem h) ?_ (hpass _ (List.getElem_mem h)) ?_
    · rw [List.getElem?_map, List.getElem?_eq_getElem h]
      rfl
    · show 9 < spilledWords ((vs.map Value.kind).take 16)
      rw [hspilled 16 h]
      decide
  · refine TypedCall.not_defect_of_take List.map_take ?_ ?_
    · exact fun v hv => hpass v (List.mem_of_mem_take hv)
    · show spilledWords ((vs.map Value.kind).take 15) ≤ 9
      rw [hspilled 15 h.le]

/-- Fifteen integers have a word each, and all other words are zero. -/
theorem call_of_short (h : vs.length ≤ 15) (hws : Value.passAll p.memory vs = some (ws, p.memory))
    (function : Word) (result : Option Kind) :
    ∃ w : ArgumentWords, w.ints.toList = ws ++ List.replicate (15 - ws.length) 0 ∧
      w.floats.toList = List.replicate 8 0 ∧ ∀ enter : NativeCode (Process β η ε),
        let c : TypedCall := { function, params := vs.map Value.kind, result }
        call enter c vs p =
          leaveCall c p.memory.copies.length
            ((callFrame enter { function, words := w } p).map accepted) := by
  obtain ⟨w, hplace, hints, hfloats⟩ :=
    TypedCall.place_integers hvs hws (List.forall_mem_nil _) (by simpa using h) vs.length 0 {}
  refine ⟨w, ?_, ?_, fun enter => ?_⟩
  · rw [hints]
    show [] ++ ws ++ (List.replicate 15 0).drop (0 + ws.length) = _
    rw [List.drop_replicate, List.nil_append, Nat.zero_add]
  · rw [hfloats]
    rfl
  · refine call_of_prepared ?_
    rw [TypedCall.prepare, if_pos (List.length_map _).symm]
    exact hplace

end Frames

theorem callWords_of_long (h : 15 < ws.length) (function : Word) (p : Process β η ε) :
    callWords enter function ws p = ⟨.ok (.error (.tooManyArguments ws.length)), p, []⟩ := by
  have hframe : Frame.ofWords function ws = .error (.tooManyArguments ws.length) :=
    if_neg (Nat.not_le.2 h)
  unfold callWords
  rw [hframe]
  rfl

/-- Bare words are the integer words of a frame, and the first eight are its float words too. -/
theorem callWords_of_short (h : ws.length ≤ 15) (function : Word) :
    ∃ w : ArgumentWords, w.ints.toList = ws ++ List.replicate (15 - ws.length) 0 ∧
      w.floats.toList = w.ints.toList.take 8 ∧ ∀ (enter : NativeCode (Process β η ε)) p,
        callWords enter function ws p = (callFrame enter { function, words := w } p).map accepted := by
  let w : ArgumentWords :=
    { ints := Vector.ofFn fun i => ws.getD i 0, floats := Vector.ofFn fun i => ws.getD i 0 }
  have hframe : Frame.ofWords function ws = .ok { function, words := w } := if_pos h
  have h15 : maxCallArgs = 15 := rfl
  have h8 : floatRegisterCount = 8 := rfl
  refine ⟨w, ?_, ?_, fun enter => callWords_of_frame hframe⟩
  · refine List.ext_getElem (by simp; omega) fun i hi _ => ?_
    by_cases hlt : i < ws.length
    · simp [w, hlt]
    · simp [w, List.getElem_append_right (Nat.not_lt.1 hlt), hlt]
  · refine List.ext_getElem (by simp; omega) fun i hi _ => ?_
    simp [w]

/-- The function does not look at the float words of its frame. -/
def IntegerCode (enter : NativeCode (Process β η ε)) (function : Word) : Prop :=
  ∀ w w' : ArgumentWords, w.ints = w'.ints → enter function w = enter function w'

/-- Without a look at the float words, what is made of one frame can be had from the other. -/
theorem leaveCall_callFrame {function : Word} (hcode : IntegerCode enter function)
    {w w' : ArgumentWords} (hints : w.ints = w'.ints) (mark : Nat) (p : Process β η ε) :
    leaveCall c mark ((callFrame enter { function, words := w } p).map accepted) =
      leaveCall c mark ((callFrame enter { function, words := w' } p).map accepted) := by
  by_cases hfunction : function = 0
  · rw [callFrame_of_null hfunction, callFrame_of_null hfunction]
    rfl
  · rcases hread : readSettings p with ⟨e | s, q, l⟩
    · rw [callFrame_of_unread hfunction hread, callFrame_of_unread hfunction hread]
    · have hrun : ∀ w : ArgumentWords, callFrame enter { function, words := w } p =
          (leaveFrame { function, words := w } s (enter function w (clearErrno s q))).after
            (l ++ [.event (.nativeCall function)]) := fun w => callFrame_of_read hfunction hread
      rw [hrun w, hrun w', leaveCall_congr mark function w w', hcode w w' hints]

/-- Why a call with `n` words is refused. -/
def WordsRefused (n : Nat) (function : Word) (e : CallError) : Prop :=
  (15 < n ∧ e = .tooManyArguments n) ∨ (n ≤ 15 ∧ function = 0 ∧ e = .nullFunction)

theorem callWords_error_iff {function : Word} {e : CallError} :
    (callWords enter function ws p).ended = .ok (.error e) ↔ WordsRefused ws.length function e := by
  unfold WordsRefused
  rcases Nat.lt_or_ge 15 ws.length with hlong | hshort
  · rw [callWords_of_long hlong]
    simp only [hlong, Nat.not_le.2 hlong, Except.ok.injEq, Except.error.injEq, true_and, false_and,
      or_false, eq_comm]
  · obtain ⟨w, -, -, hcall⟩ := callWords_of_short hshort function
    rw [hcall, accepted_error_iff]
    simp only [callFrame_error_iff, exists_and_left, exists_eq, hshort, Nat.not_lt.2 hshort,
      true_and, false_and, false_or, and_true]

section Agreement

variable (hvs : ∀ v ∈ vs, v.kind ∉ [Kind.f32, .f64, .cstring])
  (hws : Value.passAll p.memory vs = some (ws, p.memory)) (function : Word) (result : Option Kind)

include hvs hws

theorem call_error_iff {e : CallError} :
    (call enter { function, params := vs.map Value.kind, result } vs p).ended = .ok (.error e) ↔
      WordsRefused vs.length function e := by
  unfold WordsRefused
  rcases Nat.lt_or_ge 15 vs.length with hlong | hshort
  · rw [call_of_long hvs hlong]
    simp only [hlong, Nat.not_le.2 hlong, Except.ok.injEq, Except.error.injEq, true_and, false_and,
      or_false, eq_comm]
  · obtain ⟨w, -, -, hcall⟩ := call_of_short hvs hshort hws function result
    rw [hcall, leaveCall_error_iff, accepted_error_iff]
    simp only [callFrame_error_iff, exists_and_left, exists_eq, hshort, Nat.not_lt.2 hshort,
      true_and, false_and, false_or, and_true]

/-- For native code that does not look at float words a typed call is a call with the words, and then
the result is read. -/
theorem call_of_callWords (hlength : ws.length = vs.length) (hcode : IntegerCode enter function) :
    let c : TypedCall := { function, params := vs.map Value.kind, result }
    call enter c vs p = leaveCall c p.memory.copies.length (callWords enter function ws p) := by
  intro c
  rcases Nat.lt_or_ge 15 vs.length with hlong | hshort
  · rw [call_of_long hvs hlong, callWords_of_long (hlength ▸ hlong), hlength]
    simp only [leaveCall, Memory.release_self]
    rfl
  · obtain ⟨w, hints, -, hcall⟩ := call_of_short hvs hshort hws function result
    obtain ⟨w', hints', -, hcall'⟩ := callWords_of_short (hlength ▸ hshort) function
    have hsame : w.ints = w'.ints := Vector.toList_inj.1 (hints.trans hints'.symm)
    rw [hcall, hcall', leaveCall_callFrame hcode hsame]

/-- Both calls panic alike without settings, and no function is entered. -/
theorem calls_of_misconfigured (hlength : ws.length = vs.length) (hshort : vs.length ≤ 15)
    (hfunction : function ≠ 0) {n : Nat} (hn : p.Misconfigured n)
    (enter : NativeCode (Process β η ε)) :
    call enter { function, params := vs.map Value.kind, result } vs p =
        ⟨.error (.panic (.violation (.configuredCapacity n))), p,
          [.event (.ofViolation (.configuredCapacity n))]⟩ ∧
      callWords enter function ws p =
        ⟨.error (.panic (.violation (.configuredCapacity n))), p,
          [.event (.ofViolation (.configuredCapacity n))]⟩ := by
  obtain ⟨w, -, -, hcall⟩ := call_of_short hvs hshort hws function result
  obtain ⟨w', -, -, hcall'⟩ := callWords_of_short (hlength ▸ hshort) function
  have hread := readSettings_of_misconfigured hn
  rw [hcall, hcall', callFrame_of_unread hfunction hread, callFrame_of_unread hfunction hread]
  simp only [Run.map, leaveCall, Memory.release_self]
  exact ⟨rfl, rfl⟩

end Agreement

/-- A typed call with arguments of the integer class is a call with their words. Both are refused
for more than fifteen arguments, then for the null function, and for nothing else. Both panic alike
if the settings cannot be read; else both enter the function in the same state and with the same
integer words, one for each argument in their order and then zeros. Only the float words are not
the same: the typed call leaves them zero, the other repeats its first eight words there. Native code
that does not look at these ends, reports and leaves the state alike for both, and the result of the
typed call is then what the integer result of the other stands for. -/
theorem typed_call_of_words (function : Word) {vs : List Value}
    (hvs : ∀ v ∈ vs, v.kind ∉ [Kind.f32, .f64, .cstring]) (result : Option Kind)
    (p : Process β η ε) :
    let c : TypedCall := { function, params := vs.map Value.kind, result }
    let mark := p.memory.copies.length
    ∃ ws, Value.passAll p.memory vs = some (ws, p.memory) ∧ ws.length = vs.length ∧
      (∀ (enter : NativeCode (Process β η ε)) (e : CallError),
        ((callUndeclared enter function vs result p).ended = .ok (.error e) ↔
          WordsRefused vs.length function e) ∧
        ((callWords enter function ws p).ended = .ok (.error e) ↔
          WordsRefused vs.length function e)) ∧
      (vs.length ≤ 15 → function ≠ 0 →
        (∀ n, p.Misconfigured n → ∀ enter : NativeCode (Process β η ε),
          call enter c vs p = ⟨.error (.panic (.violation (.configuredCapacity n))), p,
            [.event (.ofViolation (.configuredCapacity n))]⟩ ∧
          callWords enter function ws p =
            ⟨.error (.panic (.violation (.configuredCapacity n))), p,
              [.event (.ofViolation (.configuredCapacity n))]⟩) ∧
        ((∀ n, ¬ p.Misconfigured n) → ∃ (w w' : ArgumentWords) (s : Settings)
            (q : Process β η ε) (l : List Record),
          w.ints.toList = ws ++ List.replicate (15 - ws.length) 0 ∧ w'.ints = w.ints ∧
          w.floats.toList = List.replicate 8 0 ∧ w'.floats.toList = w.ints.toList.take 8 ∧
          ∀ enter : NativeCode (Process β η ε),
            call enter c vs p = leaveCall c mark
              (((leaveFrame { function, words := w } s (enter function w q)).after l).map
                accepted) ∧
            callWords enter function ws p =
              ((leaveFrame { function, words := w' } s (enter function w' q)).after l).map
                accepted)) ∧
      ∀ enter : NativeCode (Process β η ε),
        let typed := call enter c vs p
        let untyped := callWords enter function ws p
        callUndeclared enter function vs result p =
            ⟨typed.ended.map (·.map Prod.fst), typed.state, typed.records⟩ ∧
          (IntegerCode enter function → (∀ k ∈ result, k ∉ [Kind.f32, .f64]) →
            typed.ended = untyped.ended.map (·.map fun f =>
              (result.map fun k => .ofWord typed.state.memory k f.r1, f.err)) ∧
            typed.state = { untyped.state with memory := untyped.state.memory.release mark } ∧
            (untyped.state.memory.copies.length ≤ mark → typed.state = untyped.state) ∧
            typed.records = untyped.records) := by
  intro c mark
  obtain ⟨ws, hlength, hpassed⟩ := Value.passAll_of_notMem hvs
  have hws := hpassed p.memory
  refine ⟨ws, hws, hlength, ?_⟩
  refine ⟨fun enter e => ⟨?_, ?_⟩, fun hshort hfunction => ?_, fun enter => ?_⟩
  · rw [callUndeclared_error_iff, call_error_iff hvs hws]
  · rw [callWords_error_iff, hlength]
  · obtain ⟨w, hints, hfloats, hcall⟩ := call_of_short hvs hshort hws function result
    obtain ⟨w', hints', hfloats', hcall'⟩ := callWords_of_short (hlength ▸ hshort) function
    have hsame : w'.ints = w.ints := Vector.toList_inj.1 (hints'.trans hints.symm)
    refine ⟨fun n hn => calls_of_misconfigured hvs hws function result hlength hshort hfunction hn,
      fun hn => ?_⟩
    · obtain ⟨s, l, hread⟩ := readSettings_of_not hn
      refine ⟨w, w', s, clearErrno s { p with settings := some s },
        l ++ [.event (.nativeCall function)], hints, hsame, hfloats, hsame ▸ hfloats',
        fun enter => ⟨?_, ?_⟩⟩
      · rw [hcall, callFrame_of_read hfunction hread]
      · rw [hcall', callFrame_of_read hfunction hread]
  · refine ⟨callUndeclared_eq enter function vs result p, fun hcode hresult => ?_⟩
    rw [call_of_callWords hvs hws function result hlength hcode, leaveCall_eq hresult]
    refine ⟨rfl, rfl, fun hcopies => ?_, rfl⟩
    rw [Memory.release_of_le hcopies]

/-- One integer, and an environment that asks for a table without slots: neither call enters the
function, whatever it is. -/
theorem integers_not_delivered :
    let p : Process Unit Empty Unit :=
      { environment := { entries := [("NATIVECALL_CALLBACK_CAPACITY", Utf8.bytes "0")] }
        files := .ofFiles "" [], nativeBase := 0x400000, client := () }
    let function : Word := 0x500000
    let vs : List Value := [⟨.i32, 7⟩]
    (∀ v ∈ vs, v.kind ∉ [Kind.f32, .f64, .cstring]) ∧
      Value.passAll p.memory vs = some ([7], p.memory) ∧ vs.length ≤ 15 ∧ function ≠ 0 ∧
      ∀ enter : NativeCode (Process Unit Empty Unit),
        let typed := callUndeclared enter function vs (some .i32) p
        let untyped := callWords enter function [7] p
        typed.ended = .error (.panic (.violation (.configuredCapacity 0))) ∧
          .event (.nativeCall function) ∉ typed.records ∧
          untyped.ended = .error (.panic (.violation (.configuredCapacity 0))) ∧
          .event (.nativeCall function) ∉ untyped.records := by
  intro p function vs
  have hn : p.Misconfigured 0 := by
    refine ⟨rfl, ?_⟩
    decide +kernel
  have hvs : ∀ v ∈ vs, v.kind ∉ [Kind.f32, .f64, .cstring] := by simp [vs]
  have hws : Value.passAll p.memory vs = some ([7], p.memory) := rfl
  have hshort : vs.length ≤ 15 := by decide
  have hfunction : function ≠ 0 := by decide
  refine ⟨hvs, hws, hshort, hfunction, fun enter => ?_⟩
  obtain ⟨hcall, hcall'⟩ :=
    calls_of_misconfigured hvs hws function (some .i32) rfl hshort hfunction hn enter
  rw [callUndeclared_eq, hcall, hcall']
  exact ⟨rfl, by simp [Event.ofViolation], rfl, by simp [Event.ofViolation]⟩

/-- Three integers for a function that adds the first and the last of its words. -/
theorem typed_call_of_words_three :
    let p : Process Unit Empty Unit :=
      { files := .ofFiles "" [], nativeBase := 0x400000, settings := some {}, client := () }
    let vs : List Value := [⟨.i8, -1⟩, ⟨.bool, true⟩, ⟨.u16, 513⟩]
    let enter : NativeCode (Process Unit Empty Unit) :=
      fun _ w => pure { r1 := w.ints.toList.getD 0 0 + w.ints.toList.getD 2 0 }
    (callUndeclared enter 0x500000 vs (some .i16) p).ended = .ok (.ok (some ⟨.i16, 512⟩)) := by
  intro p vs enter
  have hvs : ∀ v ∈ vs, v.kind ∉ [Kind.f32, .f64, .cstring] := by simp [vs]
  have hcode : IntegerCode enter 0x500000 := by
    intro w w' hints
    simp only [enter, hints]
  obtain ⟨ws, hws, -, -, -, hruns⟩ := typed_call_of_words 0x500000 hvs (some .i16) p
  have hpassed : Value.passAll p.memory vs = some ([-1, 1, 513], p.memory) := rfl
  rw [hpassed] at hws
  cases hws
  obtain ⟨hundeclared, hsame⟩ := hruns enter
  obtain ⟨hended, -⟩ := hsame hcode (by simp)
  have huntyped : ∃ f q l, callWords enter 0x500000 [-1, 1, 513] p = ⟨.ok (.ok f), q, l⟩ ∧
      f.r1 = 512 := ⟨_, _, _, rfl, by decide⟩
  obtain ⟨f, q, l, hrun, hr⟩ := huntyped
  rw [hundeclared, hended, hrun]
  simp only [Except.map, Option.map_some, hr]
  rfl

end Process

end CallBridge
