import CallBridge.Proofs.TypedClosures

/-!
What typed closures make of values that were decoded by other parameters than theirs. Values are
converted in the order of the parameters. The first parameter without a value of its kind ends the
call, whatever comes after it; values behind the last parameter are never looked at.
-/

namespace CallBridge

namespace Args

/-- Parameter `i` finds a value, and that has the kind of the parameter. -/
def Fits (ks : List Kind) (vs : List Value) (i : Nat) : Prop :=
  ∃ v, vs[i]? = some v ∧ ks[i]? = some v.kind

/-- What is wrong with the value for parameter `i`. -/
inductive Defect (ks : List Kind) (vs : List Value) (i : Nat) : Violation → Prop where
  | kind {v : Value} {k : Kind} (value : vs[i]? = some v) (param : ks[i]? = some k)
      (other : v.kind ≠ k) : Defect ks vs i (.argumentMismatch v.kind k)
  | missing {k : Kind} (param : ks[i]? = some k) (short : vs.length ≤ i) :
      Defect ks vs i .missingArgument

section

variable {ks : List Kind} {vs : List Value} {k : Kind} {v : Value} {i : Nat} {e : Violation}

theorem fits_cons_zero : Fits (k :: ks) (v :: vs) 0 ↔ v.kind = k := by
  unfold Fits
  simp [eq_comm]

theorem fits_cons_succ : Fits (k :: ks) (v :: vs) (i + 1) ↔ Fits ks vs i := by
  unfold Fits
  simp

/-- A parameter either finds a value that fits it, or something is wrong with what it finds. -/
theorem exists_defect (hi : i < ks.length) (h : ¬ Fits ks vs i) : ∃ e, Defect ks vs i e := by
  have hparam : ks[i]? = some ks[i] := List.getElem?_eq_getElem hi
  rcases Nat.lt_or_ge i vs.length with hlt | hge
  · have hvalue : vs[i]? = some vs[i] := List.getElem?_eq_getElem hlt
    have hother : vs[i].kind ≠ ks[i] := by
      intro heq
      apply h
      exact ⟨vs[i], hvalue, by rw [heq, hparam]⟩
    exact ⟨_, .kind hvalue hparam hother⟩
  · exact ⟨_, .missing hparam hge⟩

/-- Among the parameters that find no value that fits, one is the first. -/
theorem exists_first (h : ¬ ∀ i < ks.length, Fits ks vs i) :
    ∃ i < ks.length, ¬ Fits ks vs i ∧ ∀ j < i, Fits ks vs j := by
  classical
  push Not at h
  obtain ⟨hi, hfails⟩ := Nat.find_spec h
  refine ⟨Nat.find h, hi, hfails, ?_⟩
  intro j hj
  have hmin := Nat.find_min h hj
  push Not at hmin
  apply hmin
  omega

/-- The text of the panic names what was found and what was expected, if there is a value at all. -/
theorem Defect.message (h : Defect ks vs i e) :
    (∀ v, vs[i]? = some v → ∃ k, ks[i]? = some k ∧
      e.message = "nativecall: callback argument decoded as " ++ v.kind.name
        ++ ", closure expects " ++ k.name) ∧
    (vs.length ≤ i → e.message = "nativecall: callback invoked with too few arguments") := by
  cases h with
  | @kind v k value param =>
    constructor
    · intro v' hv'
      rw [value] at hv'
      cases hv'
      exact ⟨k, param, rfl⟩
    · intro hge
      rw [List.getElem?_eq_none hge] at value
      contradiction
  | missing param short =>
    constructor
    · intro v hv
      rw [List.getElem?_eq_none short] at hv
      contradiction
    · intro _
      rfl

/-- Values behind those for the parameters are ignored. -/
theorem ofValues_append (h : vs.map Value.kind = ks) (rest : List Value) :
    ofValues ks (vs ++ rest) = ofValues ks vs := by
  induction vs generalizing ks with
  | nil =>
    subst h
    rfl
  | cons v vs ih =>
    subst h
    rw [List.cons_append, List.map_cons, ofValues, ofValues, dif_pos rfl, dif_pos rfl, ih rfl]

theorem map_kind_take (h : ∀ i < ks.length, Fits ks vs i) :
    (vs.take ks.length).map Value.kind = ks := by
  induction ks generalizing vs with
  | nil => simp
  | cons k ks ih =>
    cases vs with
    | nil =>
      obtain ⟨v, hv, -⟩ := h 0 (by simp)
      simp at hv
    | cons v vs =>
      have hkind : v.kind = k := fits_cons_zero.1 (h 0 (by simp))
      have hrest : ∀ i < ks.length, Fits ks vs i := by
        intro i hi
        exact fits_cons_succ.1 (h (i + 1) (by simp; omega))
      simp [hkind, ih hrest]

/-- Where every parameter finds a value that fits, these values are the arguments. -/
theorem ofValues_of_fits (h : ∀ i < ks.length, Fits ks vs i) :
    ∃ args, ofValues ks vs = .ok args ∧ toValues ks args = vs.take ks.length := by
  have hkinds := map_kind_take h
  obtain ⟨args, hof, hto⟩ := ofValues_of_kinds hkinds
  refine ⟨args, ?_, hto⟩
  have happend := ofValues_append hkinds (vs.drop ks.length)
  rw [List.take_append_drop] at happend
  rw [happend, hof]

/-- The first parameter that finds no value that fits decides, whatever is wrong behind it. -/
theorem ofValues_of_defect (hbefore : ∀ j < i, Fits ks vs j) (hdefect : Defect ks vs i e) :
    ofValues ks vs = .error e := by
  induction i generalizing ks vs with
  | zero =>
    cases hdefect with
    | kind value param other =>
      cases ks <;> cases vs <;> simp at value param
      subst value param
      rw [ofValues, dif_neg other]
    | missing param short =>
      cases ks <;> cases vs <;> simp at short param
      rfl
  | succ i ih =>
    have hfirst := hbefore 0 (by omega)
    obtain ⟨v, hv, hk⟩ := hfirst
    cases ks with
    | nil => simp at hk
    | cons k ks =>
      cases vs with
      | nil => simp at hv
      | cons w vs =>
        have hkind : w.kind = k := fits_cons_zero.1 (hbefore 0 (by omega))
        have hrest : ofValues ks vs = .error e := by
          apply ih
          · intro j hj
            exact fits_cons_succ.1 (hbefore (j + 1) (by omega))
          · cases hdefect with
            | kind value param other => exact .kind (by simpa using value) (by simpa using param) other
            | missing param short => exact .missing (by simpa using param) (by simpa using short)
        rw [ofValues, dif_pos hkind, hrest]

end

end Args

namespace Closure

variable {σ : Type} {values : List Value}

theorem run_of_args (c : Closure σ) {args : Args c.params}
    (h : Args.ofValues c.params values = .ok args) (st : σ) :
    c.run values st = ⟨(c.body args st).ended.map (Outcome.value? c.result),
      (c.body args st).state, (c.body args st).records⟩ := by
  have hrun : c.run values = c.body args >>= fun o => pure (Outcome.value? c.result o) := by
    unfold run
    rw [h]
    rfl
  rw [hrun]
  rcases hbody : c.body args st with ⟨e | o, st', l⟩
  · rw [Action.bind_of_error hbody]
    rfl
  · rw [Action.bind_of_ok hbody, Action.pure_apply, List.append_nil]
    rfl

/-- Without arguments the body is not run. -/
theorem run_of_error (c : Closure σ) {e : Violation}
    (h : Args.ofValues c.params values = .error e) (st : σ) :
    c.run values st = ⟨.error (.panic (.violation e)), st, [.event (.ofViolation e)]⟩ := by
  unfold run
  rw [h]
  rfl

/-- Conversion decides everything about a call. Where every parameter finds a value of its kind the
call is one run of the body on exactly these values, in their order, whatever values come behind
them. Otherwise the body is not run, whatever it is: the call reports one violation and panics, over
the first parameter that finds no value of its kind. The panic names both kinds if there is a value,
and says that there are too few if the values have come to an end. -/
theorem run_stops_at_first_defect (c : Closure σ) (values : List Value) :
    ((∀ i < c.params.length, Args.Fits c.params values i) →
      ∃ args, Args.toValues c.params args = values.take c.params.length ∧ ∀ st,
        let body := c.body args st
        c.run values st =
          ⟨body.ended.map (Outcome.value? c.result), body.state, body.records⟩) ∧
    ((¬ ∀ i < c.params.length, Args.Fits c.params values i) →
      ∃ i e, i < c.params.length ∧ Args.Defect c.params values i e ∧
        (∀ j < i, Args.Fits c.params values j) ∧
        (∀ v, values[i]? = some v → ∃ k, c.params[i]? = some k ∧
          e.message = "nativecall: callback argument decoded as " ++ v.kind.name
            ++ ", closure expects " ++ k.name) ∧
        (values.length ≤ i →
          e.message = "nativecall: callback invoked with too few arguments") ∧
        ∀ st, c.run values st =
          ⟨.error (.panic (.violation e)), st, [.event (.ofViolation e)]⟩) := by
  constructor
  · intro hfits
    obtain ⟨args, hof, hto⟩ := Args.ofValues_of_fits hfits
    refine ⟨args, hto, ?_⟩
    intro st body
    exact c.run_of_args hof st
  · intro hnot
    obtain ⟨i, hi, hfails, hbefore⟩ := Args.exists_first hnot
    obtain ⟨e, hdefect⟩ := Args.exists_defect hi hfails
    obtain ⟨hkind, hmissing⟩ := hdefect.message
    refine ⟨i, e, hi, hdefect, hbefore, hkind, hmissing, ?_⟩
    intro st
    exact c.run_of_error (Args.ofValues_of_defect hbefore hdefect) st

/-- A second value of the wrong kind is what counts, also where a third is missing; with all three
values in place a fourth is ignored. -/
theorem run_stops_at_first_defect_second :
    let c : Closure Nat := {
      params := [.i8, .f64, .cstring]
      result := some .i8
      body := fun (n, _) => do
        Action.modify (· + 1)
        pure n }
    (¬ ∀ i < c.params.length, Args.Fits c.params [⟨.i8, 5⟩, ⟨.f32, 0⟩] i) ∧
      c.run [⟨.i8, 5⟩, ⟨.f32, 0⟩] 0 =
        ⟨.error (.panic (.violation (.argumentMismatch .f32 .f64))), 0,
          [.event (.invariantViolated "callback argument kind mismatch" "f32")]⟩ ∧
      (∀ i < c.params.length,
        Args.Fits c.params [⟨.i8, 5⟩, ⟨.f64, 0⟩, ⟨.cstring, "a"⟩, ⟨.bool, true⟩] i) ∧
      c.run [⟨.i8, 5⟩, ⟨.f64, 0⟩, ⟨.cstring, "a"⟩, ⟨.bool, true⟩] 0 =
        ⟨.ok (some ⟨.i8, 5⟩), 1, []⟩ := by
  intro c
  have hnot : ¬ ∀ i < c.params.length, Args.Fits c.params [⟨.i8, 5⟩, ⟨.f32, 0⟩] i := by
    intro h
    obtain ⟨v, hv, -⟩ := h 2 (by decide)
    simp at hv
  have hfits : ∀ i < c.params.length,
      Args.Fits c.params [⟨.i8, 5⟩, ⟨.f64, 0⟩, ⟨.cstring, "a"⟩, ⟨.bool, true⟩] i := by
    intro i hi
    have hcases : i = 0 ∨ i = 1 ∨ i = 2 := by
      simp [c] at hi
      omega
    rcases hcases with rfl | rfl | rfl <;> exact ⟨_, rfl, rfl⟩
  obtain ⟨-, hstops⟩ := run_stops_at_first_defect c [⟨.i8, 5⟩, ⟨.f32, 0⟩]
  obtain ⟨hruns, -⟩ :=
    run_stops_at_first_defect c [⟨.i8, 5⟩, ⟨.f64, 0⟩, ⟨.cstring, "a"⟩, ⟨.bool, true⟩]
  refine ⟨hnot, ?_, hfits, ?_⟩
  · obtain ⟨i, e, -, hdefect, hbefore, -, -, hrun⟩ := hstops hnot
    have hi : i = 0 ∨ i = 1 := by
      by_contra hnot
      obtain ⟨v, hv, hk⟩ := hbefore 1 (by omega)
      cases hv
      cases hk
    have hone : e = .argumentMismatch .f32 .f64 := by
      cases hdefect with
      | kind value param other =>
        rcases hi with rfl | rfl
        · cases value
          cases param
          contradiction
        · cases value
          cases param
          rfl
      | missing param short =>
        simp at short
        omega
    rw [hrun 0, hone]
    rfl
  · obtain ⟨⟨n, f, s, _⟩, hvalues, hrun⟩ := hruns hfits
    have hn : n = 5 := by simpa [Args.toValues, c] using (List.cons.inj hvalues).1
    subst hn
    exact hrun 0

end Closure

end CallBridge
