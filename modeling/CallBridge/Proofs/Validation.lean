import CallBridge.Proofs.BlockLength

/-!
What validation has to say about a callback. Several defects can be there at once, and the one that
is reported is the first in a fixed order. The order is stated here as a relation between what is
described and what is reported; validation is exactly that relation.
-/

namespace CallBridge

theorem Kind.isReturnable_iff {k : Kind} :
    k.isReturnable = true ↔ k ∉ [Kind.f32, .f64, .cstring] := by
  cases k <;> decide

theorem TypeDesc.kind?_eq_none_iff {d : TypeDesc} : d.kind? = none ↔ ∀ k, d ≠ .scalar k := by
  cases d <;> simp [kind?]

theorem TypeDesc.kind?_eq_some_iff {d : TypeDesc} {k : Kind} :
    d.kind? = some k ↔ d = .scalar k := by
  cases d <;> simp [kind?]

namespace Signature

/-- The described results are those of a callback that returns nothing, or one value that fits the
integer result register. -/
def Returns (results : List TypeDesc) (result : Option Kind) : Prop :=
  results = result.toList.map .scalar ∧ ∀ k ∈ result, k ∉ [Kind.f32, .f64, .cstring]

/-- What is reported of described parameters and results. A defect counts if none of those listed
before it is there. -/
inductive Judged (params results : List TypeDesc) :
    Except RegistrationError Signature → Prop where
  /-- Parameter `i` is the first that is no scalar. -/
  | oddParameter {i : Nat} {d : TypeDesc} (found : params[i]? = some d)
      (odd : ∀ k, d ≠ .scalar k) (first : ∀ d' ∈ params.take i, ∃ k, d' = .scalar k) :
      Judged params results (.error (.unsupportedParameter i d))
  | manyResults {kinds : List Kind} (scalar : params = kinds.map .scalar)
      (many : 1 < results.length) :
      Judged params results (.error (.tooManyResults results.length))
  | oddResult {kinds : List Kind} {d : TypeDesc} (scalar : params = kinds.map .scalar)
      (single : results = [d]) (odd : ∀ k, d = .scalar k → k ∈ [Kind.f32, .f64, .cstring]) :
      Judged params results (.error (.unsupportedResult d))
  | manyParameters {kinds : List Kind} {result : Option Kind} (scalar : params = kinds.map .scalar)
      (returns : Returns results result)
      (long : 50 < (classCount .integer kinds - 6) + (classCount .float kinds - 8)) :
      Judged params results (.error (.tooManyParameters params.length))
  | fine {kinds : List Kind} {result : Option Kind} (scalar : params = kinds.map .scalar)
      (returns : Returns results result)
      (short : (classCount .integer kinds - 6) + (classCount .float kinds - 8) ≤ 50) :
      Judged params results (.ok { params := kinds, result })

section Parameters

variable {index : Nat} {params : List TypeDesc}

theorem scalars_eq_ok {kinds : List Kind} (h : scalars index params = .ok kinds) :
    params = kinds.map .scalar := by
  induction params generalizing index kinds with
  | nil =>
    cases h
    rfl
  | cons d ds ih =>
    cases hd : d.kind? with
    | none => simp [scalars, hd] at h
    | some k =>
      cases hs : scalars (index + 1) ds with
      | error e => simp [scalars, hd, hs, Except.map] at h
      | ok ks =>
        simp only [scalars, hd, hs, Except.map, Except.ok.injEq] at h
        rw [← h, List.map_cons, ← ih hs, TypeDesc.kind?_eq_some_iff.1 hd]

/-- The first parameter that is no scalar is reported, whatever follows it. -/
theorem scalars_of_odd {i : Nat} {d : TypeDesc} (found : params[i]? = some d)
    (odd : ∀ k, d ≠ .scalar k) (first : ∀ d' ∈ params.take i, ∃ k, d' = .scalar k) :
    scalars index params = .error (.unsupportedParameter (index + i) d) := by
  induction params generalizing index i with
  | nil => simp at found
  | cons e ds ih =>
    cases i with
    | zero =>
      cases found
      simp only [scalars, TypeDesc.kind?_eq_none_iff.2 odd, Nat.add_zero]
    | succ i =>
      obtain ⟨⟨k, rfl⟩, hfirst⟩ := List.forall_mem_cons.1 first
      have hrest : scalars (index + 1) ds = .error (.unsupportedParameter (index + 1 + i) d) :=
        ih found hfirst
      simp only [scalars, TypeDesc.kind?, hrest, Except.map, Nat.add_right_comm, Nat.add_assoc]

theorem exists_odd {e : RegistrationError} (h : scalars index params = .error e) :
    ∃ (i : Nat) (d : TypeDesc), params[i]? = some d ∧ (∀ k, d ≠ .scalar k) ∧
      (∀ d' ∈ params.take i, ∃ k, d' = .scalar k) ∧ e = .unsupportedParameter (index + i) d := by
  induction params generalizing index e with
  | nil => cases h
  | cons d ds ih =>
    cases hd : d.kind? with
    | none =>
      simp only [scalars, hd, Except.error.injEq] at h
      exact ⟨0, d, rfl, TypeDesc.kind?_eq_none_iff.1 hd, by simp, h.symm⟩
    | some k =>
      cases hs : scalars (index + 1) ds with
      | ok ks => simp [scalars, hd, hs, Except.map] at h
      | error e' =>
        simp only [scalars, hd, hs, Except.map, Except.error.injEq] at h
        obtain ⟨i, d', hfound, hodd, hfirst, he⟩ := ih hs
        refine ⟨i + 1, d', hfound, hodd, ?_, ?_⟩
        · rw [List.take_succ_cons, List.forall_mem_cons]
          exact ⟨⟨k, TypeDesc.kind?_eq_some_iff.1 hd⟩, hfirst⟩
        · rw [← h, he, Nat.add_right_comm, Nat.add_assoc]

end Parameters

section Results

variable {results : List TypeDesc}

theorem resultOf_of_returns {result : Option Kind} (h : Returns results result) :
    resultOf results = .ok result := by
  obtain ⟨rfl, hreturnable⟩ := h
  cases result with
  | none => rfl
  | some k =>
    have hk : k.isReturnable = true := Kind.isReturnable_iff.2 (hreturnable k rfl)
    exact if_pos hk

theorem resultOf_of_odd {d : TypeDesc} (h : ∀ k, d = .scalar k → k ∈ [Kind.f32, .f64, .cstring]) :
    resultOf [d] = .error (.unsupportedResult d) := by
  cases hd : d.kind? with
  | none => simp only [resultOf, hd]
  | some k =>
    have hk : ¬ k.isReturnable = true :=
      fun hk => Kind.isReturnable_iff.1 hk (h k (TypeDesc.kind?_eq_some_iff.1 hd))
    simp only [resultOf, hd, if_neg hk]

theorem resultOf_of_many (h : 1 < results.length) :
    resultOf results = .error (.tooManyResults results.length) := by
  match results, h with
  | _ :: _ :: _, _ => rfl

theorem resultOf_cases (results : List TypeDesc) :
    (∃ result, Returns results result) ∨
      (∃ d, results = [d] ∧ ∀ k, d = .scalar k → k ∈ [Kind.f32, .f64, .cstring]) ∨
      1 < results.length := by
  match results with
  | [] => exact .inl ⟨none, rfl, by simp⟩
  | [d] =>
    by_cases hodd : ∀ k, d = .scalar k → k ∈ [Kind.f32, .f64, .cstring]
    · exact .inr (.inl ⟨d, rfl, hodd⟩)
    · push Not at hodd
      obtain ⟨k, rfl, hk⟩ := hodd
      refine .inl ⟨some k, rfl, ?_⟩
      rintro k' ⟨⟩
      exact hk
  | _ :: _ :: _ => exact .inr (.inr (by simp))

end Results

/-- A block ends fifty words after the first one that is for the stack. -/
theorem fits_iff_spilled (kinds : List Kind) :
    fits kinds = true ↔ (classCount .integer kinds - 6) + (classCount .float kinds - 8) ≤ 50 := by
  have h6 : intRegisterCount = 6 := rfl
  have h8 : floatRegisterCount = 8 := rfl
  have h64 : maxFrameWords = 64 := rfl
  rw [fits_iff, neededWords, spilledWords, h6, h8, h64]
  split_ifs <;> omega

section OfTypes

variable {params results : List TypeDesc} {kinds : List Kind}

theorem ofTypes_of_scalar (hparams : params = kinds.map .scalar) :
    ofTypes params results = (resultOf results).bind fun result =>
      if fits kinds then .ok { params := kinds, result }
      else .error (.tooManyParameters kinds.length) := by
  rw [ofTypes, hparams, scalars_scalar]
  rfl

theorem ofTypes_judged (params results : List TypeDesc) :
    Judged params results (ofTypes params results) := by
  cases hs : scalars 0 params with
  | error e =>
    obtain ⟨i, d, hfound, hodd, hfirst, rfl⟩ := exists_odd hs
    simp only [ofTypes, hs, bind, Except.bind, Nat.zero_add]
    exact .oddParameter hfound hodd hfirst
  | ok kinds =>
    have hparams := scalars_eq_ok hs
    rw [ofTypes_of_scalar hparams]
    rcases resultOf_cases results with ⟨result, hreturns⟩ | ⟨d, rfl, hodd⟩ | hmany
    · rw [resultOf_of_returns hreturns, Except.bind]
      split_ifs with hfits
      · exact .fine hparams hreturns ((fits_iff_spilled kinds).1 hfits)
      · rw [fits_iff_spilled, not_le] at hfits
        have hlength : kinds.length = params.length := by rw [hparams, List.length_map]
        rw [hlength]
        exact .manyParameters hparams hreturns hfits
    · rw [resultOf_of_odd hodd]
      exact .oddResult hparams rfl hodd
    · rw [resultOf_of_many hmany]
      exact .manyResults hparams hmany

theorem Judged.eq_ofTypes {r : Except RegistrationError Signature} (h : Judged params results r) :
    ofTypes params results = r := by
  cases h with
  | oddParameter found odd first =>
    rw [ofTypes, scalars_of_odd found odd first, Nat.zero_add]
    rfl
  | manyResults scalar many =>
    rw [ofTypes_of_scalar scalar, resultOf_of_many many]
    rfl
  | oddResult scalar single odd =>
    rw [ofTypes_of_scalar scalar, single, resultOf_of_odd odd]
    rfl
  | manyParameters scalar returns long =>
    rw [ofTypes_of_scalar scalar, resultOf_of_returns returns, Except.bind,
      if_neg (by rw [fits_iff_spilled]; omega), scalar, List.length_map]
  | fine scalar returns short =>
    rw [ofTypes_of_scalar scalar, resultOf_of_returns returns, Except.bind,
      if_pos ((fits_iff_spilled _).2 short)]

end OfTypes

/-- Validation accepts exactly the supported callbacks, with their kinds as they are described, and
reports the first defect of any other: the first parameter that is no scalar, whatever else is
wrong; then more than one result; then a result that is no scalar or does not fit the integer result
register; then parameters that take more than fifty stack words. -/
theorem of_eq_iff_judged {β : Type} (c : Callback β) (r : Except RegistrationError Signature) :
    of c = r ↔ Judged c.params c.results r := by
  constructor
  · rintro rfl
    exact ofTypes_judged c.params c.results
  · exact Judged.eq_ofTypes

/-- All four defects at once. -/
example : ofTypes (List.replicate 57 (.scalar .i8) ++ [.map]) [.scalar .f32, .slice] =
    .error (.unsupportedParameter 57 .map) := by decide

end Signature

end CallBridge
