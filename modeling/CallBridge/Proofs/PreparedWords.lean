import CallBridge.Proofs.BlockEncoding

/-!
The words of a typed call. Every argument has one word of its own, which stands at the place of its
parameter, and all other words of the frame are zero. So what an outbound call puts there is still
there when a dispatcher decodes its block, and it reads back as the arguments. Nothing in memory but
the copies that there are has a part in the words.
-/

namespace CallBridge

/-- What lies outside of the copies has no part in passing a value. -/
theorem Value.pass?_elsewhere (v : Value) (m : Memory) (e : Word → List UInt8) :
    v.pass? { m with elsewhere := e } =
      (v.pass? m).map fun (x, m') => (x, { m' with elsewhere := e }) := by
  obtain ⟨k, x⟩ := v
  cases k with
  | cstring =>
    unfold pass?
    dsimp only
    split_ifs <;> rfl
  | _ => rfl

namespace TypedCall

/-- The words that pass arguments to parameters of the listed kinds, with the memory that holds the
copies of the strings among them. -/
structure Passes (kinds : List Kind) (args : List Value) (m m' : Memory) (w : ArgumentWords) :
    Prop where
  declared : args.map Value.kind = kinds
  copies : m' = { m with copies := m.copies ++ args.flatMap Value.copies }
  placed : ∃ ws, Value.passAll m args = some (ws, m') ∧
    List.Forall₂ (fun j x => w.words[j]? = some x) (frameIndices kinds) ws ∧
    (m'.Fits → List.Forall₂ (fun v x => .ofWord m' v.kind x = v) args ws)
  others : ∀ j < floatRegisterCount + maxCallArgs, j ∉ frameIndices kinds → w.words[j]? = some 0

section Places

variable {c : Classifier} {vs : List Value}

/-- Arguments that are in order are placed, and what follows them is looked at. The words at their
places are those that pass them, and the others stay. -/
theorem place_append (hpass : ∀ v ∈ vs, v.Passable) (hc : c.OnHost)
    (hstack : (c.advance ((vs.map Value.kind).map Kind.registerClass)).stackWords ≤
      maxCallArgs - intRegisterCount) (count index : Nat) (m : Memory) (w : ArgumentWords) :
    let classes := (vs.map Value.kind).map Kind.registerClass
    let places := (c.placeAll classes).map Location.frameIndex
    let m' : Memory := { m with copies := m.copies ++ vs.flatMap Value.copies }
    ∃ ws w', Value.passAll m vs = some (ws, m') ∧
      (∀ rest, place count index c m w (vs.zip (vs.map Value.kind) ++ rest) =
        place count (index + vs.length) (c.advance classes) m' w' rest) ∧
      List.Forall₂ (fun j x => w'.words[j]? = some x) places ws ∧
      ∀ j ∉ places, w'.words[j]? = w.words[j]? := by
  induction vs generalizing index c m w with
  | nil =>
    exact ⟨[], w, by simp [Value.passAll], by simp [Classifier.advance], .nil, fun _ _ => rfl⟩
  | cons v vs ih =>
    obtain ⟨hv, hvs⟩ := List.forall_mem_cons.1 hpass
    obtain ⟨hnext, -, htaken, -, hin⟩ := Classifier.place_spec hc v.kind.registerClass
    have hframe : (c.place v.kind.registerClass).1.InFrame :=
      hin (Nat.le_trans (Classifier.stackWords_advance hnext _) hstack)
    obtain ⟨x, hx, -⟩ := Value.pass?_spec hv m
    obtain ⟨ws, w', hws, hplace, hrest, hothers⟩ := ih hvs hnext hstack (index + 1)
      { m with copies := m.copies ++ v.copies } (w.put x (c.place v.kind.registerClass).1)
    simp only [List.append_assoc, ← List.flatMap_cons] at hws hplace
    -- The places behind are others, so the word put first is still there at the end.
    have hfirst := hothers _ (Classifier.notMem_placeAll_of_taken hnext ((htaken _).2 (.inr rfl)) _)
    refine ⟨x :: ws, w', ?_, fun rest => ?_, .cons ?_ hrest, fun j hj => ?_⟩
    · simp only [Value.passAll, hx, hws, bind, Option.bind]
    · rw [List.map_cons, List.zip_cons_cons, List.cons_append, place_cons hx hframe, hplace,
        List.length_cons, Nat.add_assoc, Nat.add_comm 1]
      rfl
    · rw [hfirst, w.words_put_self x hframe]
    · obtain ⟨hne, hj⟩ := not_or.1 (mt List.mem_cons.2 hj)
      rw [hothers j hj, w.words_put x hframe, List.getElem?_set_ne (Ne.symm hne)]

theorem place_elsewhere {count index : Nat} {m m' : Memory} {w w' : ArgumentWords}
    {entries : List (Value × Kind)} (h : place count index c m w entries = .ok (m', w'))
    (e : Word → List UInt8) :
    place count index c { m with elsewhere := e } w entries =
      .ok ({ m' with elsewhere := e }, w') := by
  induction entries generalizing index c m w with
  | nil =>
    cases h
    rfl
  | cons entry rest ih =>
    obtain ⟨v, k⟩ := entry
    rw [place] at h ⊢
    rw [Value.pass?_elsewhere]
    split_ifs at h ⊢
    cases hx : v.pass? m with
    | none =>
      rw [hx] at h
      cases h
    | some passed =>
      rw [hx] at h
      dsimp only [Option.map_some] at h ⊢
      cases hplace : (c.place k.registerClass).1 with
      | stack n =>
        rw [hplace] at h
        dsimp only at h ⊢
        split_ifs at h ⊢
        exact ih h
      | _ =>
        rw [hplace] at h
        exact ih h

end Places

variable {c : TypedCall} {args : List Value} {m m' : Memory} {w : ArgumentWords}

/-- The words of a call are the same over all memories with the same copies. -/
theorem prepare_elsewhere (h : c.prepare m args = .ok (m', w)) (e : Word → List UInt8) :
    c.prepare { m with elsewhere := e } args = .ok ({ m' with elsewhere := e }, w) := by
  unfold prepare at h ⊢
  split_ifs at h ⊢
  exact place_elsewhere h e

/-- Arguments of the declared kinds that fit the frame are prepared. -/
theorem prepare_passes (hkinds : args.map Value.kind = c.params) (hpass : ∀ v ∈ args, v.Passable)
    (hstack : stackWords c.params ≤ maxCallArgs - intRegisterCount) (m : Memory) :
    ∃ m' w, c.prepare m args = .ok (m', w) ∧ Passes c.params args m m' w := by
  have hlength : args.length = c.params.length := by rw [← hkinds, List.length_map]
  unfold stackWords at hstack
  rw [← hkinds] at hstack
  obtain ⟨ws, w, hws, hplace, hplaced, hothers⟩ :=
    place_append hpass Classifier.start_onHost hstack args.length 0 m {}
  have hzero : ∀ j < floatRegisterCount + maxCallArgs,
      (({} : ArgumentWords).words)[j]? = some 0 := by decide
  rw [hkinds] at hplaced hothers
  refine ⟨_, w, ?_, hkinds, rfl, ⟨ws, hws, hplaced, fun hfits => ?_⟩, fun j hj hnot => ?_⟩
  · rw [prepare, if_pos hlength, ← hkinds, ← List.append_nil (List.zip _ _), hplace]
    rfl
  · obtain ⟨ws', hws', hlies⟩ := Value.passAll_spec hpass m
    cases hws.symm.trans hws'
    exact (hlies hfits).imp fun _ _ hlies => hlies.ofWord_eq
  · exact (hothers j hnot).trans (hzero j hj)

/-- A dispatcher reads back the arguments that were passed, whatever lies behind the frame. -/
theorem Passes.decode {β : Type} {b : Binding β} {kinds : List Kind}
    (h : Passes kinds args m m' w) (hb : b.signature.params = kinds) (hfits : m'.Fits)
    (beyond : Nat → Word) : b.decode m' { words := (w.loaded beyond).block } = .ok args := by
  subst hb
  obtain ⟨ws, -, hplaced, hread⟩ := h.placed
  have hread := hread hfits
  rw [List.forall₂_iff_get] at hplaced hread
  refine Binding.decode_of_read h.declared
    (List.forall₂_iff_get.2 ⟨hread.1.trans hplaced.1.symm, fun i hv hj => ?_⟩)
  have hw : i < ws.length := hplaced.1 ▸ hj
  have hword := hplaced.2 i hj hw
  have hframe := w.words_length ▸ (List.getElem?_eq_some_iff.1 hword).1
  exact ⟨_, (w.loaded_block_words beyond hframe).trans hword, hread.2 i hv hw⟩

end TypedCall

end CallBridge
