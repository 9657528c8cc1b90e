import CallBridge.Proofs.BlockLength
import Mathlib.Data.List.Forall2

/-!
Blocks that hold arguments, whoever made them. Different parameters have different words, and a word
passes a value in the low bits that the kind has. So decoding gives the values back whatever stands
in all other bits and words of the block, up to its end.
-/

namespace CallBridge

namespace Value

/-- Words for a list of values, passed one after the other, and the memory with all copies. -/
def passAll : Memory → List Value → Option (List Word × Memory)
  | m, [] => some ([], m)
  | m, v :: vs => do
    let (w, m) ← v.pass? m
    let (ws, m) ← passAll m vs
    some (w :: ws, m)

theorem passAll_spec {vs : List Value} (hvs : ∀ v ∈ vs, v.Passable) (m : Memory) :
    ∃ ws, passAll m vs = some (ws, { m with copies := m.copies ++ vs.flatMap copies }) ∧
      (Memory.Fits { m with copies := m.copies ++ vs.flatMap copies } →
        List.Forall₂ (LiesIn { m with copies := m.copies ++ vs.flatMap copies }) vs ws) := by
  induction vs generalizing m with
  | nil => exact ⟨[], by simp [passAll], fun _ => .nil⟩
  | cons v vs ih =>
    obtain ⟨hv, hvs⟩ := List.forall_mem_cons.1 hvs
    obtain ⟨w, hpass, hlies⟩ := liesIn_pass hv m
    obtain ⟨ws, hpassAll, hrest⟩ := ih hvs { m with copies := m.copies ++ v.copies }
    simp only [List.append_assoc, ← List.flatMap_cons] at hpassAll hrest hlies
    refine ⟨w :: ws, ?_, fun hfits => .cons (hlies _ hfits) (hrest hfits)⟩
    simp only [passAll, hpass, hpassAll, bind, Option.bind]

/-- Bits that the kinds do not have make no difference. -/
theorem liesIn_agree {m : Memory} {vs : List Value} {ws ws' : List Word}
    (h : List.Forall₂ (LiesIn m) vs ws)
    (hagree : List.Forall₂ (fun e w' => e.1.kind.Agree w' e.2) (vs.zip ws) ws') :
    List.Forall₂ (LiesIn m) vs ws' := by
  induction h generalizing ws' with
  | nil =>
    cases hagree
    exact .nil
  | cons hv _ ih =>
    cases hagree with
    | cons hw hrest => exact .cons (hv.congr hw) (ih hrest)

end Value

theorem nodup_frameIndices (kinds : List Kind) : (frameIndices kinds).Nodup :=
  nodup_frameIndex_placements (kinds.map Kind.registerClass)

namespace Block

/-- The block with words put at some of its places. -/
def write (b : Block) : List (Nat × Word) → Block
  | [] => b
  | (j, w) :: rest => write { words := b.words.set j w } rest

theorem length_write (b : Block) (entries : List (Nat × Word)) :
    (b.write entries).words.length = b.words.length := by
  induction entries generalizing b with
  | nil => rfl
  | cons entry rest ih =>
    obtain ⟨j, w⟩ := entry
    rw [write, ih, List.length_set]

theorem write_of_notMem {entries : List (Nat × Word)} {j : Nat}
    (hj : j ∉ entries.map Prod.fst) (b : Block) :
    (b.write entries).words[j]? = b.words[j]? := by
  induction entries generalizing b with
  | nil => rfl
  | cons entry rest ih =>
    obtain ⟨i, w⟩ := entry
    rw [List.map_cons, List.mem_cons, not_or] at hj
    obtain ⟨hi, hrest⟩ := hj
    rw [write, ih hrest, List.getElem?_set_ne (Ne.symm hi)]

/-- Different places keep the words that are put there. -/
theorem write_of_mem {entries : List (Nat × Word)} (hnodup : (entries.map Prod.fst).Nodup)
    {j : Nat} {w : Word} (hmem : (j, w) ∈ entries) {b : Block} (hj : j < b.words.length) :
    (b.write entries).words[j]? = some w := by
  induction entries generalizing b with
  | nil => cases hmem
  | cons entry rest ih =>
    obtain ⟨i, x⟩ := entry
    obtain ⟨hi, hrest⟩ := List.nodup_cons.1 hnodup
    rcases List.mem_cons.1 hmem with heq | hmem
    · cases heq
      rw [write, write_of_notMem hi, List.getElem?_set_self hj]
    · exact ih hrest hmem (by simpa using hj)

end Block

namespace Binding

variable {β : Type} {b : Binding β} {m : Memory} {block : Block} {vs : List Value}

/-- Reading words that stand for values gives the values, one for each place. -/
theorem readAll_of_words {places : List Nat}
    (h : List.Forall₂ (fun v j => ∃ w, block.words[j]? = some w ∧ .ofWord m v.kind w = v)
      vs places) :
    readAll m block ((vs.map Value.kind).zip places) = .ok vs := by
  induction h with
  | nil => rfl
  | cons hv _ ih =>
    obtain ⟨w, hw, hvalue⟩ := hv
    simp only [List.map_cons, List.zip_cons_cons, readAll, Block.word, hw, ih, bind, Except.bind,
      hvalue]

/-- A block is decoded as values of the declared kinds whose words are at the places. -/
theorem decode_of_read (hkinds : vs.map Value.kind = b.signature.params)
    (h : List.Forall₂ (fun v j => ∃ w, block.words[j]? = some w ∧ .ofWord m v.kind w = v) vs
      (frameIndices b.signature.params)) : b.decode m block = .ok vs := by
  have hall := readAll_of_words h
  rw [hkinds] at hall
  exact hall

/-- Words that pass values, put at the places of the parameters, are there to be read. -/
theorem liesIn_write {places : List Nat} {ws : List Word} (hnodup : places.Nodup)
    (hplaces : ∀ j ∈ places, j < block.words.length) (hlength : places.length = vs.length)
    (h : List.Forall₂ (Value.LiesIn m) vs ws) :
    List.Forall₂ (fun v j => ∃ w, (block.write (places.zip ws)).words[j]? = some w ∧ v.LiesIn m w)
      vs places := by
  have hws : vs.length = ws.length := h.length_eq
  have hkeys : (places.zip ws).map Prod.fst = places := List.map_fst_zip (by omega)
  rw [List.forall₂_iff_get] at h ⊢
  refine ⟨hlength.symm, fun i hv hj => ?_⟩
  have hw : i < ws.length := hws ▸ hv
  have hmem : (places[i], ws[i]) ∈ places.zip ws := by
    rw [List.mem_iff_getElem]
    exact ⟨i, by rw [List.length_zip]; omega, List.getElem_zip⟩
  refine ⟨ws[i], ?_, h.2 i hv hw⟩
  exact Block.write_of_mem (hkeys.symm ▸ hnodup) hmem (hplaces _ (List.getElem_mem hj))

/-- Decoding undoes encoding over a whole block. In any block of full length whose words pass values
of the declared kinds at the places of the parameters, a validated signature finds exactly the
values. Any values that native code can be given can be put there, over whatever the block held:
they have different places, all within the block, and all bits that their kinds do not have are
free. -/
theorem decode_of_liesIn (hb : Signature.of b.held.callback = .ok b.signature)
    (hkinds : vs.map Value.kind = b.signature.params) :
    let places := frameIndices b.signature.params
    (∀ (m : Memory) (block : Block), block.words.length = maxFrameWords →
      List.Forall₂ (fun v j => ∀ w, block.words[j]? = some w → v.LiesIn m w) vs places →
      b.decode m block = .ok vs) ∧
    ∀ m : Memory, (∀ v ∈ vs, v.Passable) →
      Memory.Fits { m with copies := m.copies ++ vs.flatMap Value.copies } →
      ∃ ws m', Value.passAll m vs = some (ws, m') ∧
        ∀ (block : Block) (ws' : List Word), block.words.length = maxFrameWords →
          List.Forall₂ (fun e w' => e.1.kind.Agree w' e.2) (vs.zip ws) ws' →
          let written := block.write (places.zip ws')
          written.words.length = maxFrameWords ∧
            (∀ j ∉ places, written.words[j]? = block.words[j]?) ∧ b.decode m' written = .ok vs := by
  intro places
  have hplaces : ∀ j ∈ places, j < maxFrameWords :=
    (frameIndices_lt_iff _ _).2 (Signature.needed_of_ok hb)
  have hlength : places.length = vs.length := by
    rw [← List.length_map Value.kind, hkinds, frameIndices_length]
  have hread : ∀ (m : Memory) (block : Block),
      List.Forall₂ (fun v j => ∃ w, block.words[j]? = some w ∧ v.LiesIn m w) vs places →
      b.decode m block = .ok vs := by
    intro m block h
    exact decode_of_read hkinds (h.imp fun _ _ ⟨w, hw, hlies⟩ => ⟨w, hw, hlies.ofWord_eq⟩)
  refine ⟨fun m block hblock h => hread m block ?_, fun m hpass hfits => ?_⟩
  · rw [List.forall₂_iff_get] at h ⊢
    refine ⟨h.1, fun i hv hj => ?_⟩
    have hword : places[i] < block.words.length := hblock ▸ hplaces _ (List.getElem_mem hj)
    exact ⟨_, List.getElem?_eq_getElem hword, h.2 i hv hj _ (List.getElem?_eq_getElem hword)⟩
  · obtain ⟨ws, hws, hlies⟩ := Value.passAll_spec hpass m
    refine ⟨ws, _, hws, fun block ws' hblock hagree => ⟨?_, fun j hj => ?_, hread _ _ ?_⟩⟩
    · rw [Block.length_write, hblock]
    · refine Block.write_of_notMem (fun hmem => hj ?_) block
      obtain ⟨e, he, rfl⟩ := List.mem_map.1 hmem
      exact (List.of_mem_zip he).1
    · exact liesIn_write (nodup_frameIndices _) (fun j hj => hblock ▸ hplaces j hj) hlength
        (Value.liesIn_agree (hlies hfits) hagree)

/-- Four values in a block that is full of ones, also in the bits that are free. -/
theorem decode_of_liesIn_all_ones :
    let c : Callback Unit :=
      { params := [.scalar .i16, .scalar .cstring, .scalar .f32, .scalar .bool], results := []
        body := () }
    let b : Binding Unit :=
      { held := { callback := c }
        signature := { params := [.i16, .cstring, .f32, .bool], result := none } }
    let vs : List Value := [⟨.i16, -2⟩, ⟨.cstring, "two"⟩, ⟨.f32, 0x7FC00001⟩, ⟨.bool, true⟩]
    let ones : Block := { words := List.replicate 64 (BitVec.allOnes 64) }
    let ws : List Word :=
      [0xFFFFFFFFFFFFFFFE, Memory.origin, 0xFFFFFFFF7FC00001, 0xFFFFFFFFFFFFFF01]
    Signature.of c = .ok b.signature ∧ vs.map Value.kind = b.signature.params ∧
      b.decode { copies := [Utf8.bytes "two"] } (ones.write ([8, 9, 0, 10].zip ws)) = .ok vs := by
  intro c b vs ones ws
  have hb : Signature.of c = .ok b.signature := rfl
  have hkinds : vs.map Value.kind = b.signature.params := rfl
  have hpass : ∀ v ∈ vs, v.Passable := by simp [vs, Value.Passable, Value.text?]
  have hfits : Memory.Fits { copies := [] ++ vs.flatMap Value.copies } := by
    unfold Memory.Fits
    decide
  obtain ⟨-, hwrite⟩ := decode_of_liesIn hb hkinds
  obtain ⟨ws₀, m', hpassed, hdecode⟩ := hwrite {} hpass hfits
  have hwords : Value.passAll {} vs = some
      ([0xFFFFFFFFFFFFFFFE, Memory.origin, 0x7FC00001, 1], { copies := [Utf8.bytes "two"] }) := rfl
  rw [hwords] at hpassed
  cases hpassed
  have hagree : List.Forall₂ (fun e w' => e.1.kind.Agree w' e.2)
      (vs.zip [0xFFFFFFFFFFFFFFFE, Memory.origin, 0x7FC00001, 1]) ws :=
    .cons rfl (.cons rfl (.cons rfl (.cons rfl .nil)))
  exact ⟨hb, hkinds, (hdecode ones ws rfl hagree).2.2⟩

end Binding

end CallBridge
