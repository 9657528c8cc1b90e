import CallBridge.Proofs.IntegerCalls
import CallBridge.Proofs.ResultEncoding

/-!
What calls with bare words bring to callbacks. The caller does not know the kinds of the parameters,
so it puts the first eight words both into integer and into float registers. Each parameter then finds
its word at a number that depends on the kinds of the parameters before it: the registers of the two
classes hold the same words, and the stack words go on behind the sixth.
-/

namespace CallBridge

/-- The dispatcher finds at each place the word that an untyped call puts there. -/
theorem ArgumentWords.loaded_block_of_words {w : ArgumentWords} {words : List Word}
    (hints : w.ints.toList = words ++ List.replicate (15 - words.length) 0)
    (hfloats : w.floats.toList = w.ints.toList.take 8) (hwords : words.length ≤ 15) {l : Location}
    (hl : l.InFrame) (beyond : Nat → Word) :
    (w.loaded beyond).block[l.frameIndex]? = some (words.getD l.wordNumber 0) := by
  have h6 : intRegisterCount = 6 := rfl
  have h8 : floatRegisterCount = 8 := rfl
  have h15 : maxCallArgs = 15 := rfl
  have hint : ∀ n < 15, w.ints.toList[n]? = some (words.getD n 0) := by
    intro n hn
    rw [hints, List.getD_eq_getElem?_getD]
    rcases Nat.lt_or_ge n words.length with hlt | hge
    · rw [List.getElem?_append_left hlt, List.getElem?_eq_getElem hlt]
      rfl
    · rw [List.getElem?_append_right hge, List.getElem?_replicate_of_lt (by omega),
        List.getElem?_eq_none hge]
      rfl
  have hback : ∀ n < 15, (w.loaded beyond).block[8 + n]? = some (words.getD n 0) :=
    fun n hn => (w.loaded_block_ints beyond hn).trans (hint n hn)
  cases l with
  | intRegister n =>
    rw [Location.InFrame, h6] at hl
    exact hback n (by omega)
  | floatRegister n =>
    rw [Location.InFrame, h8] at hl
    rw [Location.frameIndex, Location.wordNumber, w.loaded_block_floats beyond hl, hfloats,
      List.getElem?_take_of_lt hl, hint n (by omega)]
  | stack n =>
    rw [Location.InFrame, h6, h15] at hl
    rw [Location.frameIndex, Location.wordNumber, h6, h8, Nat.add_assoc]
    exact hback (6 + n) hl

/-- The arguments that parameters of the listed kinds get from a call with bare words; words that
are missing are zero. -/
def delivered (m : Memory) (params : List Kind) (words : List Word) : List Value :=
  params.mapIdx fun i k => .ofWord m k (words.getD (wordNumber (params.take i) k) 0)

theorem map_kind_delivered (m : Memory) (params : List Kind) (words : List Word) :
    (delivered m params words).map Value.kind = params := by
  refine List.ext_getElem (by simp [delivered]) fun i _ _ => ?_
  simp only [delivered, List.getElem_map, List.getElem_mapIdx, Value.ofWord]

theorem delivered_of_integer {params : List Kind} (h : ∀ k ∈ params, k.registerClass = .integer)
    (m : Memory) (words : List Word) :
    delivered m params words = params.mapIdx fun i k => .ofWord m k (words.getD i 0) := by
  refine List.ext_getElem (by simp [delivered]) fun i hi _ => ?_
  rw [delivered, List.length_mapIdx] at hi
  have hnumber : wordNumber (params.take i) params[i] = i := by
    have htake : ∀ k ∈ params.take i, k.registerClass = .integer :=
      fun k hk => h k (List.mem_of_mem_take hk)
    rw [wordNumber_of_integer htake (h _ (List.getElem_mem hi)), List.length_take,
      Nat.min_eq_left hi.le]
  simp only [delivered, List.getElem_mapIdx, hnumber]

namespace Binding

/-- Parameters that fit a frame get their arguments from the words of an untyped call. -/
theorem decode_of_words {β : Type} {b : Binding β} (hspilled : spilledWords b.signature.params ≤ 9)
    {w : ArgumentWords} {words : List Word}
    (hints : w.ints.toList = words ++ List.replicate (15 - words.length) 0)
    (hfloats : w.floats.toList = w.ints.toList.take 8) (hwords : words.length ≤ 15)
    (beyond : Nat → Word) (m : Memory) :
    b.decode m { words := (w.loaded beyond).block } =
      .ok (delivered m b.signature.params words) := by
  obtain ⟨held, params, result⟩ := b
  dsimp only at hspilled ⊢
  refine decode_of_read (map_kind_delivered m params words)
    (List.forall₂_iff_get.2 ⟨by simp [delivered, frameIndices_length], fun i hi _ => ?_⟩)
  have hparam : i < params.length := by simpa [delivered] using hi
  have hfits : spilledWords (params.take i ++ [params[i]]) ≤ 9 := by
    rw [← List.take_succ_eq_append_getElem hparam]
    exact (spilledWords_mono (List.take_prefix _ _)).trans hspilled
  have hword := ArgumentWords.loaded_block_of_words hints hfloats hwords
    (Classifier.inFrame_place_behind hfits) beyond
  rw [Classifier.wordNumber_place_behind] at hword
  have hindex : (frameIndices params)[i]? = some
      ((Classifier.behind (params.take i)).place params[i].registerClass).1.frameIndex := by
    rw [frameIndices_getElem?, List.getElem?_eq_getElem hparam]
    rfl
  obtain ⟨_, hplace⟩ := List.getElem?_eq_some_iff.1 hindex
  have hvalue : (delivered m params words)[i] =
      .ofWord m params[i] (words.getD (wordNumber (params.take i) params[i]) 0) := by
    simp only [delivered, List.getElem_mapIdx]
  refine ⟨words.getD (wordNumber (params.take i) params[i]) 0, ?_, ?_⟩
  · simp only [List.get_eq_getElem, hplace, hword]
  · rw [List.get_eq_getElem, hvalue]
    rfl

end Binding

namespace Process

variable {β η ε : Type} {p : Process β η ε}

theorem entered_nil (p : Process β η ε) : p.entered [] = clearErrno (p.settings.getD {}) p := by
  unfold entered
  rw [List.flatMap_nil, List.append_nil]

/-- No panic behind an entry goes back into native code. -/
theorem leaveEntry_of_panic {r : Run (Process β η ε) (Except RegistrationError (Option Word))}
    {e : Panic} (h : r.ended = .error (.panic e)) (left : ResultWords) :
    (leaveEntry left r).ended = .error .abort := by
  obtain ⟨ended, q, l⟩ := r
  cases h
  rfl

section Bound

variable {t : Trampoline β} {k : Nat} {s : Slot β} {words : List Word}

/-- An untyped call of a slot in use runs the body on what the words deliver, and comes back with the
word of what the body returned. -/
theorem callWords_of_bound (hn : p.native = .ready t) (h : p.Holds t) (hbase : p.nativeBase ≠ 0)
    (hs : t.registry.slot? k = some s) (hspilled : spilledWords s.binding.signature.params ≤ 9)
    (hwords : words.length ≤ 15)
    (body : β → List Value → Action (Process β η ε) (Option Value)) (around : Surroundings) :
    let args := delivered p.memory s.binding.signature.params words
    let ran := body s.binding.held.callback.body args (p.entered [])
    let called := callWords (enterTable { memory := Process.memory, body } around) s.address words p
    .event (.nativeCall s.address) :: .event (.callbackInvoked k) :: ran.records <+:
        called.records ∧
      ∀ returned, ran.ended = .ok returned →
        (∀ e, Binding.encode s.binding.signature returned = .ok e →
          ∃ f, called.ended = .ok (.ok f) ∧ f.r1 = e.word?.getD 0) ∧
        ∀ v, Binding.encode s.binding.signature returned = .error v →
          called.ended = .error .abort := by
  intro args ran called
  let x : Execution β (Process β η ε) := { memory := Process.memory, body }
  obtain ⟨settings, hsettings⟩ := Option.isSome_iff_exists.1 h.settled
  have hentered : p.entered [] = clearErrno settings p := by
    rw [entered_nil, hsettings]
    rfl
  have hagrees := p.entered_agrees []
  have hready := hagrees.native.trans hn
  have hholds := h.agrees hagrees
  obtain ⟨w, hints, hfloats, hcall⟩ := callWords_of_short hwords s.address
  let frame : Frame := { function := s.address, words := w }
  let e : EntryWords := w.loaded around.stack
  have hframe : called =
      ((leaveFrame frame settings (enterEntry x around.left s.address e (p.entered []))).after
        [.event (.nativeCall s.address)]).map accepted := by
    show callWords _ _ _ p = _
    rw [hcall, hentered,
      callFrame_of_read (h.address_ne_zero hbase hs) (readSettings_of_some hsettings)]
    rfl
  have hd : s.binding.decode (x.memory (p.entered [])) { words := e.block } = .ok args := by
    have hmemory : x.memory (p.entered []) = p.memory := by
      show (p.entered []).memory = _
      rw [entered_memory, List.flatMap_nil, List.append_nil]
    rw [hmemory]
    exact Binding.decode_of_words hspilled hints hfloats hwords around.stack p.memory
  obtain ⟨hrecords, -⟩ := enterEntry_of_bound (x := x) hready hholds hs hd around.left
  refine ⟨?_, fun returned hreturned => ?_⟩
  · rw [hframe]
    refine (List.prefix_cons_inj _).2 (List.IsPrefix.trans ?_ (leaveFrame_records _ _ _))
    refine List.IsPrefix.trans ((List.prefix_cons_inj _).2 ?_) hrecords
    exact Action.records_prefix_bind _ _ _
  · have hran : body s.binding.held.callback.body args (p.entered []) =
        ⟨.ok returned, ran.state, ran.records⟩ := by rw [← hreturned]
    obtain ⟨hencoded, hviolated⟩ := Binding.invoke_of_returned (x := x) hd hran
    have henter := enterEntry_of_slot hready hholds hs x around.left e
    -- A violation is a panic behind the entry, which native code does not see.
    rw [hframe]
    refine ⟨fun e he => ?_, fun v hv => ?_⟩
    · rw [Binding.runAt_of_ok (hencoded e he)] at henter
      obtain ⟨err, hended⟩ := leaveFrame_of_ok (congrArg Run.ended henter) frame settings
      exact ⟨_, Run.map_ended.2 ⟨_, hended, rfl⟩, rfl⟩
    · obtain ⟨hended, -⟩ := s.binding.runAt_spec x k { words := e.block } (p.entered [])
      rw [hviolated v hv] at hended
      have hstopped : (enterEntry x around.left s.address e (p.entered [])).ended =
          .error .abort := by
        rw [henter]
        exact leaveEntry_of_panic hended _
      exact congrArg (Except.map accepted) (leaveFrame_of_error hstopped frame settings)

end Bound

/-- What a call with bare words brings to a callback that is live behind the library's own table, in
any state of any run. Its parameters get the words that the kinds of the earlier ones tell: among the
first six integers and the first eight floats each class counts for itself, and whatever is left over
goes on behind the sixth word in the order of the parameters. So a callback without floats gets just
the words in their order. When the body returns, the first result word is what its value became, and
zero if no result is declared. No library's table lies at the null address. -/
theorem callWords_delivers [Registrar η β] (hp : p.Reached) {a : Word} {c : Callback β}
    (hlive : p.LiveAt a c) (hbase : p.nativeBase ≠ 0) {s : Signature}
    (hs : Signature.of c = .ok s) (hspilled : spilledWords s.params ≤ 9) {words : List Word}
    (hwords : words.length ≤ 15)
    (body : β → List Value → Action (Process β η ε) (Option Value)) (around : Surroundings) :
    let args := delivered p.memory s.params words
    let ran := body c.body args (p.entered [])
    let called := callWords (enterTable { memory := Process.memory, body } around) a words p
    (∃ k, .event (.nativeCall a) :: .event (.callbackInvoked k) :: ran.records <+:
      called.records) ∧
    ((∀ k ∈ s.params, k.registerClass = .integer) →
      args = s.params.mapIdx fun i k => .ofWord p.memory k (words.getD i 0)) ∧
    ∀ returned, ran.ended = .ok returned →
      (s.result = none → ∃ f, called.ended = .ok (.ok f) ∧ f.r1 = 0) ∧
      ∀ k, s.result = some k →
        (∀ data : k.Carrier, returned = some ⟨k, data⟩ →
          ∃ f, called.ended = .ok (.ok f) ∧ k.ExtendsTo data f.r1 ∧
            ∀ m, k.ofWord m f.r1 = data) ∧
        (returned.map Value.kind ≠ some k → called.ended = .error .abort) := by
  intro args ran called
  obtain ⟨t, k, slot, hn, ha, hslot, rfl⟩ := hlive
  have h : p.Holds t := hp.sound t hn
  obtain ⟨slot', hslot', rfl⟩ := h.sound.indexed.slotAt_iff.1 ha
  rw [hslot] at hslot'
  cases hslot'
  have hsignature : slot.binding.signature = s := by
    have hvalid : Signature.of slot.binding.held.callback = .ok slot.binding.signature :=
      h.sound.validated k slot hslot
    rw [hs] at hvalid
    exact (Except.ok.inj hvalid).symm
  subst hsignature
  obtain ⟨hrecords, hreturn⟩ := callWords_of_bound hn h hbase hslot hspilled hwords body around
  refine ⟨⟨k, hrecords⟩, fun hints => delivered_of_integer hints _ _, fun returned hreturned => ?_⟩
  obtain ⟨hencoded, hviolated⟩ := hreturn returned hreturned
  refine ⟨fun hnone => ?_, fun kind hkind => ⟨?_, fun hother => ?_⟩⟩
  · obtain ⟨e, he, hword, -⟩ := Binding.encode_of_undeclared hnone returned
    obtain ⟨f, hended, hr⟩ := hencoded e he
    exact ⟨f, hended, by rw [hr, hword]; rfl⟩
  · rintro data rfl
    have hreturnable := Signature.returnable_of_ok hs kind hkind
    obtain ⟨w, he, hextends, hreads⟩ := Binding.encode_of_declared hkind hreturnable data
    obtain ⟨f, hended, hr⟩ := hencoded _ he
    have hr1 : f.r1 = w := hr
    exact ⟨f, hended, hr1 ▸ hextends, hr1 ▸ hreads⟩
  · exact hviolated _ (Binding.encode_of_other hkind hother)

/-- Two integers with a float between them: the float finds the word of the first integer, and the
second integer the second word. The callback answers only if it got these. -/
theorem callWords_delivers_mixed :
    let fresh : Process Unit Empty Unit :=
      { files := .ofFiles "" [], nativeBase := 0x400000, client := () }
    let c : Callback Unit :=
      { params := [.scalar .u8, .scalar .f64, .scalar .i16], results := [.scalar .i16], body := () }
    let p := (register c (install { capacity := 2 } fresh).state).state
    let body := fun (_ : Unit) (got : List Value) =>
      (pure (if got = [⟨.u8, 7⟩, ⟨.f64, 0x107⟩, ⟨.i16, -2⟩] then some ⟨.i16, -2⟩ else none) :
        Action (Process Unit Empty Unit) (Option Value))
    ∃ f, (callWords (enterTable { memory := Process.memory, body } {}) 0x400000
        [0x107, 0xFFFE, 9] p).ended = .ok (.ok f) ∧ f.r1 = 0xFFFFFFFFFFFFFFFE := by
  intro fresh c p body
  have hsettled : (install { capacity := 2 } fresh).state.Reached :=
    (Reached.fresh ⟨rfl, rfl, rfl⟩).next (.installs _)
  have hp : p.Reached := hsettled.next (.registers c)
  have hlive : p.LiveAt 0x400000 c := register_liveAt hsettled.sound rfl rfl
  have hs : Signature.of c = .ok { params := [.u8, .f64, .i16], result := some .i16 } := rfl
  have hwords : ([0x107, 0xFFFE, 9] : List Word).length ≤ 15 := by decide
  obtain ⟨-, -, hreturn⟩ := callWords_delivers hp hlive (by decide) hs (by decide) hwords body {}
  obtain ⟨-, hdeclared⟩ := hreturn (some ⟨.i16, -2⟩) (by rfl)
  obtain ⟨f, hended, hextends, -⟩ := (hdeclared .i16 rfl).1 (-2) rfl
  exact ⟨f, hended, BitVec.eq_of_toInt_eq hextends⟩

end Process

end CallBridge
