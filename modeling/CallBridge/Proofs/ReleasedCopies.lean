import CallBridge.Proofs.CallRefusals
import CallBridge.Proofs.NativeStrings

/-!
Results that point into string arguments. The copies of a call lie behind all that were kept before,
and they are released when its function has returned; the result is read after that. So a function
finds its strings for as long as it runs, and yet a result that points into one of them, as that of a
search in a string does, is read from memory that is up to others by then.
-/

namespace CallBridge

namespace Memory

/-- An address in a copy that begins at `start`, that of its NUL included. -/
def IsIn (copy : List UInt8) (start address : Word) : Prop :=
  start.toNat ≤ address.toNat ∧ address.toNat ≤ start.toNat + copy.length

variable {address : Word}

/-- Once the copies made since are released, an address in any of them is like any other at which no
copy is held. -/
theorem bytesAt_of_isIn {l l' rest : List (List UInt8)} {copy : List UInt8}
    {e e' : Word → List UInt8} (hfits : Fits ⟨l ++ l' ++ copy :: rest, e⟩)
    (h : IsIn copy (top ⟨l ++ l', e⟩) address) :
    ¬ Holds ⟨l, e'⟩ address ∧ bytesAt ⟨l, e'⟩ address = e' address := by
  obtain ⟨hstart, -⟩ := h
  have hroom : origin.toNat + (bytes ⟨l ++ l', e⟩).length < wordCount := by
    unfold Fits at hfits
    rw [bytes_append, bytes_cons] at hfits
    simp only [List.length_append, List.length_cons] at hfits
    omega
  rw [top_toNat hroom, bytes_append, List.length_append] at hstart
  have hout : ¬ Holds ⟨l, e'⟩ address := by
    rintro ⟨-, hend⟩
    have hsame : bytes ⟨l, e'⟩ = bytes ⟨l, e⟩ := rfl
    rw [hsame] at hend
    omega
  have hnull : address ≠ 0 := by
    have horigin : 0 < origin.toNat := by decide
    rintro rfl
    simp only [BitVec.ofNat_eq_ofNat, BitVec.toNat_ofNat, Nat.zero_mod] at hstart
    omega
  exact ⟨hout, by rw [bytesAt, if_neg hout, if_neg hnull]⟩

end Memory

namespace Value

/-- The copies of the arguments before a string lie before its own. -/
theorem copies_split {vs : List Value} {i : Nat} {s : String}
    (h : vs[i]? = some ⟨.cstring, s⟩) :
    vs.flatMap copies =
      (vs.take i).flatMap copies ++ Utf8.bytes s :: (vs.drop (i + 1)).flatMap copies := by
  obtain ⟨hi, hv⟩ := List.getElem?_eq_some_iff.1 h
  conv_lhs => rw [← List.take_append_drop i vs, List.drop_eq_getElem_cons hi, hv]
  rw [List.flatMap_append, List.flatMap_cons]
  rfl

/-- A string is passed as the address behind the copies of the arguments before it. -/
theorem passAll_string {vs : List Value} (hvs : ∀ v ∈ vs, v.Passable) {m m' : Memory}
    {ws : List Word} (hpassed : passAll m vs = some (ws, m')) {i : Nat} {s : String}
    (h : vs[i]? = some ⟨.cstring, s⟩) :
    ws[i]? = some (Memory.top { m with copies := m.copies ++ (vs.take i).flatMap copies }) := by
  induction vs generalizing m ws i with
  | nil => simp at h
  | cons v vs ih =>
    obtain ⟨hv, hvs⟩ := List.forall_mem_cons.1 hvs
    obtain ⟨x, hx, -⟩ := pass?_spec hv m
    obtain ⟨ws', hrest, -⟩ := passAll_spec hvs { m with copies := m.copies ++ v.copies }
    simp only [passAll, hx, hrest, bind, Option.bind, Option.some.injEq, Prod.mk.injEq] at hpassed
    obtain ⟨rfl, rfl⟩ := hpassed
    cases i with
    | zero =>
      cases h
      have hnul : '\x00' ∉ s.toList := hv s rfl
      simp only [pass?, if_neg hnul, Option.some.injEq, Memory.store, Prod.mk.injEq] at hx
      simp [hx.1]
    | succ i =>
      rw [List.getElem?_cons_succ] at h ⊢
      rw [ih hvs hrest h, List.take_succ_cons, List.flatMap_cons, List.append_assoc]

end Value

namespace TypedCall

variable {c : TypedCall} {args : List Value}

/-- Arguments that are all in order are prepared; each string is found at its place, as the address
behind the copies before its own. -/
theorem prepare_strings (hcount : args.length = c.params.length)
    (hfine : ∀ i e, ¬ c.Defect args i e) (m : Memory) :
    (∀ v ∈ args, v.Passable) ∧
    ∃ w, c.prepare m args = .ok ({ m with copies := m.copies ++ args.flatMap Value.copies }, w) ∧
      ∀ i s, args[i]? = some ⟨.cstring, s⟩ → ∃ j, (frameIndices c.params)[i]? = some j ∧
        w.words[j]? = some
          (Memory.top { m with copies := m.copies ++ (args.take i).flatMap Value.copies }) := by
  obtain ⟨w, hprepare⟩ := prepare_of_fine hcount hfine m
  obtain ⟨hpass, hpasses⟩ := passes_of_prepare hprepare
  obtain ⟨ws, hws, hplaced, -⟩ := hpasses.placed
  refine ⟨hpass, w, hprepare, fun i s hi => ?_⟩
  obtain ⟨hword, haddress⟩ := List.getElem?_eq_some_iff.1 (Value.passAll_string hpass hws hi)
  have hplaces : i < (frameIndices c.params).length := hplaced.length_eq ▸ hword
  refine ⟨(frameIndices c.params)[i], List.getElem?_eq_getElem hplaces, ?_⟩
  rw [← haddress]
  exact hplaced.get hplaces hword

end TypedCall

/-- Native code, after which others use the memory that nobody holds and leave `contents` there. -/
def NativeCode.leaving {β η ε : Type} (enter : NativeCode (Process β η ε))
    (contents : Word → List UInt8) : NativeCode (Process β η ε) := fun address w => do
  let r ← enter address w
  Action.modify fun p => { p with memory := { p.memory with elsewhere := contents } }
  pure r

theorem NativeCode.leaving_of_ok {β η ε : Type} {enter : NativeCode (Process β η ε)}
    {address : Word} {w : ArgumentWords} {p q : Process β η ε} {r : ResultWords} {l : List Record}
    (h : enter address w p = ⟨.ok r, q, l⟩) (contents : Word → List UInt8) :
    enter.leaving contents address w p =
      ⟨.ok r, { q with memory := { q.memory with elsewhere := contents } }, l⟩ := by
  unfold leaving
  rw [Action.bind_of_ok h, Action.modify_bind, Action.pure_apply, List.append_nil]

namespace Process

variable {β η ε : Type} {p : Process β η ε} {c : TypedCall} {args : List Value}

/-- A call with a string result that is in order ends with the text that memory has at the result
once the copies of the call are released. -/
theorem call_reads_released {w : ArgumentWords} {s : Settings} {l : List Record}
    (hfunction : c.function ≠ 0) (hresult : c.result = some .cstring)
    (hprepare : c.prepare p.memory args =
      .ok ({ p.memory with copies := p.memory.copies ++ args.flatMap Value.copies }, w))
    (hread : readSettings p = ⟨.ok s, { p with settings := some s }, l⟩)
    {enter : NativeCode (Process β η ε)} {r : ResultWords} {q : Process β η ε} {l' : List Record}
    (hran : enter c.function w (entered { p with settings := some s } args) = ⟨.ok r, q, l'⟩) :
    ∃ err, (call enter c args p).ended =
      .ok (.ok (some ⟨.cstring, (q.memory.release p.memory.copies.length).textAt r.r1⟩, err)) := by
  have hvalue : ∀ m, r.value? m c.result = some ⟨.cstring, m.textAt r.r1⟩ := by
    intro m
    rw [hresult]
    rfl
  refine ⟨if s.captureErrno then q.errorWord else 0, ?_⟩
  rw [call_of_words hfunction hprepare hread, hran, leaveCall_of_returned, hvalue]

/-- A result that points into a string argument is lost. A call that is in order finds each of its
strings in memory when the function is entered, at the address that the function is given for it. If
the function leaves the copies of earlier calls alone and returns an address in the copy, its start or
any other, the call ends well, but by then no copy is held there. So the result is what is found in
released memory, which may be any text. -/
theorem call_loses_strings (hrefused : ∀ e, ¬ c.Refused args e)
    (hsettings : ∀ n, ¬ p.Misconfigured n) (hresult : c.result = some .cstring)
    (hfits : Memory.Fits { p.memory with copies := p.memory.copies ++ args.flatMap Value.copies }) :
    ∃ w q, c.prepare p.memory args = .ok (q.memory, w) ∧
      ∀ (i : Nat) (s : String), args[i]? = some ⟨.cstring, s⟩ → ∃ j start,
      (frameIndices c.params)[i]? = some j ∧ w.words[j]? = some start ∧
      q.memory.textAt start = s ∧
      ∀ (enter : NativeCode (Process β η ε)) (r : ResultWords) (q' : Process β η ε)
        (l : List Record), enter c.function w q = ⟨.ok r, q', l⟩ →
        q'.memory.copies.take p.memory.copies.length = p.memory.copies →
        Memory.IsIn (Utf8.bytes s) start r.r1 →
        let released := q'.memory.release p.memory.copies.length
        ¬ released.Holds r.r1 ∧ released.bytesAt r.r1 = q'.memory.elsewhere r.r1 ∧
        (∃ err, (call enter c args p).ended =
          .ok (.ok (some ⟨.cstring, released.textAt r.r1⟩, err))) ∧
        ∀ text : String, '\x00' ∉ text.toList → ∃ contents err,
          (call (enter.leaving contents) c args p).ended =
            .ok (.ok (some ⟨.cstring, text⟩, err)) := by
  obtain ⟨hcount, hfine, hfunction⟩ := TypedCall.fine_of_not_refused hrefused
  obtain ⟨settings, l, hread⟩ := readSettings_of_not hsettings
  obtain ⟨hpass, w, hprepare, hstrings⟩ := TypedCall.prepare_strings hcount hfine p.memory
  refine ⟨w, entered { p with settings := some settings } args, ?_, fun i s hi => ?_⟩
  · rw [entered_memory]
    exact hprepare
  obtain ⟨j, hj, hword⟩ := hstrings i s hi
  have hsplit := Value.copies_split hi
  rw [hsplit, ← List.append_assoc] at hfits
  refine ⟨j, _, hj, hword, ?_, fun enter r q' l' hran hkept hpoints => ?_⟩
  · have hnul : '\x00' ∉ s.toList := hpass _ (List.mem_of_getElem? hi) s rfl
    rw [entered_memory, hsplit, ← List.append_assoc]
    exact Memory.textAt_of_bytes (Memory.holdsAt_copy hfits) hnul
  have hgone : ∀ contents, ¬ Memory.Holds ⟨p.memory.copies, contents⟩ r.r1 ∧
      Memory.bytesAt ⟨p.memory.copies, contents⟩ r.r1 = contents r.r1 :=
    fun contents => Memory.bytesAt_of_isIn hfits hpoints
  have hleft : ∀ contents, Memory.release ⟨q'.memory.copies, contents⟩ p.memory.copies.length =
      ⟨p.memory.copies, contents⟩ := fun contents => congrArg (Memory.mk · contents) hkept
  have hreleased := hgone q'.memory.elsewhere
  rw [← hleft] at hreleased
  refine ⟨hreleased.1, hreleased.2,
    call_reads_released hfunction hresult hprepare hread hran, fun text hnul => ?_⟩
  let contents : Word → List UInt8 := fun _ => Utf8.bytes text ++ [0]
  have htext : Memory.textAt ⟨p.memory.copies, contents⟩ r.r1 = text := by
    rw [Memory.textAt, Memory.stringAt, (hgone contents).2,
      Memory.takeWhile_ne_zero (Utf8.zero_notMem_bytes hnul), Utf8.bytes, Utf8.decodeLossy_encode,
      String.ofList_toList]
  obtain ⟨err, hended⟩ := call_reads_released hfunction hresult hprepare hread
    (NativeCode.leaving_of_ok hran contents)
  rw [hleft, htext] at hended
  exact ⟨contents, err, hended⟩

/-- A search that finds the second character of its second argument. It is gone when the caller reads
what the search came to, and what others left there is taken for it. -/
theorem call_loses_strings_second :
    let p : Process Unit Empty Unit :=
      { files := .ofFiles "" [], nativeBase := 0x400000
        memory := { elsewhere := fun _ => [0x78, 0, 0x79] }, client := () }
    let c : TypedCall :=
      { function := 0x500000, params := [.i32, .cstring], result := some .cstring }
    let args : List Value := [⟨.i32, 7⟩, ⟨.cstring, "a=b"⟩]
    let search : NativeCode (Process Unit Empty Unit) := fun _ w => pure { r1 := w.ints[1] + 1 }
    (∀ e, ¬ c.Refused args e) ∧ (∀ n, ¬ p.Misconfigured n) ∧
      Memory.Fits { p.memory with copies := p.memory.copies ++ args.flatMap Value.copies } ∧
      (∃ err, (call search c args p).ended = .ok (.ok (some ⟨.cstring, "x"⟩, err))) ∧
      ∃ contents err, (call (search.leaving contents) c args p).ended =
        .ok (.ok (some ⟨.cstring, "other"⟩, err)) := by
  intro p c args search
  have hpass : ∀ v ∈ args, v.Passable := by simp [args, Value.Passable, Value.text?]
  have hrefused : ∀ e, ¬ c.Refused args e :=
    TypedCall.not_refused_of_fine rfl hpass (by decide) (by decide)
  have hsettings : ∀ n, ¬ p.Misconfigured n := by
    rintro n ⟨-, hn⟩
    cases hn
  have hfits : Memory.Fits
      { p.memory with copies := p.memory.copies ++ args.flatMap Value.copies } := by
    unfold Memory.Fits
    decide
  obtain ⟨w, q, hprepared, hstrings⟩ := call_loses_strings (p := p) hrefused hsettings rfl hfits
  obtain ⟨j, start, hj, hword, -, hlost⟩ := hstrings 1 "a=b" rfl
  have hmemory : q.memory = ⟨[Utf8.bytes "a=b"], p.memory.elsewhere⟩ ∧
      w.ints[1] = Memory.origin := by
    have hends := Except.ok.inj hprepared
    exact ⟨congrArg Prod.fst hends.symm, congrArg (·.2.ints[1]) hends.symm⟩
  have hstart : start = Memory.origin := by
    cases hj
    have hint := (w.words_ints 1).symm.trans hword
    rw [Vector.getElem?_toList, Vector.getElem?_eq_getElem (by decide), hmemory.2] at hint
    exact (Option.some.inj hint).symm
  obtain ⟨-, hfound, hended, htexts⟩ := hlost search { r1 := w.ints[1] + 1 } q [] rfl rfl (by
    rw [hmemory.2, hstart]
    exact ⟨by decide, by decide⟩)
  have htext : (q.memory.release p.memory.copies.length).textAt (w.ints[1] + 1) = "x" := by
    have hleft : String.ofList (Utf8.decodeLossy ([0x78, 0, 0x79].takeWhile (· ≠ 0))) = "x" := by
      decide +kernel
    rw [Memory.textAt, Memory.stringAt, hfound, hmemory.1]
    exact hleft
  rw [htext] at hended
  exact ⟨hrefused, hsettings, hfits, hended, htexts "other" (by decide)⟩

/-- A function that returns its only argument. The string is in memory when the function is entered,
but the answer is what is left of it: nothing if its first byte was cleared, another text if another
copy was put in its place. -/
theorem echoed_string_lost :
    let p (left : List UInt8) : Process Unit Empty Unit :=
      { files := .ofFiles "" [], nativeBase := 0x400000, settings := some {}
        memory := { elsewhere := fun _ => left }, client := () }
    let c : TypedCall := { function := 0x500000, params := [.cstring], result := some .cstring }
    let args : List Value := [⟨.cstring, "hello"⟩]
    let echo : NativeCode (Process Unit Empty Unit) := fun _ w => pure { r1 := w.ints[0] }
    (∀ left, ∃ m w, c.prepare (p left).memory args = .ok (m, w) ∧ m.textAt w.ints[0] = "hello") ∧
      (call echo c args (p (0 :: Utf8.bytes "ello"))).ended =
        .ok (.ok (some ⟨.cstring, ""⟩, 0)) ∧
      (call echo c args (p (Utf8.bytes "other"))).ended =
        .ok (.ok (some ⟨.cstring, "other"⟩, 0)) := by
  intro p c args echo
  have hroom : Memory.origin.toNat + 6 ≤ wordCount := by decide
  have hfits : ∀ left, Memory.Fits ⟨[] ++ [Utf8.bytes "hello"], fun _ => left⟩ := fun _ => hroom
  refine ⟨fun left => ⟨_, _, rfl, ?_⟩, ?_, ?_⟩
  · exact Memory.textAt_of_bytes (Memory.holdsAt_copy (hfits left)) (by decide)
  · decide +kernel
  · decide +kernel

end Process

end CallBridge
