import CallBridge.Process.Entry
import CallBridge.Proofs.Invocations
import CallBridge.Proofs.ProcessRuns

/-!
A callback behind the library's own table has three names: the entry at which native code calls it,
the address that was issued for it, and the number of its slot. The entry finds the slot by
arithmetic on the mark that it leaves, the address by the index of the table; both come to the same
slot in every state of every run.
-/

namespace CallBridge

/-- The mark that an entry leaves tells its slot, wherever the table begins: offsets from its start
only have to be words. -/
theorem EntryTable.slotOf_marker (t : EntryTable) {k : Nat} (hstride : 0 < t.stride.toNat)
    (hoffset : (k + 1) * t.stride.toNat < wordCount) : t.slotOf (t.marker (t.entry k)) = k := by
  have hoff : t.marker (t.entry k) - t.base = BitVec.ofNat 64 ((k + 1) * t.stride.toNat) := by
    have hentry : BitVec.ofNat 64 k * t.stride = BitVec.ofNat 64 (k * t.stride.toNat) := by
      rw [BitVec.ofNat_mul, BitVec.ofNat_toNat, BitVec.setWidth_eq]
    rw [marker, entry, hentry, Nat.succ_mul, BitVec.ofNat_add, BitVec.ofNat_toNat,
      BitVec.setWidth_eq, BitVec.add_assoc, BitVec.add_comm, BitVec.add_sub_cancel]
  have hnat : (BitVec.ofNat 64 ((k + 1) * t.stride.toNat)).toNat = (k + 1) * t.stride.toNat := by
    rw [BitVec.toNat_ofNat]
    exact Nat.mod_eq_of_lt hoffset
  have hk : k + 1 < wordCount := lt_of_le_of_lt (Nat.le_mul_of_pos_right _ hstride) hoffset
  have hone : (1 : Word).toNat = 1 := rfl
  rw [slotOf, hoff, BitVec.toNat_sub, BitVec.toNat_udiv, hnat, Nat.mul_div_cancel _ hstride, hone]
  unfold wordCount at hk
  omega

/-- Native code that enters the library's own table leaves the mark of the slot that it entered. -/
theorem EntryTable.slotOf_native_marker (base : Word) {k : Nat} (hk : k < maxCallbacks) :
    (EntryTable.native base).slotOf
      ((EntryTable.native base).marker ((EntryTable.native base).entry k)) = k := by
  have hbound : k < 2000 := hk
  have hstride : (EntryTable.native base).stride.toNat = 5 := rfl
  refine slotOf_marker _ (by omega) ?_
  rw [hstride, wordCount]
  omega

/-- Different entries of a table leave different marks. -/
theorem EntryTable.marker_injective (t : EntryTable) {j k : Nat} (hstride : 0 < t.stride.toNat)
    (hj : (j + 1) * t.stride.toNat < wordCount) (hk : (k + 1) * t.stride.toNat < wordCount)
    (h : t.marker (t.entry j) = t.marker (t.entry k)) : j = k := by
  rw [← t.slotOf_marker hstride hj, h, t.slotOf_marker hstride hk]

namespace EntryWords

/-- A block with all that a function found when it was entered: the float registers, behind them the
integer registers, and then the stack of the caller up to the end of the block. -/
structure Spills (e : EntryWords) (block : Block) : Prop where
  length : block.words.length = maxFrameWords
  floats : ∀ n (_ : n < floatRegisterCount), block.words[n]? = some e.floats[n]
  ints : ∀ n (_ : n < intRegisterCount), block.words[floatRegisterCount + n]? = some e.ints[n]
  stack : ∀ n, floatRegisterCount + intRegisterCount + n < maxFrameWords →
    block.words[floatRegisterCount + intRegisterCount + n]? = some (e.stack n)

variable {e : EntryWords} {block block' : Block}

theorem spills_block (e : EntryWords) : e.Spills { words := e.block } := by
  have hfloats : e.floats.toList.length = floatRegisterCount := e.floats.length_toList
  have hints : e.ints.toList.length = intRegisterCount := e.ints.length_toList
  have hregisters : (e.floats.toList ++ e.ints.toList).length =
      floatRegisterCount + intRegisterCount := by rw [List.length_append, hfloats, hints]
  refine ⟨?_, fun n hn => ?_, fun n hn => ?_, fun n hn => ?_⟩
  · rw [block, List.length_append, hregisters, List.length_map, List.length_range]
    rfl
  · rw [block, List.append_assoc, List.getElem?_append_left (hfloats.symm ▸ hn)]
    simp [hn]
  · rw [block, List.append_assoc, List.getElem?_append_right (by omega), hfloats,
      Nat.add_sub_cancel_left, List.getElem?_append_left (hints.symm ▸ hn)]
    simp [hn]
  · rw [block, List.getElem?_append_right (by omega), hregisters, Nat.add_sub_cancel_left,
      List.getElem?_map, List.getElem?_range (by omega)]
    rfl

/-- There is just one such block. -/
theorem Spills.unique (h : e.Spills block) (h' : e.Spills block') : block' = block := by
  have hwords : block'.words = block.words := by
    refine List.ext_getElem? fun j => ?_
    rcases Nat.lt_or_ge j floatRegisterCount with hj | hj
    · rw [h.floats j hj, h'.floats j hj]
    obtain ⟨n, rfl⟩ := Nat.exists_eq_add_of_le hj
    rcases Nat.lt_or_ge n intRegisterCount with hn | hn
    · rw [h.ints n hn, h'.ints n hn]
    obtain ⟨n, rfl⟩ := Nat.exists_eq_add_of_le hn
    rw [← Nat.add_assoc]
    rcases Nat.lt_or_ge (floatRegisterCount + intRegisterCount + n) maxFrameWords with hlt | hge
    · rw [h.stack n hlt, h'.stack n hlt]
    · rw [List.getElem?_eq_none (h'.length ▸ hge), List.getElem?_eq_none (h.length ▸ hge)]
  exact congrArg Block.mk hwords

end EntryWords

namespace Process

variable {β η ε : Type} {p : Process β η ε} {t : Trampoline β} {k : Nat}

/-- How native code sees the end of a dispatch: as a word, which is zero if there is no result. What
the other result registers hold is not of the dispatch's making. An error or a panic ends the
process. -/
def leaveEntry (left : ResultWords) :
    Run (Process β η ε) (Except RegistrationError (Option Word)) → Run (Process β η ε) ResultWords
  | ⟨.ok (.ok result), q, l⟩ => ⟨.ok { left with r1 := result.getD 0 }, q, l⟩
  | ⟨.ok (.error e), q, l⟩ => ⟨.error .abort, q, l ++ [.event (.dispatchFailed e)]⟩
  | ⟨.error (.panic _), q, l⟩ =>
    ⟨.error .abort, q, l ++ [.event (.invariantViolated "panic escaped a native callback" "")]⟩
  | ⟨.error e, q, l⟩ => ⟨.error e, q, l⟩

/-- Behind an entry stands the dispatch of the slot that the mark tells. -/
theorem dispatchEntry_run (hn : p.native = .ready t) (x : Execution β (Process β η ε))
    (marker : Word) (block : Block) :
    (nativeTrampoline >>= fun t => dispatch x nativeRegistry (t.table.slotOf marker) block) p =
      dispatch x nativeRegistry (t.table.slotOf marker) block p := by
  rw [Action.bind_of_ok (nativeTrampoline_of_ready hn)]
  rfl

/-- Entering the library's own table is dispatching, as native code sees it. -/
theorem enterEntry_eq (hn : p.native = .ready t) (htable : t.table = .native p.nativeBase)
    (x : Execution β (Process β η ε)) (left : ResultWords) (a : Word) (e : EntryWords) :
    enterEntry x left a e p = leaveEntry left
      (dispatch x nativeRegistry (t.table.slotOf (t.table.marker a)) { words := e.block } p) := by
  have hrun := dispatchEntry_run hn x (t.table.marker a) { words := e.block }
  unfold enterEntry dispatchEntry
  rw [Action.get_bind, ← htable]
  cases hr : dispatch x nativeRegistry (t.table.slotOf (t.table.marker a))
      { words := e.block } p with
  | mk ended q l =>
    rw [hr] at hrun
    rcases ended with (e | - | -) | (e | result)
    · rw [Action.bind_of_error (Action.bind_of_ok (Action.attempt_of_panic hrun))]
      rfl
    · rw [Action.bind_of_error (Action.bind_of_error (Action.attempt_of_abort hrun))]
      rfl
    · rw [Action.bind_of_error (Action.bind_of_error (Action.attempt_of_exhausted hrun))]
      rfl
    · rw [Action.bind_of_error (Action.bind_of_ok (Action.attempt_of_ok hrun))]
      rfl
    · rw [Action.bind_of_ok (Action.bind_of_ok (Action.attempt_of_ok hrun))]
      simp only [Action.pure_apply, List.append_nil]
      rfl

/-- Nothing that was reported is taken back. -/
theorem leaveEntry_records (left : ResultWords)
    (r : Run (Process β η ε) (Except RegistrationError (Option Word))) :
    r.records <+: (leaveEntry left r).records := by
  rcases r with ⟨(e | - | -) | (e | result), q, l⟩
  · exact List.prefix_append l _
  · exact List.prefix_rfl
  · exact List.prefix_rfl
  · exact List.prefix_append l _
  · exact List.prefix_rfl

/-- The address of a slot in use lies at a distance from the start of the table that its entry marks. -/
theorem Holds.slot_spec (h : p.Holds t) {s : Slot β} (hs : t.registry.slot? k = some s) :
    k < t.capacity ∧ s.address.toNat = p.nativeBase.toNat + 5 * k ∧
      t.table.slotOf (t.table.marker s.address) = k := by
  have hlocated := h.sound.indexed.entry_slot hs
  rw [h.table] at hlocated
  obtain ⟨haddress, hnat⟩ := native_locate_eq_ok hlocated
  have hk : k < t.capacity := h.sound.accounted.slot_lt hs
  refine ⟨hk, by omega, ?_⟩
  rw [h.table, haddress]
  exact EntryTable.slotOf_native_marker p.nativeBase (Nat.lt_of_lt_of_le hk h.capacity)

/-- No entry lies at the null address, for the table does not begin there. -/
theorem Holds.address_ne_zero (h : p.Holds t) (hbase : p.nativeBase ≠ 0) {s : Slot β}
    (hs : t.registry.slot? k = some s) : s.address ≠ 0 := by
  obtain ⟨-, haddress, -⟩ := h.slot_spec hs
  intro hzero
  rw [hzero] at haddress
  exact hbase (BitVec.eq_of_toNat_eq (Nat.add_eq_zero_iff.1 haddress.symm).1)

/-- Entering at the address of a slot in use runs its binding, as native code sees it. -/
theorem enterEntry_of_slot (hn : p.native = .ready t) (h : p.Holds t) {s : Slot β}
    (hs : t.registry.slot? k = some s) (x : Execution β (Process β η ε)) (left : ResultWords)
    (e : EntryWords) : enterEntry x left s.address e p =
      leaveEntry left (s.binding.runAt x k { words := e.block } p) := by
  obtain ⟨-, -, hmark⟩ := h.slot_spec hs
  have hregistry : (nativeRegistry p).slot? k = some s := by simp only [nativeRegistry, hn, hs]
  rw [enterEntry_eq hn h.table, hmark, dispatch_of_bound hregistry]

/-- The three names of a callback behind the library's own table, in any state of any run. Addresses
lie five bytes apart from the start of the table on, one for each slot of a capacity that the
settings name. Native code that enters at the address of a slot in use, with whatever words in
registers and on the stack, runs the binding that dispatching the address and dispatching the slot
run, on the block that holds those words, and gets its result word. Behind all this is that a mark
tells its slot, for any table whose marks are words. -/
theorem entry_address_slot [Registrar η β] (hp : p.Reached) (hn : p.native = .ready t) :
    (∃ s, p.settings = some s ∧ t.capacity = min s.capacity maxCallbacks) ∧
    t.capacity ≤ maxCallbacks ∧
    (∀ (o : Trampoline.Operation β) (a : Word), (o.perform t).answer = .ok (some a) →
      ∃ k < t.capacity, a.toNat = p.nativeBase.toNat + 5 * k ∧
        (o.perform t).state.registry.slotAt? a = some k) ∧
    (∀ (a : Word) (k : Nat), t.registry.slotAt? a = some k →
      k < t.capacity ∧ a.toNat = p.nativeBase.toNat + 5 * k ∧ t.table.slotOf (a + 5) = k ∧
      ∃ b, t.registry.binding? k = some b ∧
        ∀ (x : Execution β (Process β η ε)),
          (∀ block, dispatch x nativeRegistry k block p = b.runAt x k block p ∧
            dispatchAddress x nativeRegistry a block p = b.runAt x k block p) ∧
          ∀ (left : ResultWords) (e : EntryWords), (∃ block, e.Spills block) ∧
            ∀ block, e.Spills block →
              enterEntry x left a e p = leaveEntry left (b.runAt x k block p)) ∧
    ∀ (table : EntryTable) (k : Nat), 1 ≤ table.stride.toNat →
      table.base.toNat + (k + 1) * table.stride.toNat < wordCount →
      table.slotOf (table.entry k + table.stride) = k ∧
      ∀ j, table.base.toNat + (j + 1) * table.stride.toNat < wordCount →
        table.entry j + table.stride = table.entry k + table.stride → j = k := by
  have h : p.Holds t := hp.sound t hn
  refine ⟨h.configured, h.capacity, ?_, ?_, ?_⟩
  · intro o a hok
    have hnext : p.Holds (o.perform t).state := h.perform o
    obtain ⟨k, s, hs, ha⟩ := Trampoline.Operation.perform_of_issued h.sound hok
    have hk : (o.perform t).state.registry.slotAt? a = some k :=
      hnext.sound.indexed.slotAt_iff.2 ⟨s, hs, ha⟩
    obtain ⟨hlt, hnat, -⟩ := hnext.slot_spec hs
    have hcapacity : (o.perform t).state.capacity = t.capacity := (o.perform_change t).capacity
    exact ⟨k, hcapacity ▸ hlt, ha ▸ hnat, hk⟩
  · intro a k ha
    obtain ⟨s, hs, rfl⟩ := h.sound.indexed.slotAt_iff.1 ha
    obtain ⟨hlt, hnat, hmark⟩ := h.slot_spec hs
    have hmarker : t.table.marker s.address = s.address + 5 := by rw [h.table]; rfl
    have hregistry : nativeRegistry p = t.registry := by simp only [nativeRegistry, hn]
    refine ⟨hlt, hnat, hmarker ▸ hmark, s.binding, by simp [Registry.binding?, hs], fun x => ?_⟩
    have hdispatch : ∀ block, dispatch x nativeRegistry k block p = s.binding.runAt x k block p :=
      fun block => dispatch_of_bound (hregistry ▸ hs)
    refine ⟨fun block => ⟨hdispatch block, ?_⟩, fun left e => ⟨⟨_, e.spills_block⟩, ?_⟩⟩
    · rw [dispatchAddress_of_bound (hregistry ▸ ha), hdispatch]
    · intro block hblock
      rw [enterEntry_of_slot hn h hs, hblock.unique e.spills_block]
  · intro table k hstride hk
    refine ⟨table.slotOf_marker hstride (by omega), fun j hj heq => ?_⟩
    exact table.marker_injective hstride (by omega) (by omega) heq

/-- No host at all. -/
instance : Registrar Empty Unit where
  register h := nomatch h
  unregister h := nomatch h
  capacity h := nomatch h

/-- A callback with sixteen parameters in the second of two slots, after the first was released. Native
code that passes ten of them on the stack gets back the last. -/
theorem entry_address_slot_second :
    let fresh : Process Unit Empty Unit :=
      { files := .ofFiles "" [], nativeBase := 0x400000, client := () }
    let c : Callback Unit :=
      { params := List.replicate 16 (.scalar .i64), results := [.scalar .i64], body := () }
    let p := (unregister 0x400000 (register c (register c
      (install { capacity := 2 } fresh).state).state).state).state
    let body := fun (_ : Unit) (args : List Value) =>
      (pure args.getLast? : Action (Process Unit Empty Unit) (Option Value))
    let x : Execution Unit (Process Unit Empty Unit) := { memory := Process.memory, body }
    let e : EntryWords := {
      floats := Vector.replicate _ 0
      ints := Vector.replicate _ 1
      stack := fun n => if n = 9 then 77 else 2 }
    p.Reached ∧ (∃ t, p.native = .ready t ∧ t.registry.slotAt? 0x400005 = some 1 ∧
      t.table.slotOf 0x40000A = 1) ∧
      (enterEntry x { r1 := 5, r2 := 6, f0 := 7 } 0x400005 e p).ended =
        .ok { r1 := 77, r2 := 6, f0 := 7 } := by
  intro fresh c p body x e
  have hfresh : fresh.Reached := .fresh ⟨rfl, rfl, rfl⟩
  have hp : p.Reached :=
    (((hfresh.next (.installs _)).next (.registers c)).next (.registers c)).next (.unregisters _)
  obtain ⟨t, hn⟩ : ∃ t, p.native = .ready t := ⟨_, rfl⟩
  have ha : t.registry.slotAt? 0x400005 = some 1 := by
    cases hn
    rfl
  obtain ⟨-, -, -, hlive, -⟩ := entry_address_slot hp hn
  obtain ⟨-, -, hmark, b, hb, hruns⟩ := hlive _ _ ha
  refine ⟨hp, ⟨t, hn, ha, hmark⟩, ?_⟩
  rw [((hruns x).2 _ e).2 _ e.spills_block]
  cases hn
  cases hb
  rfl

end Process

end CallBridge
