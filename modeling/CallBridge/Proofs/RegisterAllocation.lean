import CallBridge.Placement
import Mathlib.Data.Finset.Dedup
import Mathlib.Data.List.Induction
import Mathlib.Order.Interval.Finset.Nat

/-!
How the registers and stack words of a convention are given out. A classifier hands out places one
after the other, and both classes share its stack counter; each place is nevertheless told by how
many arguments of each class come before it. No two arguments meet, and no place is left out.
-/

namespace CallBridge

/-- How many registers a class has. -/
def Convention.registers (v : Convention) : RegisterClass → Nat
  | .integer => v.intRegisters
  | .float => v.floatRegisters

def RegisterClass.register : RegisterClass → Nat → Location
  | integer => .intRegister
  | float => .floatRegister

namespace Location

/-- The number of a place among the registers of a class. -/
def register? : RegisterClass → Location → Option Nat
  | .integer, intRegister n | .float, floatRegister n => some n
  | _, _ => none

/-- The number of a place on the stack. -/
def stackWord? : Location → Option Nat
  | stack n => some n
  | _ => none

@[simp] theorem register?_register (r r' : RegisterClass) (n : Nat) :
    (r'.register n).register? r = if r' = r then some n else none := by
  cases r <;> cases r' <;> rfl

@[simp] theorem register?_stack (r : RegisterClass) (n : Nat) : (stack n).register? r = none := by
  cases r <;> rfl

@[simp] theorem stackWord?_register (r : RegisterClass) (n : Nat) :
    (r.register n).stackWord? = none := by
  cases r <;> rfl

@[simp] theorem stackWord?_stack (n : Nat) : (stack n).stackWord? = some n := rfl

@[simp] theorem frameIndex_floatRegister (n : Nat) : (floatRegister n).frameIndex = n := rfl

@[simp] theorem frameIndex_intRegister (n : Nat) : (intRegister n).frameIndex = 8 + n := rfl

@[simp] theorem frameIndex_stack (n : Nat) : (stack n).frameIndex = 14 + n := rfl

theorem register?_eq_some_iff {r : RegisterClass} {l : Location} {n : Nat} :
    l.register? r = some n ↔ l = r.register n := by
  cases r <;> cases l <;> simp [register?, RegisterClass.register]

theorem stackWord?_eq_some_iff {l : Location} {n : Nat} : l.stackWord? = some n ↔ l = stack n := by
  cases l <;> simp [stackWord?]

end Location

namespace Convention

variable (v : Convention)

/-- Arguments of the listed classes that find no register. -/
def spilled (rs : List RegisterClass) : Nat :=
  (rs.count .integer - v.intRegisters) + (rs.count .float - v.floatRegisters)

theorem spilled_concat (rs : List RegisterClass) (r : RegisterClass) :
    v.spilled (rs ++ [r]) =
      if rs.count r < v.registers r then v.spilled rs else v.spilled rs + 1 := by
  cases r with
  | integer =>
    have hi : (rs ++ [RegisterClass.integer]).count .integer = rs.count .integer + 1 := by simp
    have hf : (rs ++ [RegisterClass.integer]).count .float = rs.count .float := by simp
    rw [spilled, hi, hf, spilled, registers]
    split_ifs <;> omega
  | float =>
    have hi : (rs ++ [RegisterClass.float]).count .integer = rs.count .integer := by simp
    have hf : (rs ++ [RegisterClass.float]).count .float = rs.count .float + 1 := by simp
    rw [spilled, hi, hf, spilled, registers]
    split_ifs <;> omega

/-- The place of an argument behind arguments of the `earlier` classes. -/
def placeBehind (earlier : List RegisterClass) (r : RegisterClass) : Location :=
  if earlier.count r < v.registers r then r.register (earlier.count r)
  else .stack (v.spilled earlier)

/-- The classifier behind arguments of the listed classes: registers fill up to their number, and
what is left over goes to the stack. -/
def filled (rs : List RegisterClass) : Classifier where
  convention := v
  ints := min (rs.count .integer) v.intRegisters
  floats := min (rs.count .float) v.floatRegisters
  stackWords := v.spilled rs

end Convention

namespace Classifier

theorem advance_append (c : Classifier) (rs rs' : List RegisterClass) :
    c.advance (rs ++ rs') = (c.advance rs).advance rs' := List.foldl_append

theorem placeAll_getElem? (c : Classifier) (rs : List RegisterClass) (i : Nat) :
    (c.placeAll rs)[i]? = rs[i]?.map fun r => ((c.advance (rs.take i)).place r).1 := by
  induction rs generalizing c i with
  | nil => rfl
  | cons r rs ih =>
    cases i with
    | zero => rfl
    | succ i =>
      rw [placeAll, List.getElem?_cons_succ, ih, List.getElem?_cons_succ, List.take_succ_cons]
      rfl

theorem placeAll_concat (c : Classifier) (rs : List RegisterClass) (r : RegisterClass) :
    c.placeAll (rs ++ [r]) = c.placeAll rs ++ [((c.advance rs).place r).1] := by
  induction rs generalizing c with
  | nil => rfl
  | cons r' rs ih =>
    rw [List.cons_append, placeAll, ih, placeAll, List.cons_append]
    rfl

variable (v : Convention) (rs : List RegisterClass)

/-- One argument takes the next register of its class, or else the next stack word. -/
theorem place_filled (r : RegisterClass) :
    (v.filled rs).place r = (v.placeBehind rs r, v.filled (rs ++ [r])) := by
  cases r with
  | integer =>
    by_cases hlt : rs.count .integer < v.intRegisters <;>
      simp [place, hlt, Convention.filled, Convention.placeBehind, Convention.registers,
        RegisterClass.register, Convention.spilled] <;> omega
  | float =>
    by_cases hlt : rs.count .float < v.floatRegisters <;>
      simp [place, hlt, Convention.filled, Convention.placeBehind, Convention.registers,
        RegisterClass.register, Convention.spilled] <;> omega

theorem advance_start : (start v).advance rs = v.filled rs := by
  induction rs using List.reverseRecOn with
  | nil => simp [advance, start, Convention.filled, Convention.spilled]
  | append_singleton rs r ih =>
    rw [advance_append, ih]
    exact congrArg Prod.snd (place_filled v rs r)

theorem placeAll_start_concat (r : RegisterClass) :
    (start v).placeAll (rs ++ [r]) = (start v).placeAll rs ++ [v.placeBehind rs r] := by
  rw [placeAll_concat, advance_start, place_filled]

/-- Each class has its registers given out from the first one on. -/
theorem registers_placeAll (r : RegisterClass) :
    ((start v).placeAll rs).filterMap (Location.register? r) =
      List.range (min (rs.count r) (v.registers r)) := by
  induction rs using List.reverseRecOn with
  | nil => simp [placeAll]
  | append_singleton rs r' ih =>
    rw [placeAll_start_concat, List.filterMap_append, ih, List.count_append, Convention.placeBehind]
    by_cases hr : r' = r
    · subst hr
      by_cases hlt : rs.count r' < v.registers r'
      · rw [if_pos hlt, List.count_singleton_self, Nat.min_eq_left hlt.le, Nat.min_eq_left hlt,
          List.range_succ]
        simp
      · rw [if_neg hlt, Nat.min_eq_right (Nat.le_of_not_lt hlt), Nat.min_eq_right (by omega)]
        simp
    · have hcount : [r'].count r = 0 := List.count_eq_zero.2 (by simpa using Ne.symm hr)
      rw [hcount, Nat.add_zero]
      split_ifs <;> simp [hr]

/-- Stack words are given out in the order of the arguments, and none is left out. -/
theorem stackWords_placeAll :
    ((start v).placeAll rs).filterMap Location.stackWord? = List.range (v.spilled rs) := by
  induction rs using List.reverseRecOn with
  | nil => simp [placeAll, Convention.spilled]
  | append_singleton rs r ih =>
    rw [placeAll_start_concat, List.filterMap_append, ih, Convention.placeBehind,
      Convention.spilled_concat]
    split_ifs
    · simp
    · simp [List.range_succ]

/-- Integers and floats without a register share the stack. -/
example : ((start .sysV).placeAll (List.replicate 7 .integer ++ List.replicate 9 .float ++
    [.integer])).filterMap Location.stackWord? = [0, 1, 2] := by decide

theorem mem_placeAll_register (r : RegisterClass) (n : Nat) :
    r.register n ∈ (start v).placeAll rs ↔ n < min (rs.count r) (v.registers r) := by
  rw [← List.mem_range, ← registers_placeAll, List.mem_filterMap]
  simp only [Location.register?_eq_some_iff, exists_eq_right]

theorem mem_placeAll_stack (n : Nat) : .stack n ∈ (start v).placeAll rs ↔ n < v.spilled rs := by
  rw [← List.mem_range, ← stackWords_placeAll, List.mem_filterMap]
  simp only [Location.stackWord?_eq_some_iff, exists_eq_right]

/-- No two arguments share a place. -/
theorem nodup_placeAll : ((start v).placeAll rs).Nodup := by
  induction rs using List.reverseRecOn with
  | nil => exact List.nodup_nil
  | append_singleton rs r ih =>
    rw [placeAll_start_concat, ← List.concat_eq_append, List.nodup_concat]
    refine ⟨?_, ih⟩
    rw [Convention.placeBehind]
    split_ifs
    · rw [mem_placeAll_register]
      omega
    · rw [mem_placeAll_stack]
      exact Nat.lt_irrefl _

end Classifier

section Host

variable (rs : List RegisterClass)

theorem intRegister_mem_placements (n : Nat) :
    .intRegister n ∈ placements rs ↔ n < min (rs.count .integer) 6 :=
  Classifier.mem_placeAll_register .host rs .integer n

theorem floatRegister_mem_placements (n : Nat) :
    .floatRegister n ∈ placements rs ↔ n < min (rs.count .float) 8 :=
  Classifier.mem_placeAll_register .host rs .float n

theorem stack_mem_placements (n : Nat) :
    .stack n ∈ placements rs ↔ n < Convention.host.spilled rs :=
  Classifier.mem_placeAll_stack .host rs n

/-- The words of a block that hold arguments fill each of its three parts from the start. -/
theorem mem_frameIndex_placements (j : Nat) :
    j ∈ (placements rs).map Location.frameIndex ↔ j < min (rs.count .float) 8 ∨
      (8 ≤ j ∧ j < 8 + min (rs.count .integer) 6) ∨
      (14 ≤ j ∧ j < 14 + Convention.host.spilled rs) := by
  constructor
  · intro hj
    obtain ⟨l, hl, rfl⟩ := List.mem_map.1 hj
    cases l with
    | floatRegister n => exact .inl ((floatRegister_mem_placements rs n).1 hl)
    | intRegister n =>
      have hn := (intRegister_mem_placements rs n).1 hl
      rw [Location.frameIndex_intRegister]
      omega
    | stack n =>
      have hn := (stack_mem_placements rs n).1 hl
      rw [Location.frameIndex_stack]
      omega
  · rintro (hlt | ⟨hle, hlt⟩ | ⟨hle, hlt⟩)
    · exact List.mem_map.2 ⟨.floatRegister j, (floatRegister_mem_placements rs j).2 hlt, rfl⟩
    · have hn : .intRegister (j - 8) ∈ placements rs :=
        (intRegister_mem_placements rs _).2 (by omega)
      exact List.mem_map.2 ⟨_, hn, Nat.add_sub_cancel' hle⟩
    · have hn : .stack (j - 14) ∈ placements rs := (stack_mem_placements rs _).2 (by omega)
      exact List.mem_map.2 ⟨_, hn, Nat.add_sub_cancel' hle⟩

/-- Different places of one call are different words of a block. -/
theorem nodup_frameIndex_placements : ((placements rs).map Location.frameIndex).Nodup := by
  have hints := intRegister_mem_placements rs
  have hfloats := floatRegister_mem_placements rs
  refine (Classifier.nodup_placeAll .host rs).map_on fun l hl l' hl' heq => ?_
  -- Registers end where the next part of a block begins.
  have hparts : ∀ l ∈ placements rs,
      (∀ n, l = .intRegister n → n < 6) ∧ ∀ n, l = .floatRegister n → n < 8 := by
    rintro l hl
    constructor
    · rintro n rfl
      exact ((hints n).1 hl).trans_le (Nat.min_le_right _ _)
    · rintro n rfl
      exact ((hfloats n).1 hl).trans_le (Nat.min_le_right _ _)
  have hl := hparts l hl
  have hl' := hparts l' hl'
  cases l <;> cases l' <;> simp at hl hl' heq ⊢ <;> omega

end Host

/-- A classifier assigns places exactly: where an argument goes is told by its class and by how many
arguments of each class come before it. The places of one call are all different, the registers of
each class are given out from the first one on, and so are the stack words, all in the order of the
arguments. On the host the arguments of one call take different words of a block, and they fill each
of its three parts from the start. -/
theorem Classifier.placeAll_exact (v : Convention) (rs : List RegisterClass) :
    let places := (start v).placeAll rs
    let stackWords := ((start v).advance rs).stackWords
    let words := (placements rs).map Location.frameIndex
    (∀ i, places[i]? = rs[i]?.map (v.placeBehind (rs.take i))) ∧
      places.Nodup ∧
      stackWords = v.spilled rs ∧
      places.filterMap Location.stackWord? = List.range stackWords ∧
      (∀ r, places.filterMap (Location.register? r) =
        List.range (min (rs.count r) (v.registers r))) ∧
      words.Nodup ∧
      words.toFinset = Finset.range (min (rs.count .float) 8) ∪
        Finset.Ico 8 (8 + min (rs.count .integer) 6) ∪
        Finset.Ico 14 (14 + ((start .host).advance rs).stackWords) := by
  intro places stackWords words
  have hwords : ∀ v, ((start v).advance rs).stackWords = v.spilled rs :=
    fun v => congrArg Classifier.stackWords (advance_start v rs)
  refine ⟨fun i => ?_, nodup_placeAll v rs, hwords v, ?_, registers_placeAll v rs,
    nodup_frameIndex_placements rs, ?_⟩
  · rw [placeAll_getElem?]
    simp only [advance_start, place_filled]
  · rw [show stackWords = v.spilled rs from hwords v]
    exact stackWords_placeAll v rs
  · ext j
    rw [List.mem_toFinset, hwords]
    simp only [Finset.mem_union, Finset.mem_range, Finset.mem_Ico, or_assoc]
    exact mem_frameIndex_placements rs j

end CallBridge
