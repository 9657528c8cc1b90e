import CallBridge.Process.Gateway
import CallBridge.Proofs.Marshaling

/-!
Both directions of marshaling agree on one layout. The places that a classifier hands out are
pairwise different words of an argument block, and the words that an outbound frame has for them lie
at just those indexes of the block that a dispatcher makes.
-/

namespace CallBridge

/-- Places that an outbound frame has: its last words go to the stack. -/
def Location.InFrame : Location → Prop
  | intRegister n => n < intRegisterCount
  | floatRegister n => n < floatRegisterCount
  | stack n => intRegisterCount + n < maxCallArgs

theorem Location.frameIndex_lt {l : Location} (h : l.InFrame) :
    l.frameIndex < floatRegisterCount + maxCallArgs := by
  revert h
  cases l <;>
    simp only [InFrame, frameIndex, intRegisterCount, floatRegisterCount, maxCallArgs,
      Convention.host, Convention.intRegisters, Convention.floatRegisters] <;> omega

namespace ArgumentWords

/-- All words of a frame in the order of a block, floats before integers. -/
def words (w : ArgumentWords) : List Word := w.floats.toList ++ w.ints.toList

theorem words_length (w : ArgumentWords) :
    w.words.length = floatRegisterCount + maxCallArgs := by
  rw [words, List.length_append, Vector.length_toList, Vector.length_toList]

def put (w : ArgumentWords) (x : Word) : Location → ArgumentWords
  | .intRegister n => w.setInt n x
  | .floatRegister n => w.setFloat n x
  | .stack n => w.setInt (intRegisterCount + n) x

variable (w : ArgumentWords) (beyond : Nat → Word) (x : Word)

theorem words_ints (n : Nat) : w.words[floatRegisterCount + n]? = w.ints.toList[n]? := by
  rw [words, List.getElem?_append_right (by simp), Vector.length_toList, Nat.add_sub_cancel_left]

theorem words_setInt (n : Nat) :
    (w.setInt n x).words = w.words.set (floatRegisterCount + n) x := by
  simp only [words, setInt, Vector.toList_setIfInBounds]
  rw [List.set_append_right _ _ (by simp)]
  simp

/-- A word is put at the block index of its place. -/
theorem words_put {l : Location} (h : l.InFrame) :
    (w.put x l).words = w.words.set l.frameIndex x := by
  cases l with
  | intRegister n => exact w.words_setInt x n
  | floatRegister n =>
    have hn : n < w.floats.toList.length := w.floats.length_toList.symm ▸ h
    simp only [words, put, setFloat, Location.frameIndex, Vector.toList_setIfInBounds]
    exact (List.set_append_left _ _ hn).symm
  | stack n =>
    rw [put, Location.frameIndex, Nat.add_assoc]
    exact w.words_setInt x _

theorem words_put_self {l : Location} (h : l.InFrame) :
    (w.put x l).words[l.frameIndex]? = some x := by
  rw [w.words_put x h, List.getElem?_set_self (w.words_length ▸ Location.frameIndex_lt h)]

theorem loaded_ints_toList :
    (w.loaded beyond).ints.toList = w.ints.toList.take intRegisterCount := by
  apply List.ext_getElem
  · rw [List.length_take, Vector.length_toList, Vector.length_toList]
    rfl
  · intro i h _
    simp [loaded, Vector.get]

theorem loaded_stack {n : Nat} (h : intRegisterCount + n < maxCallArgs) :
    (w.loaded beyond).stack n = w.ints[intRegisterCount + n] := by
  simp [loaded, h]

theorem loaded_stack_beyond (n : Nat) :
    (w.loaded beyond).stack (maxCallArgs - intRegisterCount + n) = beyond n := by
  have hbeyond : intRegisterCount + (maxCallArgs - intRegisterCount + n) = maxCallArgs + n := by
    rw [← Nat.add_assoc]
    rfl
  simp [loaded, hbeyond]

/-- Registers and stack words of a frame lie in the dispatcher's block one behind the other, and
behind them what was on the stack before. -/
theorem loaded_block : (w.loaded beyond).block =
    w.words ++ (List.range (maxFrameWords - floatRegisterCount - maxCallArgs)).map beyond := by
  have hcount : maxFrameWords - floatRegisterCount - intRegisterCount =
      (maxCallArgs - intRegisterCount) + (maxFrameWords - floatRegisterCount - maxCallArgs) := rfl
  have hframe : (List.range (maxCallArgs - intRegisterCount)).map (w.loaded beyond).stack =
      w.ints.toList.drop intRegisterCount := by
    apply List.ext_getElem
    · simp
    · intro i hi _
      rw [List.length_map, List.length_range] at hi
      simp [w.loaded_stack beyond (by omega : intRegisterCount + i < maxCallArgs)]
  rw [EntryWords.block, hcount, List.range_add, List.map_append, List.map_map, hframe,
    loaded_ints_toList, List.append_assoc, ← List.append_assoc (List.take _ _),
    List.take_append_drop, ← List.append_assoc]
  congr 2
  funext n
  exact w.loaded_stack_beyond beyond n

theorem loaded_block_words {j : Nat} (h : j < floatRegisterCount + maxCallArgs) :
    (w.loaded beyond).block[j]? = w.words[j]? := by
  rw [loaded_block, List.getElem?_append_left (w.words_length ▸ h)]

/-- Integer registers and stack words lie in the block one behind the other, as in the frame. -/
theorem loaded_block_ints {n : Nat} (h : n < maxCallArgs) :
    (w.loaded beyond).block[floatRegisterCount + n]? = w.ints.toList[n]? := by
  rw [w.loaded_block_words beyond (Nat.add_lt_add_left h _), words_ints]

theorem loaded_block_floats {n : Nat} (h : n < floatRegisterCount) :
    (w.loaded beyond).block[n]? = w.floats.toList[n]? := by
  rw [w.loaded_block_words beyond (Nat.lt_add_right _ h), words,
    List.getElem?_append_left (by simpa using h)]

end ArgumentWords

namespace Classifier

variable {c : Classifier}

/-- Registers in use are registers of the host. -/
structure OnHost (c : Classifier) : Prop where
  convention : c.convention = .host
  ints : c.ints ≤ intRegisterCount
  floats : c.floats ≤ floatRegisterCount

/-- Block words at which earlier arguments lie. -/
def Taken (c : Classifier) (j : Nat) : Prop :=
  j < c.floats ∨ (floatRegisterCount ≤ j ∧ j < floatRegisterCount + c.ints) ∨
    (floatRegisterCount + intRegisterCount ≤ j ∧
      j < floatRegisterCount + intRegisterCount + c.stackWords)

theorem start_onHost : (start .host).OnHost := ⟨rfl, Nat.zero_le _, Nat.zero_le _⟩

/-- One argument takes one word, which no earlier argument has. -/
theorem place_spec (h : c.OnHost) (r : RegisterClass) :
    (c.place r).2.OnHost ∧ ¬ c.Taken (c.place r).1.frameIndex ∧
      (∀ j, (c.place r).2.Taken j ↔ c.Taken j ∨ j = (c.place r).1.frameIndex) ∧
      c.stackWords ≤ (c.place r).2.stackWords ∧
      ((c.place r).2.stackWords ≤ maxCallArgs - intRegisterCount →
        (c.place r).1.InFrame) := by
  obtain ⟨hc, hi, hf⟩ := h
  have hri : c.convention.intRegisters = 6 := by rw [hc]; rfl
  have hrf : c.convention.floatRegisters = 8 := by rw [hc]; rfl
  have h6 : intRegisterCount = 6 := rfl
  have h8 : floatRegisterCount = 8 := rfl
  have h15 : maxCallArgs = 15 := rfl
  rw [h6] at hi
  rw [h8] at hf
  unfold place
  cases r with
  | integer =>
    dsimp only
    split_ifs with hlt
    · refine ⟨⟨hc, ?_, hf⟩, ?_, ?_, Nat.le_refl _, fun _ => ?_⟩ <;>
        simp only [Taken, Location.frameIndex, Location.InFrame, h6, h8] <;> omega
    · refine ⟨⟨hc, hi, hf⟩, ?_, ?_, Nat.le_succ _, fun _ => ?_⟩ <;>
        simp only [Taken, Location.frameIndex, Location.InFrame, h6, h8, h15] at * <;> omega
  | float =>
    dsimp only
    split_ifs with hlt
    · refine ⟨⟨hc, hi, ?_⟩, ?_, ?_, Nat.le_refl _, fun _ => ?_⟩ <;>
        simp only [Taken, Location.frameIndex, Location.InFrame, h6, h8] <;> omega
    · refine ⟨⟨hc, hi, hf⟩, ?_, ?_, Nat.le_succ _, fun _ => ?_⟩ <;>
        simp only [Taken, Location.frameIndex, Location.InFrame, h6, h8, h15] at * <;> omega

/-- No argument is placed at a word that an earlier one has. -/
theorem notMem_placeAll_of_taken {j : Nat} (h : c.OnHost) (hj : c.Taken j)
    (rs : List RegisterClass) : j ∉ (c.placeAll rs).map Location.frameIndex := by
  induction rs generalizing c with
  | nil => exact List.not_mem_nil
  | cons r rs ih =>
    obtain ⟨hnext, hnew, htaken, -, -⟩ := place_spec h r
    rw [placeAll, List.map_cons, List.mem_cons, not_or]
    exact ⟨fun he => hnew (he ▸ hj), ih hnext ((htaken j).2 (.inl hj))⟩

theorem stackWords_advance (h : c.OnHost) (rs : List RegisterClass) :
    c.stackWords ≤ (c.advance rs).stackWords := by
  induction rs generalizing c with
  | nil => exact Nat.le_refl _
  | cons r rs ih =>
    obtain ⟨hnext, -, -, hle, -⟩ := place_spec h r
    exact Nat.le_trans hle (ih hnext)

end Classifier

/-- Stack words that arguments of the listed kinds need. -/
def stackWords (kinds : List Kind) : Nat :=
  ((Classifier.start .host).advance (kinds.map Kind.registerClass)).stackWords

namespace TypedCall

variable {c : Classifier} {v : Value}

/-- An argument that is in order is put at its place, and the next one is looked at. -/
theorem place_cons {count index : Nat} {m m' : Memory} {w : ArgumentWords} {x : Word}
    {rest : List (Value × Kind)} (hpass : v.pass? m = some (x, m'))
    (hframe : (c.place v.kind.registerClass).1.InFrame) :
    place count index c m w ((v, v.kind) :: rest) =
      place count (index + 1) (c.place v.kind.registerClass).2 m'
        (w.put x (c.place v.kind.registerClass).1) rest := by
  rw [place, if_neg (not_not.2 rfl), hpass]
  dsimp only
  revert hframe
  cases (c.place v.kind.registerClass).1 with
  | intRegister n => exact fun _ => rfl
  | floatRegister n => exact fun _ => rfl
  | stack n => exact fun hframe => if_pos hframe

end TypedCall

end CallBridge
