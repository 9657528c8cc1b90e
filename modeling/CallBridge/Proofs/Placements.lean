import CallBridge.Proofs.BlockLength

/-!
Where the host places arguments of listed kinds, and which word of an untyped call lies there: told by
how many arguments of each register class come before.
-/

namespace CallBridge

namespace Classifier

variable {c : Classifier}

theorem advance_onHost (h : c.OnHost) (rs : List RegisterClass) : (c.advance rs).OnHost := by
  induction rs generalizing c with
  | nil => exact h
  | cons r rs ih => exact ih (place_spec h r).1

/-- The classifier behind arguments of the listed kinds. -/
def behind (kinds : List Kind) : Classifier :=
  (start .host).advance (kinds.map Kind.registerClass)

theorem behind_onHost (kinds : List Kind) : (behind kinds).OnHost :=
  advance_onHost start_onHost _

theorem behind_append (kinds : List Kind) (k : Kind) :
    behind (kinds ++ [k]) = ((behind kinds).place k.registerClass).2 := by
  rw [behind, List.map_append, advance_append]
  rfl

end Classifier

theorem frameIndices_getElem? (kinds : List Kind) (i : Nat) :
    (frameIndices kinds)[i]? = kinds[i]?.map fun k =>
      ((Classifier.behind (kinds.take i)).place k.registerClass).1.frameIndex := by
  rw [frameIndices, placements, List.getElem?_map, Classifier.placeAll_getElem?, List.getElem?_map,
    Option.map_map, Option.map_map, Classifier.behind, List.map_take]
  rfl

/-- Stack words are needed by the arguments that find no register. -/
theorem stackWords_eq (kinds : List Kind) : stackWords kinds = spilledWords kinds := by
  rw [stackWords, Classifier.advance_start]
  rfl

theorem spilledWords_mono {kinds kinds' : List Kind} (h : kinds <+: kinds') :
    spilledWords kinds ≤ spilledWords kinds' := by
  have hcount : ∀ r, classCount r kinds ≤ classCount r kinds' :=
    fun r => (h.sublist.map Kind.registerClass).count_le r
  have hints := hcount .integer
  have hfloats := hcount .float
  unfold spilledWords
  omega

/-- How many registers a class has. -/
def RegisterClass.registers : RegisterClass → Nat
  | integer => 6
  | float => 8

/-- The number of the word that an untyped call puts at a place. -/
def Location.wordNumber : Location → Nat
  | intRegister n | floatRegister n => n
  | stack n => 6 + n

/-- The number of the word for an argument of kind `k` behind arguments of the `earlier` kinds. -/
def wordNumber (earlier : List Kind) (k : Kind) : Nat :=
  let used := classCount k.registerClass earlier
  if used < k.registerClass.registers then used else 6 + spilledWords earlier

namespace Classifier

/-- Where the next argument goes is told by the numbers of those before it. -/
theorem place_behind (earlier : List Kind) (r : RegisterClass) :
    ((behind earlier).place r).1 =
      if classCount r earlier < r.registers then r.register (classCount r earlier)
      else .stack (spilledWords earlier) := by
  have hregisters : r.registers = Convention.host.registers r := by cases r <;> rfl
  rw [behind, advance_start, place_filled, hregisters]
  rfl

theorem wordNumber_place_behind (earlier : List Kind) (k : Kind) :
    ((behind earlier).place k.registerClass).1.wordNumber = CallBridge.wordNumber earlier k := by
  rw [place_behind, CallBridge.wordNumber]
  by_cases hlt : classCount k.registerClass earlier < k.registerClass.registers
  · rw [if_pos hlt, if_pos hlt]
    cases k.registerClass <;> rfl
  · rw [if_neg hlt, if_neg hlt, Location.wordNumber]

/-- An argument among those that fit a frame is placed within it. -/
theorem inFrame_place_behind {earlier : List Kind} {k : Kind}
    (h : spilledWords (earlier ++ [k]) ≤ 9) :
    ((behind earlier).place k.registerClass).1.InFrame := by
  obtain ⟨-, -, -, -, hin⟩ := place_spec (behind_onHost earlier) k.registerClass
  refine hin ?_
  rw [← behind_append, show (behind (earlier ++ [k])).stackWords = _ from stackWords_eq _]
  exact h

end Classifier

section Integers

variable {kinds : List Kind} (h : ∀ k ∈ kinds, k.registerClass = .integer)

include h

theorem classCount_of_integer : classCount .integer kinds = kinds.length := by
  rw [classCount, ← kinds.length_map Kind.registerClass, List.count_eq_length]
  intro r hr
  obtain ⟨k, hk, rfl⟩ := List.mem_map.1 hr
  exact (h k hk).symm

/-- Integers beyond the sixth need a stack word each. -/
theorem spilledWords_of_integer : spilledWords kinds = kinds.length - 6 := by
  have hfloats : classCount .float kinds = 0 := by
    rw [classCount, List.count_eq_zero]
    intro hmem
    obtain ⟨k, hk, hclass⟩ := List.mem_map.1 hmem
    rw [h k hk] at hclass
    cases hclass
  have h6 : intRegisterCount = 6 := rfl
  rw [spilledWords, classCount_of_integer h, hfloats, h6, Nat.zero_sub, Nat.add_zero]

/-- Behind integers only, the words for integers follow in their order. -/
theorem wordNumber_of_integer {k : Kind} (hk : k.registerClass = .integer) :
    wordNumber kinds k = kinds.length := by
  have h6 : RegisterClass.integer.registers = 6 := rfl
  rw [wordNumber, hk, classCount_of_integer h, h6]
  by_cases hlt : kinds.length < 6
  · exact if_pos hlt
  · rw [if_neg hlt, spilledWords_of_integer h]
    omega

end Integers

end CallBridge
