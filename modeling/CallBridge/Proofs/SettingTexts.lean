import CallBridge.Settings.Environment
import Mathlib.Data.List.Forall2
import Mathlib.Data.List.TakeWhile
import Mathlib.Tactic.SplitIfs

/-!
What texts of variables stand for: numbers and words, with blanks around them, and words in any
case.
-/

namespace CallBridge

namespace Text

section Case

theorem toNat_toLower (c : Char) :
    c.toLower.toNat = if 65 ≤ c.toNat ∧ c.toNat ≤ 90 then c.toNat + 32 else c.toNat := by
  have hupper : (c.val ≥ 'A'.val ∧ c.val ≤ 'Z'.val) ↔ 65 ≤ c.toNat ∧ c.toNat ≤ 90 := Iff.rfl
  have hdistance : ('a'.val - 'A'.val).toNat = 32 := by decide
  unfold Char.toLower
  by_cases h : 65 ≤ c.toNat ∧ c.toNat ≤ 90
  · rw [dif_pos (hupper.2 h), if_pos h, Char.toNat_mk, UInt32.toNat_add, hdistance, Char.toNat_val]
    omega
  · rw [dif_neg (mt hupper.1 h), if_neg h]

theorem toNat_toUpper (c : Char) :
    c.toUpper.toNat = if 97 ≤ c.toNat ∧ c.toNat ≤ 122 then c.toNat - 32 else c.toNat := by
  have hlower : ('a'.val ≤ c.val ∧ c.val ≤ 'z'.val) ↔ 97 ≤ c.toNat ∧ c.toNat ≤ 122 := Iff.rfl
  have hdistance : ('A'.val - 'a'.val).toNat = 0x100000000 - 32 := by decide
  unfold Char.toUpper
  by_cases h : 97 ≤ c.toNat ∧ c.toNat ≤ 122
  · rw [dif_pos (hlower.2 h), if_pos h, Char.toNat_mk, UInt32.toNat_add, hdistance, Char.toNat_val]
    omega
  · rw [dif_neg (mt hlower.1 h), if_neg h]

theorem toLower_eq_iff {c w : Char} (h : w.toLower = w) :
    c.toLower = w ↔ c = w ∨ c = w.toUpper := by
  rw [← Char.toNat_inj, toNat_toLower] at h
  rw [← Char.toNat_inj, ← Char.toNat_inj, ← Char.toNat_inj, toNat_toLower, toNat_toUpper]
  split_ifs at h ⊢ <;> omega

/-- The characters of a word, each as the word has it or in upper case. -/
def Spells (cs : List Char) (word : String) : Prop :=
  List.Forall₂ (fun c w => c = w ∨ c = w.toUpper) cs word.toList

theorem Spells.exists_of_mem {cs : List Char} {word : String} (h : Spells cs word) :
    ∀ c ∈ cs, ∃ w ∈ word.toList, c = w ∨ c = w.toUpper := by
  rw [Spells] at h
  generalize word.toList = ws at h ⊢
  induction h with
  | nil => nofun
  | cons hc _ ih =>
    exact List.forall_mem_cons.2 ⟨⟨_, List.mem_cons_self, hc⟩, fun c hin =>
      (ih c hin).imp fun w hw => ⟨List.mem_cons_of_mem _ hw.1, hw.2⟩⟩

theorem lower_eq_iff {s word : String} (h : ∀ w ∈ word.toList, w.toLower = w) :
    lower s = word ↔ Spells s.toList word := by
  have hlists (cs ws : List Char) (hws : ∀ w ∈ ws, w.toLower = w) :
      cs.map Char.toLower = ws ↔ List.Forall₂ (fun c w => c = w ∨ c = w.toUpper) cs ws := by
    induction cs generalizing ws with
    | nil => cases ws <;> simp
    | cons c cs ih =>
      cases ws with
      | nil => simp
      | cons w ws =>
        obtain ⟨hw, hws⟩ := List.forall_mem_cons.1 hws
        rw [List.map_cons, List.cons.injEq, toLower_eq_iff hw, ih ws hws, List.forall₂_cons]
  rw [lower, ← String.toList_inj, String.toList_ofList]
  exact hlists _ _ h

end Case

section Blanks

variable {s : String} {core : List Char}

/-- A text with blanks around `core`, if with any. -/
def Padded (core : List Char) (s : String) : Prop :=
  ∃ before after, (∀ c ∈ before, isBlank c = true) ∧ (∀ c ∈ after, isBlank c = true) ∧
    s.toList = before ++ core ++ after

theorem padded_trim (s : String) : Padded (trim s).toList s := by
  have hsplit (cs : List Char) : cs.takeWhile isBlank ++ cs.dropWhile isBlank = cs :=
    List.takeWhile_append_dropWhile
  refine ⟨s.toList.takeWhile isBlank,
    ((s.toList.dropWhile isBlank).reverse.takeWhile isBlank).reverse,
    fun _ hc => List.mem_takeWhile_imp hc,
    fun _ hc => List.mem_takeWhile_imp (List.mem_reverse.1 hc), ?_⟩
  rw [trim, String.toList_ofList, List.append_assoc, ← List.reverse_append, hsplit,
    List.reverse_reverse, hsplit]

theorem Padded.toList_trim (h : Padded core s) (hcore : ∀ c ∈ core, isBlank c = false) :
    (trim s).toList = core := by
  obtain ⟨before, after, hbefore, hafter, hs⟩ := h
  have hdrop {blanks cs : List Char} (hblanks : ∀ c ∈ blanks, isBlank c = true)
      (hcs : ∀ c ∈ cs.head?, isBlank c = false) : (blanks ++ cs).dropWhile isBlank = cs := by
    rw [List.dropWhile_append_of_pos hblanks]
    cases cs with
    | nil => rfl
    | cons c cs => rw [List.dropWhile_cons, if_neg (by simpa using hcs)]
  rw [trim, String.toList_ofList, hs]
  cases core with
  | nil =>
    have hall : (before ++ [] ++ after).dropWhile isBlank = [] := by
      rw [List.append_nil, ← List.append_nil (before ++ after)]
      exact hdrop (fun c hc => (List.mem_append.1 hc).elim (hbefore c) (hafter c)) nofun
    rw [hall]
    rfl
  | cons c cs =>
    have hlast : ∀ d ∈ (c :: cs).reverse.head?, isBlank d = false := fun d hd =>
      hcore d (List.mem_reverse.1 (List.mem_of_mem_head? hd))
    rw [List.append_assoc, hdrop hbefore (by simpa using hcore c List.mem_cons_self),
      List.reverse_append, hdrop (fun d hd => hafter d (List.mem_reverse.1 hd)) hlast,
      List.reverse_reverse]

end Blanks

section Numbers

variable {s : String} {n : Nat}

theorem isBlank_of_isDigit {c : Char} (h : c.isDigit = true) : isBlank c = false := by
  rw [Char.isDigit_iff_toNat] at h
  have hlow : 48 ≤ c.toNat := h.1
  have hhigh : c.toNat ≤ 57 := h.2
  simp only [isBlank, Bool.or_eq_false_iff, Bool.and_eq_false_iff, decide_eq_false_iff_not,
    beq_eq_false_iff_ne]
  omega

theorem digitsValue?_eq_some_iff {cs : List Char} {k : Nat} : digitsValue? cs k = some n ↔
    (∀ c ∈ cs, c.isDigit = true) ∧ Nat.ofDigitChars 10 cs k = n := by
  induction cs generalizing k with
  | nil => simp [digitsValue?]
  | cons c cs ih =>
    rw [digitsValue?, List.forall_mem_cons, Nat.ofDigitChars_cons, Nat.mul_comm 10 k]
    by_cases hc : c.isDigit = true
    · rw [if_pos hc, ih, and_iff_right hc]
    · simp [hc]

/-- A number of 64 bits in decimal, with an optional plus sign. -/
def Decimal (cs : List Char) (n : Nat) : Prop :=
  ∃ sign digits, (sign = [] ∨ sign = ['+']) ∧ digits ≠ [] ∧ (∀ c ∈ digits, c.isDigit = true) ∧
    Nat.ofDigitChars 10 digits 0 = n ∧ n < wordCount ∧ cs = sign ++ digits

theorem unsigned?_eq_some_iff : unsigned? s = some n ↔ Decimal s.toList n := by
  have hdigits (digits : List Char) : (if digits.isEmpty then none
      else (digitsValue? digits 0).filter (· < wordCount)) = some n ↔ digits ≠ [] ∧
        (∀ c ∈ digits, c.isDigit = true) ∧ Nat.ofDigitChars 10 digits 0 = n ∧ n < wordCount := by
    cases digits with
    | nil => simp
    | cons d ds =>
      rw [List.isEmpty_cons, if_neg Bool.false_ne_true, Option.filter_eq_some_iff,
        digitsValue?_eq_some_iff, decide_eq_true_eq, and_assoc]
      simp
  unfold unsigned?
  dsimp only
  rw [hdigits]
  constructor
  · intro h
    split at h
    next rest hs => exact ⟨['+'], rest, .inr rfl, h.1, h.2.1, h.2.2.1, h.2.2.2, hs⟩
    next => exact ⟨[], _, .inl rfl, h.1, h.2.1, h.2.2.1, h.2.2.2, rfl⟩
  · rintro ⟨sign, digits, hsign, hne, hall, hvalue, hrange, hs⟩
    split
    next rest hplus =>
      rw [hplus] at hs
      rcases hsign with rfl | rfl
      · rw [List.nil_append] at hs
        exact absurd (hall '+' (hs ▸ List.mem_cons_self)) (by decide)
      · obtain rfl := (List.cons.inj hs).2
        exact ⟨hne, hall, hvalue, hrange⟩
    next hother =>
      rcases hsign with rfl | rfl
      · rw [hs, List.nil_append]
        exact ⟨hne, hall, hvalue, hrange⟩
      · exact absurd hs (hother digits)

/-- A number with blanks around it. -/
def ShowsNumber (s : String) (n : Nat) : Prop := ∃ cs, Decimal cs n ∧ Padded cs s

theorem unsigned?_trim_eq_some_iff : unsigned? (trim s) = some n ↔ ShowsNumber s n := by
  rw [unsigned?_eq_some_iff]
  constructor
  · exact fun h => ⟨_, h, padded_trim s⟩
  · rintro ⟨cs, hcs, hs⟩
    have hblank : ∀ c ∈ cs, isBlank c = false := by
      obtain ⟨sign, digits, hsign, -, hdigits, -, -, rfl⟩ := hcs
      have hdigit : ∀ c ∈ digits, isBlank c = false := fun c hc => isBlank_of_isDigit (hdigits c hc)
      rcases hsign with rfl | rfl
      · simpa using hdigit
      · exact List.forall_mem_cons.2 ⟨by decide, hdigit⟩
    rwa [hs.toList_trim hblank]

end Numbers

end Text

namespace Settings

variable {s : String} {b : Bool}

/-- The words for a flag. -/
def flagWords : Bool → List String
  | true => ["1", "true", "yes", "on"]
  | false => ["0", "false", "no", "off"]

/-- One of the words for a flag, in any case and with blanks around it. -/
def ShowsFlag (s : String) (b : Bool) : Prop :=
  ∃ word ∈ flagWords b, ∃ cs, Text.Spells cs word ∧ Text.Padded cs s

theorem flag?_eq_some_iff : flag? s = some b ↔ ShowsFlag s b := by
  have hmatch : flag? s = some b ↔ Text.lower (Text.trim s) ∈ flagWords b := by
    unfold flag?
    cases b <;> split <;> simp_all [flagWords]
  have hall : ∀ word ∈ flagWords b, word.toList.all fun w =>
      w.toLower = w ∧ Text.isBlank w = false ∧ Text.isBlank w.toUpper = false := by
    cases b <;> decide
  have hwords : ∀ word ∈ flagWords b, ∀ w ∈ word.toList,
      w.toLower = w ∧ Text.isBlank w = false ∧ Text.isBlank w.toUpper = false :=
    fun word hword w hw => of_decide_eq_true (List.all_eq_true.1 (hall word hword) w hw)
  rw [hmatch]
  constructor
  · intro h
    have hlower := fun w hw => (hwords _ h w hw).1
    exact ⟨_, h, _, (Text.lower_eq_iff hlower).1 rfl, Text.padded_trim s⟩
  · rintro ⟨word, hword, cs, hspells, hs⟩
    have hblank : ∀ c ∈ cs, Text.isBlank c = false := by
      intro c hc
      obtain ⟨w, hw, rfl | rfl⟩ := hspells.exists_of_mem c hc
      · exact (hwords word hword c hw).2.1
      · exact (hwords word hword w hw).2.2
    have hlower := fun w hw => (hwords word hword w hw).1
    rw [← hs.toList_trim hblank] at hspells
    rwa [(Text.lower_eq_iff hlower).2 hspells]

end Settings

/-- The name of a level in any case. -/
theorem Level.parse?_eq_some_iff {s : String} {l : Level} :
    parse? s = some l ↔ Text.Spells s.toList l.name := by
  have hall : l.name.toList.all fun w => w.toLower = w := by
    cases l <;> decide
  have hlower : ∀ w ∈ l.name.toList, w.toLower = w := fun w hw =>
    of_decide_eq_true (List.all_eq_true.1 hall w hw)
  rw [parse?, ofName?_eq_some_iff, eq_comm, Text.lower_eq_iff hlower]

end CallBridge
