import CallBridge.Proofs.Utf8
import Mathlib.Data.List.Basic

/-!
Reading any bytes as text. What is no UTF-8 is replaced part by part: where no character can be
read, the longest part that still begins one becomes a replacement character, or a single byte if not
even that begins one. This determines the text, so that well-formed characters next to broken ones
are never lost, and no NUL comes out where none went in.
-/

namespace CallBridge.Utf8

/-- Bytes with which the encoding of some character begins. -/
def Begins (part : List UInt8) : Prop := ∃ c, part <+: String.utf8EncodeChar c

/-- The maximal ill-formed part in front of the rest: no character can be read there, and the part
is as long as it can be and begin a character, or a single byte. -/
structure Broken (part rest : List UInt8) : Prop where
  ill : ∀ c, ¬ String.utf8EncodeChar c <+: part ++ rest
  start : part ≠ [] ∧ (Begins part ∨ part.length = 1)
  longest : ∀ b, rest.head? = some b → ¬ Begins (part ++ [b])

/-- The text that bytes read as. -/
inductive Reads : List UInt8 → List Char → Prop where
  | done : Reads [] []
  | char (c : Char) {rest : List UInt8} {cs : List Char} (after : Reads rest cs) :
      Reads (String.utf8EncodeChar c ++ rest) (c :: cs)
  | broken {part rest : List UInt8} {cs : List Char} (broken : Broken part rest)
      (after : Reads rest cs) : Reads (part ++ rest) (replacement :: cs)

/-- Bytes that may come after a lead byte: the first is in the range that it announces. -/
def Follow : List UInt8 → (low high : Nat) → Prop
  | [], _, _ => True
  | b :: rest, low, high => (low ≤ b.toNat ∧ b.toNat ≤ high) ∧ Follow rest 0x80 0xBF

/-- The bits of a lead byte with those of the bytes after it. -/
def joined (bits : Nat) (bs : List UInt8) : Nat :=
  bs.foldl (fun n b => n * 64 + (b.toNat - 0x80)) bits

theorem follow_cons {b : UInt8} {rest : List UInt8} {low high : Nat} :
    Follow (b :: rest) low high ↔ (low ≤ b.toNat ∧ b.toNat ≤ high) ∧ Follow rest 0x80 0xBF := by
  rw [Follow]

section Finish

variable {more low high : Nat} {taken rest : List UInt8}

theorem finish_of_follow (h : Follow taken low high) (bits : Nat) :
    finish bits taken.length low high (taken ++ rest) = (Char.ofNat (joined bits taken), rest) := by
  induction taken generalizing bits low high with
  | nil => rfl
  | cons b taken ih =>
    obtain ⟨hb, hrest⟩ := follow_cons.1 h
    rw [List.length_cons, List.cons_append, finish, if_pos hb, joined, List.foldl_cons]
    exact ih hrest (bits * 64 + (b.toNat - 0x80))

/-- Reading stops at a byte that may not come next, or at the end. -/
theorem finish_of_stop (h : Follow taken low high) (hmore : taken.length < more)
    (hstop : ∀ b, rest.head? = some b → ¬ Follow (taken ++ [b]) low high) (bits : Nat) :
    finish bits more low high (taken ++ rest) = (replacement, rest) := by
  induction taken generalizing bits more low high with
  | nil =>
    obtain ⟨more, rfl⟩ := Nat.exists_eq_succ_of_ne_zero (Nat.ne_of_gt hmore)
    cases rest with
    | nil => rfl
    | cons b rest =>
      have hout : ¬ (low ≤ b.toNat ∧ b.toNat ≤ high) := fun hin =>
        hstop b rfl (follow_cons.2 ⟨hin, trivial⟩)
      rw [List.nil_append, finish, if_neg hout]
  | cons b taken ih =>
    obtain ⟨more, rfl⟩ := Nat.exists_eq_succ_of_ne_zero (Nat.ne_zero_of_lt hmore)
    obtain ⟨hb, hrest⟩ := follow_cons.1 h
    rw [List.cons_append, finish, if_pos hb]
    refine ih hrest (Nat.lt_of_succ_lt_succ hmore) (fun x hx hfollow => ?_) _
    exact hstop x hx (follow_cons.2 ⟨hb, hfollow⟩)

/-- Bytes divide into those that may come after a lead byte, as far as it asks for them, and the
others. -/
theorem exists_taken (more low high : Nat) (bytes : List UInt8) :
    ∃ taken rest, bytes = taken ++ rest ∧ Follow taken low high ∧ (taken.length = more ∨
      taken.length < more ∧ ∀ b, rest.head? = some b → ¬ Follow (taken ++ [b]) low high) := by
  induction more generalizing low high bytes with
  | zero => exact ⟨[], bytes, rfl, trivial, .inl rfl⟩
  | succ more ih =>
    cases bytes with
    | nil => exact ⟨[], [], rfl, trivial, .inr ⟨Nat.succ_pos _, by simp⟩⟩
    | cons b bytes =>
      by_cases hb : low ≤ b.toNat ∧ b.toNat ≤ high
      · obtain ⟨taken, rest, rfl, hfollow, hend⟩ := ih 0x80 0xBF bytes
        refine ⟨b :: taken, rest, rfl, follow_cons.2 ⟨hb, hfollow⟩, ?_⟩
        rcases hend with hlength | ⟨hlength, hstop⟩
        · exact .inl (congrArg Nat.succ hlength)
        · exact .inr ⟨Nat.succ_lt_succ hlength, fun x hx h => hstop x hx (follow_cons.1 h).2⟩
      · refine ⟨[], b :: bytes, rfl, trivial, .inr ⟨Nat.succ_pos _, ?_⟩⟩
        rintro _ ⟨⟩ h
        exact hb (follow_cons.1 h).1

end Finish

theorem ofNat_eq {n : Nat} {b : UInt8} (h : n = b.toNat) : UInt8.ofNat n = b := by
  rw [h, UInt8.ofNat_toNat]

section Widths

variable {v : Nat}

theorem val_ofNat (h : v.isValidChar) : (Char.ofNat v).val.toNat = v := by
  rw [Char.ofNat, dif_pos h]
  rfl

theorem encodeChar_one (h : v ≤ 0x7F) :
    String.utf8EncodeChar (Char.ofNat v) = [UInt8.ofNat v] := by
  unfold String.utf8EncodeChar
  dsimp only
  rw [val_ofNat (.inl (by omega)), if_pos h]

theorem encodeChar_two (h : 0x80 ≤ v) (h' : v ≤ 0x7FF) :
    String.utf8EncodeChar (Char.ofNat v) =
      [UInt8.ofNat (v / 64 % 32 + 192), UInt8.ofNat (v % 64 + 128)] := by
  unfold String.utf8EncodeChar
  dsimp only
  rw [val_ofNat (.inl (by omega)), if_neg (by omega), if_pos h']

theorem encodeChar_three (h : 0x800 ≤ v) (h' : v ≤ 0xFFFF) (hvalid : v.isValidChar) :
    String.utf8EncodeChar (Char.ofNat v) =
      [UInt8.ofNat (v / 4096 % 16 + 224), UInt8.ofNat (v / 64 % 64 + 128),
        UInt8.ofNat (v % 64 + 128)] := by
  unfold String.utf8EncodeChar
  dsimp only
  rw [val_ofNat hvalid, if_neg (by omega), if_neg (by omega), if_pos h']

theorem encodeChar_four (h : 0x10000 ≤ v) (h' : v < 0x110000) :
    String.utf8EncodeChar (Char.ofNat v) =
      [UInt8.ofNat (v / 262144 % 8 + 240), UInt8.ofNat (v / 4096 % 64 + 128),
        UInt8.ofNat (v / 64 % 64 + 128), UInt8.ofNat (v % 64 + 128)] := by
  unfold String.utf8EncodeChar
  dsimp only
  rw [val_ofNat (.inr ⟨by omega, h'⟩), if_neg (by omega), if_neg (by omega), if_neg (by omega)]

end Widths

section Leads

variable {b : UInt8} {lead : Lead} {bs : List UInt8}

theorem range_of_ofByte? (hlead : Lead.ofByte? b = some lead) :
    0xC2 ≤ b.toNat ∧ b.toNat ≤ 0xF4 := by
  unfold Lead.ofByte? at hlead
  dsimp only at hlead
  split_ifs at hlead <;> omega

/-- A lead byte with all the bytes it asks for is the encoding of a character. -/
theorem encodeChar_of_follow (hlead : Lead.ofByte? b = some lead)
    (hfollow : Follow bs lead.low lead.high) (hlength : bs.length = lead.more) :
    String.utf8EncodeChar (Char.ofNat (joined lead.bits bs)) = b :: bs := by
  obtain ⟨hlow, hhigh⟩ := range_of_ofByte? hlead
  rcases Nat.lt_or_ge b.toNat 0xE0 with htwo | hge
  · have heq := ofByte?_two hlow (Nat.le_of_lt_succ htwo)
    rw [UInt8.ofNat_toNat, hlead, Option.some.injEq] at heq
    subst heq
    obtain ⟨x, rfl⟩ := List.length_eq_one_iff.1 hlength
    obtain ⟨⟨hx, hx'⟩, -⟩ := follow_cons.1 hfollow
    rw [encodeChar_two, ofNat_eq (b := b), ofNat_eq (b := x)]
    all_goals
      simp only [joined, List.foldl_cons, List.foldl_nil] at *
      omega
  rcases Nat.lt_or_ge b.toNat 0xF0 with hthree | hge
  · have heq := ofByte?_three hge (Nat.le_of_lt_succ hthree)
    rw [UInt8.ofNat_toNat, hlead, Option.some.injEq] at heq
    subst heq
    obtain ⟨x, y, rfl⟩ := List.length_eq_two.1 hlength
    obtain ⟨⟨hx, hx'⟩, hrest⟩ := follow_cons.1 hfollow
    obtain ⟨⟨hy, hy'⟩, -⟩ := follow_cons.1 hrest
    rw [encodeChar_three, ofNat_eq (b := b), ofNat_eq (b := x), ofNat_eq (b := y)]
    all_goals
      simp only [joined, List.foldl_cons, List.foldl_nil, Nat.isValidChar] at *
      split_ifs at * <;> omega
  · have heq := ofByte?_four hge hhigh
    rw [UInt8.ofNat_toNat, hlead, Option.some.injEq] at heq
    subst heq
    obtain ⟨x, y, z, rfl⟩ := List.length_eq_three.1 hlength
    obtain ⟨⟨hx, hx'⟩, hrest⟩ := follow_cons.1 hfollow
    obtain ⟨⟨hy, hy'⟩, hrest⟩ := follow_cons.1 hrest
    obtain ⟨⟨hz, hz'⟩, -⟩ := follow_cons.1 hrest
    rw [encodeChar_four, ofNat_eq (b := b), ofNat_eq (b := x), ofNat_eq (b := y),
      ofNat_eq (b := z)]
    all_goals
      simp only [joined, List.foldl_cons, List.foldl_nil] at *
      split_ifs at * <;> omega

theorem low_le_high (hlead : Lead.ofByte? b = some lead) :
    lead.low ≤ lead.high ∧ lead.low < 256 := by
  unfold Lead.ofByte? at hlead
  dsimp only at hlead
  split_ifs at hlead
  all_goals
    rw [Option.some.injEq] at hlead
    subst hlead
    simp

theorem next_of_lead (hlead : Lead.ofByte? b = some lead) (rest : List UInt8) :
    next b rest = finish lead.bits lead.more lead.low lead.high rest := by
  have hlarge := (range_of_ofByte? hlead).1
  rw [next, if_neg (by omega), hlead]

end Leads

theorem follow_replicate (n : Nat) : Follow (List.replicate n 0x80) 0x80 0xBF := by
  induction n with
  | zero => trivial
  | succ n ih => exact follow_cons.2 ⟨by decide, ih⟩

/-- As many bytes as one likes can follow. -/
theorem exists_follow {low high : Nat} (hrange : low ≤ high) (hbyte : low < 256) {bs : List UInt8}
    (h : Follow bs low high) (n : Nat) : ∃ q, Follow (bs ++ q) low high ∧ q.length = n := by
  induction bs generalizing low high with
  | nil =>
    cases n with
    | zero => exact ⟨[], trivial, rfl⟩
    | succ n =>
      refine ⟨UInt8.ofNat low :: List.replicate n 0x80, follow_cons.2 ⟨?_, follow_replicate n⟩,
        by simp⟩
      rw [toNat_byte hbyte]
      exact ⟨Nat.le_refl low, hrange⟩
  | cons b bs ih =>
    obtain ⟨hb, hrest⟩ := follow_cons.1 h
    obtain ⟨q, hq, hlength⟩ := ih (by decide) (by decide) hrest
    exact ⟨q, follow_cons.2 ⟨hb, hq⟩, hlength⟩

theorem begins_of_follow {b : UInt8} {lead : Lead} {bs : List UInt8}
    (hlead : Lead.ofByte? b = some lead) (hfollow : Follow bs lead.low lead.high)
    (hlength : bs.length ≤ lead.more) : Begins (b :: bs) := by
  obtain ⟨hrange, hbyte⟩ := low_le_high hlead
  obtain ⟨q, hq, hmore⟩ := exists_follow hrange hbyte hfollow (lead.more - bs.length)
  have hall : (bs ++ q).length = lead.more := by
    rw [List.length_append, hmore]
    omega
  refine ⟨Char.ofNat (joined lead.bits (bs ++ q)), ?_⟩
  rw [encodeChar_of_follow hlead hq hall]
  exact List.prefix_append (b :: bs) q

theorem next_of_encodeChar {c : Char} {b : UInt8} {rest after : List UInt8}
    (h : String.utf8EncodeChar c ++ after = b :: rest) : next b rest = (c, after) := by
  obtain ⟨b', bs, hencode, hnext⟩ := next_encodeChar c after
  rw [hencode, List.cons_append, List.cons.injEq] at h
  obtain ⟨rfl, rfl⟩ := h
  exact hnext

/-- Bytes are broken where reading goes on after them and they are not the replacement character
itself. -/
theorem broken_of_next {b : UInt8} {bs after : List UInt8}
    (hnext : ∀ x t, after.head? = some x → next b (bs ++ x :: t) = (replacement, x :: t))
    (hend : next b (bs ++ after) = (replacement, after))
    (hother : String.utf8EncodeChar replacement ≠ b :: bs)
    (hstart : Begins (b :: bs) ∨ (b :: bs).length = 1) : Broken (b :: bs) after where
  ill c hc := by
    obtain ⟨t, ht⟩ := hc
    have hread := hend.symm.trans (next_of_encodeChar ht)
    obtain ⟨rfl, rfl⟩ := Prod.mk.inj hread
    rw [List.append_left_inj] at ht
    exact hother ht
  start := ⟨List.cons_ne_nil b bs, hstart⟩
  longest x hx hbegins := by
    obtain ⟨c, t, ht⟩ := hbegins
    have hencode : String.utf8EncodeChar c ++ [] = b :: (bs ++ x :: t) := by
      rw [List.append_nil, ← ht]
      simp
    have hread := next_of_encodeChar hencode
    rw [hnext x t hx] at hread
    cases hread

/-- What is read first: a character with all its bytes, or a broken part. -/
theorem next_cases (b : UInt8) (rest : List UInt8) :
    ∃ bs after, rest = bs ++ after ∧
      ((∃ c, String.utf8EncodeChar c = b :: bs ∧ next b rest = (c, after)) ∨
        Broken (b :: bs) after ∧ next b rest = (replacement, after)) := by
  by_cases hsmall : b.toNat < 0x80
  · refine ⟨[], rest, rfl, .inl ⟨Char.ofNat b.toNat, ?_, ?_⟩⟩
    · rw [encodeChar_one (Nat.le_of_lt_succ hsmall), UInt8.ofNat_toNat]
    · rw [next, if_pos hsmall]
  cases hlead : Lead.ofByte? b with
  | none =>
    have hnext : ∀ t, next b t = (replacement, t) := fun t => by rw [next, if_neg hsmall, hlead]
    refine ⟨[], rest, rfl, .inr ⟨broken_of_next (fun _ _ _ => hnext _) (hnext _) ?_ (.inr rfl),
      hnext _⟩⟩
    exact fun h => absurd (congrArg List.length h) (by simp [replacement, String.utf8EncodeChar])
  | some lead =>
    obtain ⟨bs, after, rfl, hfollow, hlength | ⟨hlength, hstop⟩⟩ :=
      exists_taken lead.more lead.low lead.high rest
    · refine ⟨bs, after, rfl, .inl ⟨_, encodeChar_of_follow hlead hfollow hlength, ?_⟩⟩
      rw [next_of_lead hlead, ← hlength, finish_of_follow hfollow]
    · have hend : ∀ t, t.head? = after.head? → next b (bs ++ t) = (replacement, t) := by
        intro t ht
        rw [next_of_lead hlead]
        exact finish_of_stop hfollow hlength (fun x hx => hstop x (ht ▸ hx)) _
      refine ⟨bs, after, rfl, .inr ⟨broken_of_next (fun x t hx => hend _ hx.symm) (hend _ rfl) ?_
        (.inl (begins_of_follow hlead hfollow (Nat.le_of_lt hlength))), hend _ rfl⟩⟩
      -- The replacement character has all the bytes that its lead byte asks for.
      intro h
      have hbytes : String.utf8EncodeChar replacement = [0xEF, 0xBF, 0xBD] := rfl
      rw [hbytes, List.cons.injEq] at h
      obtain ⟨rfl, rfl⟩ := h
      have hmore : Lead.ofByte? 0xEF = some { bits := 15, more := 2 } := rfl
      rw [hmore, Option.some.injEq] at hlead
      subst hlead
      exact absurd hlength (by decide)

theorem reads_decodeLossy (bytes : List UInt8) : Reads bytes (decodeLossy bytes) := by
  induction bytes using decodeLossy.induct with
  | case1 =>
    rw [decodeLossy]
    exact .done
  | case2 b rest ih =>
    rw [decodeLossy]
    obtain ⟨bs, after, rfl, ⟨c, hencode, hnext⟩ | ⟨hbroken, hnext⟩⟩ := next_cases b rest
    · rw [hnext] at ih ⊢
      rw [← List.cons_append, ← hencode]
      exact .char c ih
    · rw [hnext] at ih ⊢
      rw [← List.cons_append]
      exact .broken hbroken ih

section Parts

variable {part part' rest rest' : List UInt8}

theorem Broken.not_shorter (h : Broken part rest) (h' : Broken part' rest')
    (heq : part ++ rest = part' ++ rest') : ¬ part.length < part'.length := by
  intro hlt
  obtain ⟨t, rfl⟩ : part <+: part' :=
    List.prefix_of_prefix_length_le (List.prefix_append part rest)
      (heq ▸ List.prefix_append part' rest') (Nat.le_of_lt hlt)
  rw [List.append_assoc, List.append_right_inj] at heq
  cases t with
  | nil => simp at hlt
  | cons b t =>
    obtain ⟨hne, ⟨c, hc⟩ | hone⟩ := h'.start
    · refine h.longest b (by rw [heq]; rfl) ⟨c, List.IsPrefix.trans ?_ hc⟩
      exact (List.prefix_append_right_inj part).2 ⟨t, rfl⟩
    · have hpos := List.length_pos_iff.2 h.start.1
      rw [List.length_append, List.length_cons] at hone
      omega

/-- There is one way to part off what is broken. -/
theorem Broken.unique (h : Broken part rest) (h' : Broken part' rest')
    (heq : part ++ rest = part' ++ rest') : part = part' ∧ rest = rest' :=
  List.append_inj heq (Nat.le_antisymm (Nat.not_lt.1 (h'.not_shorter h heq.symm))
    (Nat.not_lt.1 (h.not_shorter h' heq)))

end Parts

theorem decodeLossy_encodeChar (c : Char) (rest : List UInt8) :
    decodeLossy (String.utf8EncodeChar c ++ rest) = c :: decodeLossy rest := by
  obtain ⟨b, bs, hencode, hnext⟩ := next_encodeChar c rest
  rw [hencode, List.cons_append, decodeLossy, hnext]

theorem decodeLossy_broken {part rest : List UInt8} (h : Broken part rest) :
    decodeLossy (part ++ rest) = replacement :: decodeLossy rest := by
  obtain ⟨b, bs, rfl⟩ := List.exists_cons_of_ne_nil h.start.1
  rw [List.cons_append, decodeLossy]
  obtain ⟨bs', after, heq, ⟨c, hencode, -⟩ | ⟨hbroken, hnext⟩⟩ := next_cases b (bs ++ rest)
  · refine absurd ?_ (h.ill c)
    rw [hencode, List.cons_append, heq]
    exact List.prefix_append (b :: bs') after
  · rw [hnext, (h.unique hbroken (congrArg (b :: ·) heq)).2]

/-- All bytes read as exactly one text. -/
theorem reads_iff {bytes : List UInt8} {cs : List Char} :
    Reads bytes cs ↔ decodeLossy bytes = cs := by
  refine ⟨fun h => ?_, fun h => h ▸ reads_decodeLossy bytes⟩
  induction h with
  | done => rw [decodeLossy]
  | char c _ ih => rw [decodeLossy_encodeChar, ih]
  | broken hbroken _ ih => rw [decodeLossy_broken hbroken, ih]

/-- No NUL is read where there is none. -/
theorem nul_notMem_of_reads {bytes : List UInt8} {cs : List Char} (h : Reads bytes cs)
    (hzero : (0 : UInt8) ∉ bytes) : '\x00' ∉ cs := by
  induction h with
  | done => exact List.not_mem_nil
  | char c _ ih =>
    rw [List.mem_append, not_or] at hzero
    rw [List.mem_cons, not_or]
    refine ⟨?_, ih hzero.2⟩
    rintro rfl
    exact hzero.1 (by decide)
  | broken _ _ ih =>
    rw [List.mem_append, not_or] at hzero
    rw [List.mem_cons, not_or]
    exact ⟨by decide, ih hzero.2⟩

end CallBridge.Utf8
