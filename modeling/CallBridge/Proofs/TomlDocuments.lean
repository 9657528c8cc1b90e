import CallBridge.Index
import CallBridge.Proofs.TomlStrings
import CallBridge.Toml.Library

/-!
Documents are read back as the tables that they stand for, which is all that is asked of a library
that keeps settings.
-/

namespace CallBridge.Toml

section Words

variable {cs rest : List Char} {n : Nat}

theorem takeWhile_dropWhile_append {p : Char → Bool} (h : ∀ c ∈ cs, p c = true) {d : Char}
    (hd : p d = false) (rest : List Char) :
    (cs ++ d :: rest).takeWhile p = cs ∧ (cs ++ d :: rest).dropWhile p = d :: rest := by
  rw [List.takeWhile_append_of_pos h, List.dropWhile_append_of_pos h, List.takeWhile_cons,
    List.dropWhile_cons, hd]
  simp

theorem digit_toDigits (n : Nat) : ∀ c ∈ Nat.toDigits 10 n, c.isDigit = true :=
  fun _ => Nat.isDigit_of_mem_toDigits (by decide) (by decide)

theorem underscored_of_digits (hne : cs ≠ []) (h : ∀ c ∈ cs, c.isDigit = true) :
    underscored Char.isDigit cs = true := by
  induction cs with
  | nil => exact absurd rfl hne
  | cons c cs ih =>
    obtain ⟨hc, hcs⟩ := List.forall_mem_cons.1 h
    cases cs with
    | nil => simpa [underscored] using hc
    | cons d cs =>
      have hd : d ≠ '_' := by
        rintro rfl
        exact absurd (hcs _ List.mem_cons_self) (by decide)
      rw [underscored, hc, ih (List.cons_ne_nil d cs) hcs]
      · rfl
      · nofun
      · rintro rest' ⟨⟩
        exact hd rfl

theorem digitsValue_toDigits (n : Nat) : digitsValue 10 (Nat.toDigits 10 n) = n := by
  have hfold (cs : List Char) (h : ∀ c ∈ cs, c.isDigit = true) (k : Nat) :
      cs.foldl (fun n c => if c = '_' then n else n * 10 + (Text.hexValue? c).getD 0) k =
        Nat.ofDigitChars 10 cs k := by
    induction cs generalizing k with
    | nil => rfl
    | cons c cs ih =>
      obtain ⟨hc, hcs⟩ := List.forall_mem_cons.1 h
      have hunderscore : c ≠ '_' := by
        rintro rfl
        exact absurd hc (by decide)
      have hvalue : Text.hexValue? c = some (c.toNat - '0'.toNat) := if_pos hc
      rw [List.foldl_cons, if_neg hunderscore, hvalue, ih hcs, Nat.ofDigitChars_cons, Nat.mul_comm]
      rfl
  rw [digitsValue, hfold _ (digit_toDigits n), Nat.ofDigitChars_ten_toDigits]

/-- No leading zero. -/
theorem head?_toDigits (hn : 0 < n) : (Nat.toDigits 10 n).head? ≠ some '0' := by
  induction n using Nat.strongRecOn with
  | ind n ih =>
    rw [Nat.toDigits_eq_if (by decide)]
    split_ifs with hsmall
    · have hdigit : ∀ d < 10, 0 < d → some (Nat.digitChar d) ≠ some '0' := by decide
      exact hdigit n hsmall hn
    · rw [List.head?_append_of_ne_nil _ Nat.toDigits_ne_nil]
      exact ih (n / 10) (by omega) (by omega)

theorem integer?_toDigits (h : n < 0x8000000000000000) :
    integer? (Nat.toDigits 10 n) = some (n : Int) := by
  have hdigits := digit_toDigits n
  have hdecimal : isDecimal (Nat.toDigits 10 n) = true := by
    rw [isDecimal, underscored_of_digits Nat.toDigits_ne_nil hdigits]
    rcases Nat.eq_zero_or_pos n with rfl | hpos
    · decide
    · simp [head?_toDigits hpos]
  have hrange : inRange (n : Int) = some (n : Int) := if_pos ⟨by omega, by omega⟩
  have hvalue := digitsValue_toDigits n
  generalize Nat.toDigits 10 n = cs at *
  have hsigned : signed cs = (false, cs) := by
    unfold signed
    split
    · exact absurd (hdigits '+' List.mem_cons_self) (by decide)
    · exact absurd (hdigits '-' List.mem_cons_self) (by decide)
    · rfl
  unfold integer?
  split
  · exact absurd (hdigits 'x' (by simp)) (by decide)
  · exact absurd (hdigits 'o' (by simp)) (by decide)
  · exact absurd (hdigits 'b' (by simp)) (by decide)
  · simp only [hsigned, if_pos hdecimal, hvalue, Bool.false_eq_true, if_false, hrange]

/-- A word is read up to the end of its line. -/
theorem word_line {text : List Char} (h : ∀ c ∈ text, isWord c = true) :
    (text ++ '\n' :: rest).takeWhile isWord = text ∧
      (text ++ '\n' :: rest).dropWhile isWord = '\n' :: rest :=
  takeWhile_dropWhile_append h (by decide) rest

theorem word_toDigits (h : n < 0x8000000000000000) (rest : List Char) :
    word (Nat.toDigits 10 n ++ '\n' :: rest) = some (.integer n, '\n' :: rest) := by
  have hdigits := digit_toDigits n
  have hwords : ∀ c ∈ Nat.toDigits 10 n, isWord c = true := fun c hc => by
    simp [isWord, Char.isAlphanum, hdigits c hc]
  have hread := integer?_toDigits h
  have htrue : Nat.toDigits 10 n ≠ ['t', 'r', 'u', 'e'] := fun heq =>
    absurd (hdigits 't' (by simp [heq])) (by decide)
  have hfalse : Nat.toDigits 10 n ≠ ['f', 'a', 'l', 's', 'e'] := fun heq =>
    absurd (hdigits 'f' (by simp [heq])) (by decide)
  simp only [word, word_line hwords, if_neg htrue, if_neg hfalse, hread]

theorem word_true : word ('t' :: 'r' :: 'u' :: 'e' :: '\n' :: rest) =
    some (.boolean true, '\n' :: rest) := rfl

theorem word_false : word ('f' :: 'a' :: 'l' :: 's' :: 'e' :: '\n' :: rest) =
    some (.boolean false, '\n' :: rest) := rfl

end Words

section Values

variable {rest : List Char}

theorem value_of_head? {cs : List Char} (hbracket : cs.head? ≠ some '[')
    (hbrace : cs.head? ≠ some '{') (depth : Nat) : value depth cs = simple cs := by
  cases depth with
  | zero => rfl
  | succ depth =>
    unfold value
    split
    · exact absurd rfl hbracket
    · exact absurd rfl hbrace
    · rfl

theorem value_word {c : Char} (hc : isWord c = true) (cs : List Char) (depth : Nat) :
    value depth (c :: cs) = word (c :: cs) := by
  have hne (d : Char) (hd : isWord d = false) : (c :: cs).head? ≠ some d := by
    rintro ⟨⟩
    rw [hc] at hd
    nomatch hd
  rw [value_of_head? (hne _ (by decide)) (hne _ (by decide))]
  unfold simple
  split
  next h => exact absurd (congrArg List.head? h) (hne '"' (by decide))
  next h => exact absurd (congrArg List.head? h) (hne '\'' (by decide))
  next => rfl

theorem value_written {s : String} {text : List Char} (h : Written s text) (depth : Nat) :
    value depth (text ++ '\n' :: rest) = some (.string s, '\n' :: rest) := by
  have hstring : string (text ++ '\n' :: rest) = some (s, '\n' :: rest) :=
    string_of_written h (by simp) (by simp)
  have hread := congrArg (Option.map fun p => (Value.string p.1, p.2)) hstring
  rw [value_of_head?]
  · cases h <;> exact hread
  all_goals cases h <;> simp

/-- A scalar is read back, up to the end of its line. -/
theorem value_text? {v : Scalar} {text : String} (h : v.text? = some text) (depth : Nat) :
    value depth (text.toList ++ '\n' :: rest) = some (v.value, '\n' :: rest) := by
  cases v with
  | string s =>
    obtain rfl := Option.some.inj h
    exact value_written (stringText_written s) depth
  | integer n =>
    obtain ⟨hn, htext⟩ := Option.ite_none_right_eq_some.1 h
    obtain rfl := Option.some.inj htext
    obtain ⟨c, cs, hcs⟩ := List.exists_cons_of_ne_nil (@Nat.toDigits_ne_nil n 10)
    have hread := word_toDigits hn rest
    have hc : isWord c = true := by
      simp [isWord, Char.isAlphanum, digit_toDigits n c (by simp [hcs])]
    rw [Nat.toString_eq_ofList_toDigits, String.toList_ofList]
    rw [hcs] at hread ⊢
    exact (value_word hc _ depth).trans hread
  | boolean b =>
    obtain rfl := Option.some.inj h
    cases b
    · exact (value_word (by decide) _ depth).trans word_false
    · exact (value_word (by decide) _ depth).trans word_true

/-- The text of a scalar does not start with a blank. -/
theorem skipSpace_text? {v : Scalar} {text : String} (h : v.text? = some text) (cs : List Char) :
    skipSpace (' ' :: (text.toList ++ cs)) = text.toList ++ cs := by
  have hstart {text : List Char} (htext : ∃ c cs, text = c :: cs ∧ isSpace c = false) :
      skipSpace (' ' :: (text ++ cs)) = text ++ cs := by
    obtain ⟨c, cs, rfl, hc⟩ := htext
    rw [skipSpace, List.dropWhile_cons_of_pos (by decide), List.cons_append, List.dropWhile_cons,
      hc]
    simp
  apply hstart
  cases v with
  | string s =>
    obtain rfl := Option.some.inj h
    have hw := stringText_written s
    generalize (stringText s).toList = text at hw ⊢
    cases hw <;> exact ⟨_, _, rfl, by decide⟩
  | integer n =>
    obtain ⟨-, htext⟩ := Option.ite_none_right_eq_some.1 h
    obtain rfl := Option.some.inj htext
    obtain ⟨c, cs, hcs⟩ := List.exists_cons_of_ne_nil (@Nat.toDigits_ne_nil n 10)
    have hdigit := digit_toDigits n c (by simp [hcs])
    refine ⟨c, cs, by rw [Nat.toString_eq_ofList_toDigits, String.toList_ofList, hcs], ?_⟩
    by_contra hc
    rcases Bool.or_eq_true_iff.1 (Bool.not_eq_false _ ▸ hc) with hc | hc <;>
      exact absurd (eq_of_beq hc ▸ hdigit) (by decide)
  | boolean b =>
    obtain rfl := Option.some.inj h
    cases b <;> exact ⟨_, _, rfl, by decide⟩

theorem return_notMem_text? {v : Scalar} {text : String} (h : v.text? = some text) :
    '\r' ∉ text.toList := by
  cases v with
  | string s =>
    obtain rfl := Option.some.inj h
    exact return_notMem_of_written (stringText_written s)
  | integer n =>
    obtain ⟨-, htext⟩ := Option.ite_none_right_eq_some.1 h
    obtain rfl := Option.some.inj htext
    rw [Nat.toString_eq_ofList_toDigits, String.toList_ofList]
    exact fun hin => absurd (digit_toDigits n _ hin) (by decide)
  | boolean b =>
    obtain rfl := Option.some.inj h
    cases b <;> decide

end Values

section Lines

variable {root root' root'' : Table} {here here' here'' : List String} {text text' rest : List Char}
  {k : String} {limit : Nat}

/-- A key that is written as it is. -/
def Bare (k : String) : Prop := k.toList ≠ [] ∧ ∀ c ∈ k.toList, isBareKey c = true

instance (k : String) : Decidable (Bare k) :=
  decidable_of_iff (k.toList ≠ [] ∧ k.toList.all isBareKey = true)
    (and_congr_right fun _ => List.all_eq_true)

/-- A bare key starts with none of the characters that blanks, quotes and other lines start with. -/
theorem Bare.append_ne (hk : Bare k) {d : Char} (hd : isBareKey d = false) (cs rest : List Char) :
    k.toList ++ cs ≠ d :: rest := by
  obtain ⟨c, more, hcs⟩ := List.exists_cons_of_ne_nil hk.1
  have hc : isBareKey c = true := hk.2 c (by simp [hcs])
  rw [hcs, List.cons_append]
  rintro ⟨⟩
  rw [hc] at hd
  nomatch hd

theorem Bare.skipSpace (hk : Bare k) (cs : List Char) :
    skipSpace (k.toList ++ cs) = k.toList ++ cs := by
  cases h : k.toList ++ cs with
  | nil => rfl
  | cons c more =>
    have hspace : isSpace c = false := by
      by_contra hc
      rcases Bool.or_eq_true_iff.1 (Bool.not_eq_false _ ▸ hc) with hc | hc <;>
        exact absurd (eq_of_beq hc ▸ h) (hk.append_ne (by decide) cs more)
    rw [Toml.skipSpace, List.dropWhile_cons, hspace]
    simp

theorem Bare.keyPart (hk : Bare k) {d : Char} (hd : isBareKey d = false) (rest : List Char) :
    keyPart (k.toList ++ d :: rest) = some (k, d :: rest) := by
  obtain ⟨htake, hdrop⟩ := takeWhile_dropWhile_append hk.2 hd rest
  unfold Toml.keyPart
  split
  next h => exact absurd h (hk.append_ne (by decide) _ _)
  next h => exact absurd h (hk.append_ne (by decide) _ _)
  next => simp [htake, hdrop, hk.1]

/-- A bare key ends at a character that belongs to no key, with blanks before it left out. -/
theorem Bare.key (hk : Bare k) {d e : Char} (hd : isBareKey d = false) {rest more : List Char}
    (hrest : Toml.skipSpace (d :: rest) = e :: more) (he : e ≠ '.') (limit : Nat) :
    key (limit + 1) (k.toList ++ d :: rest) = some (([], k), e :: more) := by
  rw [Toml.key, hk.skipSpace, hk.keyPart hd, Option.bind_eq_bind, Option.bind_some]
  dsimp only
  rw [hrest]
  split
  next h => exact absurd (List.cons.inj h).1 he
  next => rfl

theorem lineEnd_feed : lineEnd ('\n' :: rest) = some rest := rfl

theorem header_line (hk : Bare k) :
    header [']'] (k.toList ++ ']' :: '\n' :: rest) = some (([], k), rest) := by
  rw [header, show depthLimit = 78 + 1 from rfl, hk.key (by decide) rfl (by decide)]
  rfl

theorem pair_line {v : Scalar} {text : String} (hk : Bare k) (hv : v.text? = some text)
    (depth : Nat) :
    pair (value depth) (k.toList ++ ' ' :: '=' :: ' ' :: (text.toList ++ '\n' :: rest)) =
      some ((([], k), v.value), '\n' :: rest) := by
  rw [pair, show depthLimit = 78 + 1 from rfl, hk.key (by decide) rfl (by decide),
    Option.bind_eq_bind, Option.bind_some]
  simp only [skipSpace_text? hv, value_text? hv]
  rfl

theorem Table.lookup_eq_none {t : Table} (h : k ∉ t.map Prod.fst) : t.lookup k = none := by
  rw [List.lookup_eq_none_iff]
  intro entry hentry
  simpa using fun heq : k = entry.1 => h (heq ▸ List.mem_map_of_mem hentry)

/-- The entry added last is found under its key. -/
theorem Table.lookup_last {t : Table} (h : k ∉ t.map Prod.fst) (v : Value) :
    (t ++ [(k, v)]).lookup k = some v := by
  rw [List.lookup_append, lookup_eq_none h]
  simp

theorem Table.replace_last {t : Table} (h : k ∉ t.map Prod.fst) (v v' : Value) :
    Table.replace (t ++ [(k, v)]) k v' = t ++ [(k, v')] := by
  have hother : t.map (fun entry => if entry.1 = k then (k, v') else entry) = t.map id := by
    refine List.map_congr_left fun entry hentry => if_neg ?_
    rintro rfl
    exact h (List.mem_map_of_mem hentry)
  rw [Table.replace, List.map_append, hother, List.map_id]
  simp

/-- A header opens a table that is not there yet. -/
theorem Table.openTable_new (h : k ∉ root.map Prod.fst) :
    root.openTable [] k = some (root ++ [(k, .table .header [])]) := by
  rw [openTable, update, lookup_eq_none h]
  rfl

/-- A key goes to the table that was opened last. -/
theorem Table.update_last {name : String} (h : name ∉ root.map Prod.fst) {entries : Table}
    (hk : k ∉ entries.map Prod.fst) (v : Value) :
    Table.update false (fun f t => t.insert f [] k v) [name] .header
        (root ++ [(name, .table .header entries)]) =
      some (.header, root ++ [(name, .table .header (entries ++ [(k, v)]))]) := by
  have hinsert : Table.insert entries .header [] k v = some (.header, entries ++ [(k, v)]) := by
    rw [insert, update, lookup_eq_none hk]
    rfl
  simp only [update, lookup_last h, hinsert, replace_last h]
  rfl

/-- Reading `text` turns one state of the document into another, whatever comes behind. -/
def Adds (text : List Char) (root : Table) (here : List String) (root' : Table)
    (here' : List String) : Prop :=
  ∀ rest bound, (text ++ rest).length < bound → ∃ bound', rest.length < bound' ∧
    lines bound root here (text ++ rest) = lines bound' root' here' rest

theorem Adds.nil : Adds [] root here root here := fun _ bound h => ⟨bound, h, rfl⟩

theorem Adds.append (h : Adds text root here root' here')
    (h' : Adds text' root' here' root'' here'') : Adds (text ++ text') root here root'' here'' := by
  intro rest bound hbound
  rw [List.append_assoc] at hbound ⊢
  obtain ⟨bound', hbound', heq⟩ := h (text' ++ rest) bound hbound
  obtain ⟨bound'', hbound'', heq'⟩ := h' rest bound' hbound'
  exact ⟨bound'', hbound'', heq.trans heq'⟩

/-- What is left after one line is shorter. -/
theorem adds_line (h : ∀ rest bound, lines (bound + 1) root here (text ++ rest) =
    lines bound root' here' rest) (hne : text ≠ []) : Adds text root here root' here' := by
  intro rest bound hbound
  have hlength := List.length_pos_of_ne_nil hne
  rw [List.length_append] at hbound
  obtain ⟨bound, rfl⟩ : ∃ b, bound = b + 1 := ⟨bound - 1, by omega⟩
  exact ⟨bound, by omega, h rest bound⟩

theorem adds_blank : Adds ['\n'] root here root here :=
  adds_line (fun _ _ => rfl) (List.cons_ne_nil _ _)

theorem adds_header {name : String} (hname : Bare name) (hnew : name ∉ root.map Prod.fst)
    (here : List String) :
    Adds ('[' :: (name.toList ++ [']', '\n'])) root here
      (root ++ [(name, .table .header [])]) [name] := by
  refine adds_line (fun rest bound => ?_) (List.cons_ne_nil _ _)
  rw [List.cons_append, List.append_assoc, lines]
  have hskip : skipSpace ('[' :: (name.toList ++ ([']', '\n'] ++ rest))) =
      '[' :: (name.toList ++ ([']', '\n'] ++ rest)) := rfl
  rw [hskip]
  split
  next h => nomatch h
  next h => nomatch h
  next h => nomatch h
  next h => exact absurd (List.cons.inj h).2 (hname.append_ne (by decide) _ _)
  next h =>
    obtain rfl := (List.cons.inj h).2
    rw [List.cons_append, List.cons_append, List.nil_append, header_line hname]
    simp only [Option.bind_eq_bind, Option.bind_some, Table.openTable_new hnew]
    rfl
  next _ hbracket => exact absurd rfl (hbracket _)

theorem adds_entry {name : String} (hnew : name ∉ root.map Prod.fst) {entries : Table}
    (hk : Bare k) (hkey : k ∉ entries.map Prod.fst) {v : Scalar} {text : String}
    (hv : v.text? = some text) :
    Adds (k.toList ++ ' ' :: '=' :: ' ' :: (text.toList ++ ['\n']))
      (root ++ [(name, .table .header entries)]) [name]
      (root ++ [(name, .table .header (entries ++ [(k, v.value)]))]) [name] := by
  refine adds_line (fun rest bound => ?_) (by simp)
  simp only [List.append_assoc, List.cons_append, List.nil_append]
  rw [lines, hk.skipSpace]
  split
  next h => exact absurd h (by simp [hk.1])
  next h => exact absurd h (hk.append_ne (by decide) _ _)
  next h => exact absurd h (hk.append_ne (by decide) _ _)
  next h => exact absurd h (hk.append_ne (by decide) _ _)
  next h => exact absurd h (hk.append_ne (by decide) _ _)
  next =>
    rw [pair_line hk hv]
    simp only [Option.bind_eq_bind, Option.bind_some, lineEnd_feed, Table.update_last hnew hkey]

end Lines

section Documents

variable {d : Document} {root : Table} {here : List String} {text : List Char} {name s : String}
  {entries : List (String × Scalar)}

/-- Entries of a section as a table has them. -/
abbrev values (entries : List (String × Scalar)) : Table := entries.map fun (k, v) => (k, v.value)

theorem keys_values (entries : List (String × Scalar)) :
    (values entries).map Prod.fst = entries.map Prod.fst := by
  rw [List.map_map]
  rfl

/-- The line of an entry. -/
def EntryLine (e : String × Scalar) (line : String) : Prop :=
  ∃ text, e.2.text? = some text ∧ line = e.1 ++ " = " ++ text ++ "\n"

theorem mapM_eq_some_iff {α β : Type} {f : α → Option β} {as : List α} {bs : List β} :
    as.mapM f = some bs ↔ List.Forall₂ (fun a b => f a = some b) as bs := by
  constructor
  · intro h
    induction as generalizing bs with
    | nil =>
      obtain rfl := Option.some.inj h
      exact .nil
    | cons a as ih =>
      rw [List.mapM_cons] at h
      obtain ⟨b, hb, h⟩ := Option.bind_eq_some_iff.1 h
      obtain ⟨bs, hbs, h⟩ := Option.bind_eq_some_iff.1 h
      obtain rfl := Option.some.inj h
      exact .cons hb (ih hbs)
  · intro h
    induction h with
    | nil => rfl
    | cons hb _ ih =>
      rw [List.mapM_cons, hb, ih]
      rfl

theorem exists_mapM {α β : Type} {f : α → Option β} {as : List α}
    (h : ∀ a ∈ as, ∃ b, f a = some b) :
    ∃ bs, as.mapM f = some bs := by
  induction as with
  | nil => exact ⟨[], rfl⟩
  | cons a as ih =>
    obtain ⟨⟨b, hb⟩, has⟩ := List.forall_mem_cons.1 h
    obtain ⟨bs, hbs⟩ := ih has
    exact ⟨b :: bs, by rw [List.mapM_cons, hb, hbs]; rfl⟩

theorem sectionText?_eq_some_iff : sectionText? name entries = some s ↔
    ∃ lines, List.Forall₂ EntryLine entries lines ∧
      s = "[" ++ name ++ "]\n" ++ String.join lines := by
  have hline (e : String × Scalar) (line : String) :
      (e.2.text?.map fun text => e.1 ++ " = " ++ text ++ "\n") = some line ↔ EntryLine e line := by
    rw [Option.map_eq_some_iff]
    exact exists_congr fun text => and_congr_right fun _ => eq_comm
  rw [sectionText?, Option.bind_eq_bind, Option.bind_eq_some_iff]
  simp only [mapM_eq_some_iff, hline, Option.some.injEq]
  exact exists_congr fun lines => and_congr_right fun _ => eq_comm

/-- Names and keys are bare, and no two of them are the same. -/
structure Document.Plain (d : Document) : Prop where
  names : (d.map Prod.fst).Nodup
  bare : ∀ s ∈ d, Bare s.1
  keys : ∀ s ∈ d, (s.2.map Prod.fst).Nodup
  bareKeys : ∀ s ∈ d, ∀ e ∈ s.2, Bare e.1

theorem Document.Plain.sublist {d d' : Document} (h : d.Plain) (hd : List.Sublist d' d) :
    Document.Plain d' where
  names := h.names.sublist (hd.map _)
  bare s hs := h.bare s (hd.subset hs)
  keys s hs := h.keys s (hd.subset hs)
  bareKeys s hs := h.bareKeys s (hd.subset hs)

theorem adds_entries {lines : List String} (h : List.Forall₂ EntryLine entries lines)
    (before : List (String × Scalar)) (hnew : name ∉ root.map Prod.fst)
    (hbare : ∀ e ∈ entries, Bare e.1) (hkeys : ((before ++ entries).map Prod.fst).Nodup) :
    Adds (String.join lines).toList
      (root ++ [(name, .table .header (values before))]) [name]
      (root ++ [(name, .table .header (values (before ++ entries)))]) [name] := by
  induction h generalizing before with
  | nil =>
    rw [List.append_nil]
    exact .nil
  | @cons e line entries lines hline _ ih =>
    obtain ⟨k, v⟩ := e
    obtain ⟨text, hv, rfl⟩ := hline
    obtain ⟨hk, hbare⟩ := List.forall_mem_cons.1 hbare
    have hkey : k ∉ (values before).map Prod.fst := by
      rw [keys_values]
      rw [List.map_append] at hkeys
      exact fun hin => (List.nodup_append.1 hkeys).2.2 k hin k (by simp) rfl
    have hstep := adds_entry hnew hk hkey hv
    have hrest := ih (before ++ [(k, v)]) hbare (by simpa using hkeys)
    rw [values, List.map_append, List.append_assoc] at hrest
    simpa [String.join_cons] using hstep.append hrest

theorem adds_section (hs : sectionText? name entries = some s) (hname : Bare name)
    (hnew : name ∉ root.map Prod.fst) (hbare : ∀ e ∈ entries, Bare e.1)
    (hkeys : (entries.map Prod.fst).Nodup) (here : List String) :
    Adds s.toList root here (root ++ [(name, .table .header (values entries))]) [name] := by
  obtain ⟨lines, hlines, rfl⟩ := sectionText?_eq_some_iff.1 hs
  have hentries := adds_entries hlines [] hnew hbare hkeys
  simpa using (adds_header hname hnew here).append hentries

/-- Texts of a document: its sections in order, with blank lines before, between and after them. -/
inductive Shows : Document → List Char → Prop where
  | nil : Shows [] []
  | blank {d : Document} {text : List Char} (h : Shows d text) : Shows d ('\n' :: text)
  | entry {d : Document} {name s : String} {entries : List (String × Scalar)} {text : List Char}
    (hs : sectionText? name entries = some s) (h : Shows d text) :
    Shows ((name, entries) :: d) (s.toList ++ text)

theorem adds_shows (h : Shows d text) (hd : d.Plain) (root : Table)
    (hnew : ∀ s ∈ d, s.1 ∉ root.map Prod.fst) (here : List String) :
    ∃ here', Adds text root here (root ++ d.table) here' := by
  induction h generalizing root here with
  | nil =>
    rw [Document.table, List.map_nil, List.append_nil]
    exact ⟨here, .nil⟩
  | blank _ ih =>
    obtain ⟨here', hadds⟩ := ih hd root hnew here
    exact ⟨here', adds_blank.append hadds⟩
  | @entry d name s entries text hs _ ih =>
    obtain ⟨hfresh, hnew⟩ := List.forall_mem_cons.1 hnew
    obtain ⟨hdistinct, -⟩ := List.nodup_cons.1 hd.names
    have hstep := adds_section hs (hd.bare _ List.mem_cons_self) hfresh
      (hd.bareKeys _ List.mem_cons_self) (hd.keys _ List.mem_cons_self) here
    have hnext : ∀ s ∈ d,
        s.1 ∉ (root ++ [(name, Value.table .header (values entries))]).map Prod.fst := by
      intro other hother
      have hne : other.1 ≠ name := fun heq =>
        hdistinct (List.mem_map.2 ⟨other, hother, heq⟩)
      simpa [hne] using hnew other hother
    obtain ⟨here', hrest⟩ := ih (hd.sublist (List.sublist_cons_self _ _)) _ hnext [name]
    refine ⟨here', ?_⟩
    simpa [Document.table] using hstep.append hrest

theorem unifyLineEnds_of_notMem {cs : List Char} (h : '\r' ∉ cs) : unifyLineEnds cs = cs := by
  induction cs with
  | nil => rfl
  | cons c cs ih =>
    rw [List.mem_cons, not_or] at h
    rw [unifyLineEnds, ih h.2]
    rintro rest rfl
    exact absurd rfl h.1

theorem return_notMem_section (hs : sectionText? name entries = some s) (hname : Bare name)
    (hbare : ∀ e ∈ entries, Bare e.1) : '\r' ∉ s.toList := by
  have hkey {k : String} (hk : Bare k) : '\r' ∉ k.toList := fun hin =>
    absurd (hk.2 _ hin) (by decide)
  obtain ⟨lines, hlines, rfl⟩ := sectionText?_eq_some_iff.1 hs
  have hjoin : ∀ line ∈ lines, '\r' ∉ line.toList := by
    clear hs
    induction hlines with
    | nil => nofun
    | cons hline _ ih =>
      obtain ⟨text, hv, rfl⟩ := hline
      obtain ⟨hk, hbare⟩ := List.forall_mem_cons.1 hbare
      refine List.forall_mem_cons.2 ⟨?_, ih hbare⟩
      simp [hkey hk, return_notMem_text? hv]
  simpa [hkey hname] using hjoin

theorem return_notMem_shows (h : Shows d text) (hd : d.Plain) : '\r' ∉ text := by
  induction h with
  | nil => exact List.not_mem_nil
  | blank _ ih => simpa using ih hd
  | entry hs _ ih =>
    have hsection := return_notMem_section hs (hd.bare _ List.mem_cons_self)
      (hd.bareKeys _ List.mem_cons_self)
    rw [List.mem_append, not_or]
    exact ⟨hsection, ih (hd.sublist (List.sublist_cons_self _ _))⟩

/-- No text of a document starts with a byte order mark. -/
theorem Shows.ne_mark (h : Shows d text) (rest : List Char) : text ≠ '\uFEFF' :: rest := by
  cases h with
  | nil => nofun
  | blank => exact fun heq => absurd (List.cons.inj heq).1 (by decide)
  | entry hs =>
    obtain ⟨lines, -, rfl⟩ := sectionText?_eq_some_iff.1 hs
    simp only [String.toList_append]
    exact fun heq => absurd (List.cons.inj heq).1 (by decide)

/-- A document is read back as the table that it stands for. -/
theorem read_shows (h : Shows d text) (hd : d.Plain) :
    read (String.ofList text) = some d.table := by
  obtain ⟨here, hadds⟩ := adds_shows h hd [] (fun _ _ => List.not_mem_nil) []
  obtain ⟨bound, hbound, hlines⟩ := hadds [] (text.length + 1) (by simp)
  obtain ⟨bound, rfl⟩ : ∃ b, bound = b + 1 := ⟨bound - 1, by simp at hbound; omega⟩
  rw [List.append_nil, List.nil_append] at hlines
  rw [read, String.toList_ofList]
  split
  next => exact absurd rfl (h.ne_mark _)
  next =>
    rw [unifyLineEnds_of_notMem (return_notMem_shows h hd), hlines]
    rfl

theorem shows_write {text : String} (h : write d = some text) : Shows d text.toList := by
  obtain ⟨texts, htexts, rfl⟩ := Option.map_eq_some_iff.1 h
  rw [mapM_eq_some_iff] at htexts
  clear h
  induction htexts with
  | nil => exact .nil
  | @cons _ _ _ texts hs hrest ih =>
    cases hrest with
    | nil => simpa using Shows.entry hs .nil
    | cons =>
      rw [String.intercalate_cons_cons, String.toList_append, String.toList_append,
        List.append_assoc]
      exact .entry hs (.blank ih)

/-- A document can be written if each of its values can. -/
theorem exists_write (h : ∀ s ∈ d, ∀ e ∈ s.2, ∃ text, e.2.text? = some text) :
    ∃ text, write d = some text := by
  have hsection : ∀ s ∈ d, ∃ text, sectionText? s.1 s.2 = some text := by
    intro s hs
    have hline : ∀ e ∈ s.2, ∃ line,
        (e.2.text?.map fun text => e.1 ++ " = " ++ text ++ "\n") = some line := by
      intro e he
      obtain ⟨text, htext⟩ := h s hs e he
      exact ⟨_, congrArg (Option.map _) htext⟩
    obtain ⟨lines, hlines⟩ := exists_mapM hline
    exact ⟨_, congrArg (Option.bind · _) hlines⟩
  obtain ⟨texts, htexts⟩ := exists_mapM hsection
  exact ⟨_, congrArg (Option.map _) htexts⟩

end Documents

/-- A table has the sections of a document, each with just its entries. Their order and the forms of
the tables are left open. -/
def Table.Holds (t : Table) (d : Document) : Prop :=
  ∀ name, match d.lookup name with
    | none => t.lookup name = none
    | some entries => ∃ form sub, t.lookup name = some (.table form sub) ∧
        ∀ key, sub.lookup key = (entries.lookup key).map Scalar.value

/-- All integers are such as a reader takes. -/
def Document.InRange (d : Document) : Prop :=
  ∀ s ∈ d, ∀ e ∈ s.2, ∀ n, e.2 = .integer n → n < 0x8000000000000000

/-- Sections of strings, integers and booleans can be written, and are read as they were. -/
structure Library.Faithful (lib : Library) : Prop where
  exists_write : ∀ d : Document, d.Plain → d.InRange → ∃ text, lib.write d = .ok text
  read_write : ∀ (d : Document) (text : String), d.Plain → lib.write d = .ok text →
    ∃ t, lib.read text = .ok t ∧ t.Holds d

theorem Document.holds_table (d : Document) : d.table.Holds d := by
  intro name
  have hlookup : d.table.lookup name =
      (d.lookup name).map fun entries => .table .header (values entries) :=
    Index.lookup_map (fun _ entries => Value.table .header (values entries)) name d
  rw [hlookup]
  cases d.lookup name with
  | none => rfl
  | some entries => exact ⟨_, _, rfl, fun key => Index.lookup_map (fun _ v => v.value) key entries⟩

theorem library_write_eq_ok_iff {d : Document} {text : String} :
    library.write d = .ok text ↔ write d = some text := by
  simp only [library]
  cases write d <;> simp

theorem library_read_eq_ok_iff {t : Table} {text : String} :
    library.read text = .ok t ↔ read text = some t := by
  simp only [library]
  cases read text <;> simp

theorem library_faithful : library.Faithful where
  exists_write d _ hrange := by
    simp only [library_write_eq_ok_iff]
    apply exists_write
    intro s hs e he
    cases hv : e.2 with
    | string s => exact ⟨_, rfl⟩
    | integer n => exact ⟨_, if_pos (hrange s hs e he n hv)⟩
    | boolean b => exact ⟨_, rfl⟩
  read_write d text hd hwrite := by
    have hread := read_shows (shows_write (library_write_eq_ok_iff.1 hwrite)) hd
    rw [String.ofList_toList] at hread
    exact ⟨d.table, library_read_eq_ok_iff.2 hread, d.holds_table⟩

end CallBridge.Toml
