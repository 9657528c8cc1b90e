import CallBridge.Toml.Reader
import CallBridge.Toml.Writer
import Mathlib.Data.List.Basic
import Mathlib.Tactic.SplitIfs

/-!
Strings of a document are read back as they were written, whichever of the four ways to write them
was taken, and reading stops right behind them.
-/

namespace CallBridge.Toml

section BasicText

variable {multiline : Bool} {quotes seen : Nat} {c : Char} {cs : List Char}

@[simp] theorem basicText_nil : basicText multiline quotes seen [] = "" := by
  rw [basicText]

theorem basicText_quote_of_lt (h : seen < quotes) :
    (basicText multiline quotes seen ('"' :: cs)).toList =
      '"' :: (basicText multiline quotes (seen + 1) cs).toList := by
  rw [basicText, if_pos h, String.toList_append]
  rfl

theorem basicText_quote_of_le (h : quotes ≤ seen) :
    (basicText multiline quotes seen ('"' :: cs)).toList =
      '\\' :: '"' :: (basicText multiline quotes 0 cs).toList := by
  rw [basicText, if_neg (Nat.not_lt.2 h), String.toList_append]
  rfl

theorem basicText_char (h : c ≠ '"') :
    (basicText multiline quotes seen (c :: cs)).toList =
      (charText multiline c).toList ++ (basicText multiline quotes 0 cs).toList := by
  rw [basicText, String.toList_append]
  exact h

end BasicText

theorem hexUpper_spec {n : Nat} (h : n < 0x80) :
    (hexUpper 4 n).toList.length = 4 ∧
      Text.codePoint? (hexUpper 4 n).toList = some (Char.ofNat n) ∧
      '\r' ∉ (hexUpper 4 n).toList := by
  have hall : ∀ n < 0x80, (hexUpper 4 n).toList.length = 4 ∧
      Text.codePoint? (hexUpper 4 n).toList = some (Char.ofNat n) ∧
      '\r' ∉ (hexUpper 4 n).toList := by
    decide +kernel
  exact hall n h

/-- What a character other than a quote is written as. -/
inductive WrittenChar (multiline : Bool) (c : Char) : List Char → Prop where
  | plain (hplain : isPlain c = true) (hbackslash : c ≠ '\\') : WrittenChar multiline c [c]
  | feed (hmultiline : multiline = true) (hc : c = '\n') : WrittenChar multiline c ['\n']
  | escape {e : Char} (he : escaped? e = some c) : WrittenChar multiline c ['\\', e]
  | unicode {x y z w : Char} (hpoint : Text.codePoint? [x, y, z, w] = some c)
      (hr : '\r' ∉ [x, y, z, w]) : WrittenChar multiline c ['\\', 'u', x, y, z, w]

theorem charText_written (multiline : Bool) (c : Char) :
    WrittenChar multiline c (charText multiline c).toList := by
  unfold charText
  split
  case h_3 =>
    cases multiline with
    | true => exact .feed rfl rfl
    | false => exact .escape rfl
  case h_7 _ _ _ _ _ _ hbackslash =>
    split_ifs with hcontrol
    · have hsmall : c.toNat < 0x80 := by omega
      obtain ⟨hlength, hpoint, hreturn⟩ := hexUpper_spec hsmall
      rw [Char.ofNat_toNat] at hpoint
      match hdigits : (hexUpper 4 c.toNat).toList, hlength with
      | [x, y, z, w], _ =>
        rw [hdigits] at hpoint hreturn
        rw [String.toList_append, hdigits]
        exact .unicode hpoint hreturn
    · rw [Char.toString, String.toList_singleton]
      refine .plain ?_ hbackslash
      simp only [isPlain, Bool.or_eq_true, Bool.and_eq_true, decide_eq_true_eq]
      omega
  all_goals exact .escape rfl

/-- A reader of what single characters are written as. -/
structure ReadsChars (multiline : Bool) (read : List Char → Option (List Char × List Char)) :
    Prop where
  plain {c : Char} (rest : List Char) (hquote : c ≠ '"') (hbackslash : c ≠ '\\')
    (hplain : isPlain c = true) : read (c :: rest) = push c (read rest)
  feed (rest : List Char) (hmultiline : multiline = true) :
    read ('\n' :: rest) = push '\n' (read rest)
  escape {e c : Char} (rest : List Char) (he : escaped? e = some c) :
    read ('\\' :: e :: rest) = push c (read rest)
  unicode {x y z w c : Char} (rest : List Char) (hpoint : Text.codePoint? [x, y, z, w] = some c) :
    read ('\\' :: 'u' :: x :: y :: z :: w :: rest) = push c (read rest)

theorem ReadsChars.charText {multiline : Bool} {read : List Char → Option (List Char × List Char)}
    (h : ReadsChars multiline read) {c : Char} (hquote : c ≠ '"') (rest : List Char) :
    read ((charText multiline c).toList ++ rest) = push c (read rest) := by
  have hform := charText_written multiline c
  generalize (Toml.charText multiline c).toList = text at hform ⊢
  cases hform with
  | plain hplain hbackslash => exact h.plain rest hquote hbackslash hplain
  | feed hmultiline hc => exact hc ▸ h.feed rest hmultiline
  | escape he => exact h.escape rest he
  | unicode hpoint => exact h.unicode rest hpoint

theorem escaped?_ne {e c : Char} (h : escaped? e = some c) :
    e ≠ 'u' ∧ e ≠ 'U' ∧ isSpace e = false ∧ e ≠ '\n' ∧ e ≠ '\r' := by
  unfold escaped? at h
  split at h <;> cases h <;> decide

theorem basicString_readsChars : ReadsChars false basicString where
  plain rest hquote hbackslash hplain := by
    rw [basicString]
    · simp [hplain, hbackslash]
    all_goals grind
  feed _ h := by cases h
  escape rest he := by
    obtain ⟨hu, hU, -⟩ := escaped?_ne he
    rw [basicString]
    · rw [he]
      rfl
    all_goals grind
  unicode rest hpoint := by
    rw [basicString, hpoint]
    rfl

theorem multilineBasic_readsChars : ReadsChars true (multilineBasic false) where
  plain rest hquote hbackslash hplain := by
    rw [multilineBasic]
    · simp [hplain, hbackslash]
    all_goals grind
  feed rest _ := by
    rw [multilineBasic]
    · rfl
    all_goals grind
  escape rest he := by
    obtain ⟨hu, hU, hspace, hfeed, -⟩ := escaped?_ne he
    rw [multilineBasic]
    · simp [endsLine, hspace, hfeed, he]
    all_goals grind
  unicode rest hpoint := by
    rw [multilineBasic, hpoint]
    rfl

theorem head?_charText {multiline : Bool} {c : Char} (h : c ≠ '"') (rest : List Char) :
    ((charText multiline c).toList ++ rest).head? ≠ some '"' := by
  have hform := charText_written multiline c
  generalize (charText multiline c).toList = text at hform ⊢
  cases hform with
  | plain => simpa using h
  | feed | escape | unicode => simp

theorem basicString_basicText (seen : Nat) (cs rest : List Char) :
    basicString ((basicText false 0 seen cs).toList ++ '"' :: rest) = some (cs, rest) := by
  induction cs generalizing seen with
  | nil => rw [basicText_nil, String.toList_empty, List.nil_append, basicString]
  | cons c cs ih =>
    by_cases hc : c = '"'
    · subst hc
      rw [basicText_quote_of_le (Nat.zero_le seen), List.cons_append, List.cons_append,
        basicString_readsChars.escape _ rfl, ih]
      rfl
    · rw [basicText_char hc, List.append_assoc, basicString_readsChars.charText hc, ih]
      rfl

theorem literalString_append {cs : List Char} (hplain : ∀ c ∈ cs, isPlain c = true)
    (hquote : '\'' ∉ cs) (rest : List Char) :
    literalString (cs ++ '\'' :: rest) = some (cs, rest) := by
  induction cs with
  | nil => rw [List.nil_append, literalString]
  | cons c cs ih =>
    obtain ⟨hc, hcs⟩ := List.forall_mem_cons.1 hplain
    rw [List.mem_cons, not_or] at hquote
    rw [List.cons_append, literalString, if_pos hc, ih hcs hquote.2]
    · rfl
    · exact Ne.symm hquote.1

/-- A reader of strings that three quotes end. -/
structure ReadsQuotes (quote : Char) (read : List Char → Option (List Char × List Char)) :
    Prop where
  close (rest : List Char) :
    read (quote :: quote :: quote :: rest) = some (trailingQuotes quote rest)
  keep {cs : List Char} (h : ∀ rest, cs ≠ quote :: quote :: rest) :
    read (quote :: cs) = push quote (read cs)

theorem trailingQuotes_replicate {quote : Char} {n : Nat} (hn : n ≤ 2) {rest : List Char}
    (hrest : rest.head? ≠ some quote) :
    trailingQuotes quote (List.replicate n quote ++ rest) = (List.replicate n quote, rest) := by
  obtain rfl | rfl | rfl : n = 0 ∨ n = 1 ∨ n = 2 := by omega
  · match rest with
    | [] => rfl
    | [a] => simp_all [trailingQuotes]
    | a :: b :: rest => simp_all [trailingQuotes]
  · cases rest <;> simp_all [trailingQuotes]
  · simp [trailingQuotes]

namespace ReadsQuotes

variable {quote : Char} {read : List Char → Option (List Char × List Char)}

theorem close_after (h : ReadsQuotes quote read) {n : Nat} (hn : n ≤ 2) {rest : List Char}
    (hrest : rest.head? ≠ some quote) :
    read (List.replicate n quote ++ quote :: quote :: quote :: rest) =
      some (List.replicate n quote, rest) := by
  have hswap : List.replicate n quote ++ quote :: quote :: quote :: rest =
      quote :: quote :: quote :: (List.replicate n quote ++ rest) := by
    obtain rfl | rfl | rfl : n = 0 ∨ n = 1 ∨ n = 2 := by omega
    all_goals rfl
  rw [hswap, h.close, trailingQuotes_replicate hn hrest]

/-- Up to two quotes before something else belong to the string. -/
theorem replicate_append (h : ReadsQuotes quote read) {n : Nat} (hn : n ≤ 2)
    {cs text rest : List Char} (hhead : cs.head? ≠ some quote)
    (hread : read cs = some (text, rest)) :
    read (List.replicate n quote ++ cs) = some (List.replicate n quote ++ text, rest) := by
  have hone : read (quote :: cs) = push quote (read cs) :=
    h.keep fun _ heq => hhead (heq ▸ rfl)
  have htwo : read (quote :: quote :: cs) = push quote (read (quote :: cs)) :=
    h.keep fun _ heq => hhead ((List.cons.inj heq).2 ▸ rfl)
  obtain rfl | rfl | rfl : n = 0 ∨ n = 1 ∨ n = 2 := by omega
  · exact hread
  · exact hone.trans (hread ▸ rfl)
  · exact htwo.trans (hone ▸ hread ▸ rfl)

end ReadsQuotes

theorem multilineBasic_readsQuotes : ReadsQuotes '"' (multilineBasic false) where
  close rest := by rw [multilineBasic]
  keep h := by
    rw [multilineBasic]
    · rfl
    all_goals grind

theorem multilineLiteral_readsQuotes : ReadsQuotes '\'' multilineLiteral where
  close rest := by rw [multilineLiteral]
  keep h := by
    rw [multilineLiteral]
    · rfl
    all_goals grind

/-- The text after up to two quotes that belong to the string. -/
theorem multilineBasic_basicText {seen : Nat} (hseen : seen ≤ 2) (cs : List Char)
    {rest : List Char} (hrest : rest.head? ≠ some '"') :
    multilineBasic false (List.replicate seen '"' ++
        ((basicText true 2 seen cs).toList ++ '"' :: '"' :: '"' :: rest)) =
      some (List.replicate seen '"' ++ cs, rest) := by
  induction cs generalizing seen with
  | nil =>
    rw [basicText_nil, String.toList_empty, List.nil_append, List.append_nil]
    exact multilineBasic_readsQuotes.close_after hseen hrest
  | cons c cs ih =>
    have hread := ih (Nat.zero_le 2)
    simp only [List.replicate_zero, List.nil_append] at hread
    by_cases hc : c = '"'
    · subst hc
      rcases Nat.lt_or_ge seen 2 with hlt | hge
      · have hmore := ih (Nat.succ_le_of_lt hlt)
        rw [List.replicate_succ', List.append_assoc, List.append_assoc] at hmore
        rw [basicText_quote_of_lt hlt]
        exact hmore
      · rw [basicText_quote_of_le hge]
        refine multilineBasic_readsQuotes.replicate_append hseen (by simp) ?_
        exact (multilineBasic_readsChars.escape _ rfl).trans (congrArg (push '"') hread)
    · rw [basicText_char hc, List.append_assoc]
      refine multilineBasic_readsQuotes.replicate_append hseen (head?_charText hc _) ?_
      rw [multilineBasic_readsChars.charText hc, hread]
      rfl

/-- No more than two of a character come in a row, if there were `seen` of them before. -/
def ShortRuns (x : Char) : (seen : Nat) → List Char → Prop
  | _, [] => True
  | seen, c :: cs => if c = x then seen + 1 ≤ 2 ∧ ShortRuns x (seen + 1) cs else ShortRuns x 0 cs

theorem multilineLiteral_append {seen : Nat} (hseen : seen ≤ 2) {cs : List Char}
    (hplain : ∀ c ∈ cs, isPlain c = true ∨ c = '\n') (hruns : ShortRuns '\'' seen cs)
    {rest : List Char} (hrest : rest.head? ≠ some '\'') :
    multilineLiteral (List.replicate seen '\'' ++ (cs ++ '\'' :: '\'' :: '\'' :: rest)) =
      some (List.replicate seen '\'' ++ cs, rest) := by
  induction cs generalizing seen with
  | nil =>
    rw [List.nil_append, List.append_nil]
    exact multilineLiteral_readsQuotes.close_after hseen hrest
  | cons c cs ih =>
    obtain ⟨hc, hcs⟩ := List.forall_mem_cons.1 hplain
    rw [ShortRuns] at hruns
    split_ifs at hruns with hquote
    · subst hquote
      have hmore := ih hruns.1 hcs hruns.2
      rw [List.replicate_succ', List.append_assoc, List.append_assoc] at hmore
      exact hmore
    · have hread := ih (Nat.zero_le 2) hcs hruns
      simp only [List.replicate_zero, List.nil_append] at hread
      refine multilineLiteral_readsQuotes.replicate_append hseen (by simpa using hquote) ?_
      rw [List.cons_append, multilineLiteral, if_pos (by simpa using hc), hread]
      · rfl
      · grind

/-- Length of the longest run, where one of length `longest` was seen before and one of length `now`
goes on. -/
def longestFrom (x : Char) (longest now : Nat) (cs : List Char) : Nat :=
  (cs.foldl (fun (longest, now) c =>
    if c = x then (max longest (now + 1), now + 1) else (longest, 0)) (longest, now)).1

section LongestRun

variable {x : Char} {longest now : Nat} {cs : List Char}

theorem longestFrom_cons (c : Char) : longestFrom x longest now (c :: cs) =
    if c = x then longestFrom x (max longest (now + 1)) (now + 1) cs
    else longestFrom x longest 0 cs := by
  unfold longestFrom
  rw [List.foldl_cons]
  dsimp only
  split_ifs <;> rfl

theorem le_longestFrom : longest ≤ longestFrom x longest now cs := by
  induction cs generalizing longest now with
  | nil => exact Nat.le_refl longest
  | cons c cs ih =>
    rw [longestFrom_cons]
    split_ifs
    · exact Nat.le_trans (Nat.le_max_left ..) ih
    · exact ih

theorem lt_longestFrom : now < longestFrom x longest now (x :: cs) := by
  rw [longestFrom_cons, if_pos rfl]
  exact Nat.le_trans (Nat.le_max_right ..) le_longestFrom

theorem shortRuns_of_le (h : longestFrom x longest now cs ≤ 2) : ShortRuns x now cs := by
  induction cs generalizing longest now with
  | nil => trivial
  | cons c cs ih =>
    have hc := @longestFrom_cons x longest now cs c
    rw [ShortRuns]
    split_ifs at hc ⊢ with heq
    · subst heq
      exact ⟨Nat.le_trans lt_longestFrom h, ih (hc ▸ h)⟩
    · exact ih (hc ▸ h)

theorem notMem_of_longestFrom (h : longestFrom x longest now cs = 0) : x ∉ cs := by
  induction cs generalizing longest now with
  | nil => exact List.not_mem_nil
  | cons c cs ih =>
    rw [List.mem_cons, not_or]
    have hne : x ≠ c := by
      rintro rfl
      exact Nat.not_lt_zero now (h ▸ lt_longestFrom)
    rw [longestFrom_cons, if_neg (Ne.symm hne)] at h
    exact ⟨hne, ih h⟩

end LongestRun

section Strings

variable {cs rest : List Char}

theorem string_basic (h : ∀ rest', cs ≠ '"' :: '"' :: rest') :
    string ('"' :: cs) = (basicString cs).map fun r => (String.ofList r.1, r.2) := by
  rw [string]
  exact h

theorem string_literal (h : ∀ rest', cs ≠ '\'' :: '\'' :: rest') :
    string ('\'' :: cs) = (literalString cs).map fun r => (String.ofList r.1, r.2) := by
  rw [string]
  exact h

theorem string_multilineBasic : string ('"' :: '"' :: '"' :: cs) =
    (multilineBasic false (afterOpening cs)).map fun r => (String.ofList r.1, r.2) := by
  rw [string]

theorem string_multilineLiteral : string ('\'' :: '\'' :: '\'' :: cs) =
    (multilineLiteral (afterOpening cs)).map fun r => (String.ofList r.1, r.2) := by
  rw [string]

/-- A line feed after opening quotes does not count, so that one is put there if the string has
any. -/
theorem afterOpening_gap (h : '\n' ∉ cs → rest.head? ≠ some '\n') :
    afterOpening ((if cs.contains '\n' then "\n" else "").toList ++ rest) = rest := by
  by_cases hfeed : '\n' ∈ cs
  · rw [if_pos (by simpa using hfeed)]
    rfl
  · rw [if_neg (by simpa using hfeed), String.toList_empty, List.nil_append]
    unfold afterOpening
    split
    · exact absurd rfl (h hfeed)
    · rfl

theorem head?_basicText (h : '\n' ∉ cs) :
    ((basicText true 2 0 cs).toList ++ '"' :: rest).head? ≠ some '\n' := by
  cases cs with
  | nil => simp
  | cons c cs =>
    rw [List.mem_cons, not_or] at h
    by_cases hc : c = '"'
    · subst hc
      rw [basicText_quote_of_lt Nat.two_pos]
      simp
    · rw [basicText_char hc, List.append_assoc]
      have hform := charText_written true c
      generalize (charText true c).toList = text at hform ⊢
      cases hform with
      | plain => simpa using Ne.symm h.1
      | feed _ hfeed => exact absurd hfeed.symm h.1
      | escape | unicode => simp

/-- The four ways to write a string, without its quotes taken apart. -/
inductive Written (s : String) : List Char → Prop where
  | basic : Written s ('"' :: ((basicText false 0 0 s.toList).toList ++ ['"']))
  | literal (hplain : ∀ c ∈ s.toList, isPlain c = true) (hquote : '\'' ∉ s.toList)
      (hne : s.toList ≠ []) : Written s ('\'' :: (s.toList ++ ['\'']))
  | multiline : Written s ('"' :: '"' :: '"' ::
      ((if s.toList.contains '\n' then "\n" else "").toList ++
        ((basicText true 2 0 s.toList).toList ++ ['"', '"', '"'])))
  | multilineLiteral (hplain : ∀ c ∈ s.toList, isPlain c = true ∨ c = '\n')
      (hruns : ShortRuns '\'' 0 s.toList) : Written s ('\'' :: '\'' :: '\'' ::
      ((if s.toList.contains '\n' then "\n" else "").toList ++ (s.toList ++ ['\'', '\'', '\''])))

end Strings

/-- Without controls other than tabs and line feeds, all but the line feeds need no escape. -/
theorem isPlain_or_feed {cs : List Char} {c : Char} (hc : c ∈ cs) (h : (cs.any fun c =>
      c != '\t' && c != '\n' && (c.toNat < 0x20 || c.toNat == 0x7F)) = false) :
    isPlain c = true ∨ c = '\n' := by
  have hno := List.any_eq_false.1 h c hc
  simp only [isPlain, Bool.and_eq_true, Bool.or_eq_true, bne_iff_ne, decide_eq_true_eq,
    beq_iff_eq, not_and, not_or] at hno ⊢
  by_cases htab : c = '\t'
  · exact .inl (.inl htab)
  by_cases hfeed : c = '\n'
  · exact .inr hfeed
  · obtain ⟨hlow, hdelete⟩ := hno ⟨htab, hfeed⟩
    exact .inl (.inr ⟨Nat.not_lt.1 hlow, hdelete⟩)

theorem stringText_written (s : String) : Written s (stringText s).toList := by
  have hbasic : Written s ("\"" ++ basicText false 0 0 s.toList ++ "\"").toList := by
    rw [String.toList_append, String.toList_append]
    exact .basic
  have hmultiline : Written s ("\"\"\"" ++ (if s.toList.contains '\n' then "\n" else "") ++
      basicText true 2 0 s.toList ++ "\"\"\"").toList := by
    rw [String.toList_append, String.toList_append, String.toList_append, List.append_assoc,
      List.append_assoc]
    exact .multiline
  have hliteral (hplain : ∀ c ∈ s.toList, isPlain c = true ∨ c = '\n')
      (hruns : ShortRuns '\'' 0 s.toList) : Written s
      ("\'\'\'" ++ (if s.toList.contains '\n' then "\n" else "") ++ s ++ "\'\'\'").toList := by
    rw [String.toList_append, String.toList_append, String.toList_append, List.append_assoc,
      List.append_assoc]
    exact .multilineLiteral hplain hruns
  unfold stringText
  dsimp only
  generalize (if s.toList.contains '\n' = true then "\n" else "") = gap at hmultiline hliteral ⊢
  split_ifs with h1 h2 h3 h4 h5
  · exact hbasic
  · simp only [Bool.and_eq_true, Bool.not_eq_true', beq_iff_eq] at h2
    obtain ⟨⟨hcontrol, hsingle⟩, hfeed⟩ := h2
    rw [String.toList_append, String.toList_append]
    refine .literal (fun c hc => ?_) (notMem_of_longestFrom hsingle) ?_
    · refine (isPlain_or_feed hc hcontrol).resolve_right ?_
      rintro rfl
      exact absurd hc (by simpa using hfeed)
    · intro hnil
      simp [hnil, longestRun] at h1
  · exact hmultiline
  · simp only [Bool.and_eq_true, Bool.not_eq_true', decide_eq_true_eq] at h4
    exact hliteral (fun c hc => isPlain_or_feed hc h4.1) (shortRuns_of_le h4.2)
  · exact hmultiline
  · exact hbasic

theorem basicText_ne (cs : List Char) {rest : List Char} (hrest : rest.head? ≠ some '"')
    (rest' : List Char) :
    (basicText false 0 0 cs).toList ++ '"' :: rest ≠ '"' :: '"' :: rest' := by
  intro heq
  cases cs with
  | nil =>
    rw [basicText_nil, String.toList_empty, List.nil_append] at heq
    exact hrest ((List.cons.inj heq).2 ▸ rfl)
  | cons c cs =>
    by_cases hc : c = '"'
    · subst hc
      rw [basicText_quote_of_le (Nat.le_refl 0)] at heq
      exact absurd (List.cons.inj heq).1 (by decide)
    · rw [basicText_char hc, List.append_assoc] at heq
      exact head?_charText hc _ (congrArg List.head? heq)

/-- A string that is written is read back, and nothing behind it is touched. -/
theorem string_of_written {s : String} {text : List Char} (h : Written s text) {rest : List Char}
    (hdouble : rest.head? ≠ some '"') (hsingle : rest.head? ≠ some '\'') :
    string (text ++ rest) = some (s, rest) := by
  cases h with
  | basic =>
    rw [List.cons_append, List.append_assoc, List.singleton_append,
      string_basic (basicText_ne _ hdouble), basicString_basicText, Option.map_some,
      String.ofList_toList]
  | literal hplain hquote hne =>
    have hother : ∀ rest', s.toList ++ '\'' :: rest ≠ '\'' :: '\'' :: rest' := by
      intro rest' heq
      obtain ⟨c, cs, hcs⟩ := List.exists_cons_of_ne_nil hne
      rw [hcs] at heq hquote
      exact hquote ((List.cons.inj heq).1 ▸ List.mem_cons_self)
    rw [List.cons_append, List.append_assoc, List.singleton_append, string_literal hother,
      literalString_append hplain hquote, Option.map_some, String.ofList_toList]
  | multiline =>
    simp only [List.cons_append, List.append_assoc, List.nil_append]
    rw [string_multilineBasic, afterOpening_gap head?_basicText]
    have hread := multilineBasic_basicText (Nat.zero_le 2) s.toList hdouble
    rw [List.replicate_zero, List.nil_append, List.nil_append] at hread
    rw [hread, Option.map_some, String.ofList_toList]
  | multilineLiteral hplain hruns =>
    have hhead : '\n' ∉ s.toList →
        (s.toList ++ '\'' :: '\'' :: '\'' :: rest).head? ≠ some '\n' := by
      intro hfeed
      cases hs : s.toList with
      | nil => simp
      | cons c cs =>
        rw [hs, List.mem_cons, not_or] at hfeed
        simpa using Ne.symm hfeed.1
    simp only [List.cons_append, List.append_assoc, List.nil_append]
    rw [string_multilineLiteral, afterOpening_gap hhead]
    have hread := multilineLiteral_append (Nat.zero_le 2) hplain hruns hsingle
    rw [List.replicate_zero, List.nil_append, List.nil_append] at hread
    rw [hread, Option.map_some, String.ofList_toList]

theorem return_notMem_basicText (multiline : Bool) (quotes seen : Nat) (cs : List Char) :
    '\r' ∉ (basicText multiline quotes seen cs).toList := by
  induction cs generalizing seen with
  | nil => simp
  | cons c cs ih =>
    by_cases hc : c = '"'
    · subst hc
      rcases Nat.lt_or_ge seen quotes with hlt | hge
      · simpa [basicText_quote_of_lt hlt] using ih (seen + 1)
      · simpa [basicText_quote_of_le hge] using ih 0
    · rw [basicText_char hc, List.mem_append, not_or]
      refine ⟨?_, ih 0⟩
      have hform := charText_written multiline c
      generalize (charText multiline c).toList = text at hform ⊢
      cases hform with
      | plain hplain =>
        rw [List.mem_singleton]
        rintro rfl
        exact absurd hplain (by decide)
      | feed => decide
      | escape he =>
        obtain ⟨-, -, -, -, hreturn⟩ := escaped?_ne he
        simpa using Ne.symm hreturn
      | unicode _ hr => simpa using hr

/-- What is written has no carriage return, so that line ends are what they were. -/
theorem return_notMem_of_written {s : String} {text : List Char} (h : Written s text) :
    '\r' ∉ text := by
  have hgap : '\r' ∉ (if s.toList.contains '\n' then "\n" else "").toList := by
    split_ifs <;> decide
  have hplain_ne : isPlain '\r' = false := by decide
  cases h with
  | basic => simp [return_notMem_basicText]
  | literal hplain =>
    have hs : '\r' ∉ s.toList := fun hin => by simpa [hplain_ne] using hplain _ hin
    simpa using hs
  | multiline => simpa [return_notMem_basicText] using hgap
  | multilineLiteral hplain =>
    have hs : '\r' ∉ s.toList := fun hin => by simpa [hplain_ne] using hplain _ hin
    simpa [hs] using hgap

end CallBridge.Toml
