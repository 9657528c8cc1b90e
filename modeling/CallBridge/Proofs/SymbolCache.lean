import CallBridge.Index
import CallBridge.Library
import Mathlib.Algebra.BigOperators.Intervals
import Mathlib.Data.Finset.Card
import Mathlib.Tactic.Common

/-!
Programs that open libraries, look symbols up in them and close them. What a library remembers never
changes an answer, and all that is counted can be told from the answers alone: a symbol is counted
when its library is asked for it successfully for the first time, and that is also the only time at
which the loader is asked for a symbol that it has.
-/

namespace CallBridge

/-- What a lookup comes to if nothing is remembered. -/
def Loader.resolve {κ : Type} (loader : Loader κ) (handle : κ) (name : String) :
    Verdict SymbolError Word :=
  if '\x00' ∈ name.toList then .error .invalidName
  else match loader.find handle name with
    | none => .error (.notFound name)
    | some address => .ok address

theorem Loader.run_ask_bind {κ α : Type} (loader : Loader κ) (handle : κ) (name : String)
    (next : Option Word → StateM (List String) α) (asked : List String) :
    (loader.ask handle name >>= next).run asked =
      (next (loader.find handle name)).run (asked ++ [name]) := rfl

namespace Library

variable {κ : Type} {loader : Loader κ} {l : Library κ} {s : Stats} {name : String}

/-- The loader is asked for the symbol: the name is one, and no address is remembered for it. -/
def Asks (l : Library κ) (name : String) : Prop :=
  '\x00' ∉ name.toList ∧ l.symbols.lookup name = none

instance (l : Library κ) (name : String) : Decidable (l.Asks name) :=
  inferInstanceAs (Decidable (_ ∧ _))

/-- Symbols that are remembered have the addresses that the loader gives. -/
def Faithful (loader : Loader κ) (l : Library κ) : Prop :=
  ∀ name a, l.symbols.lookup name = some a →
    '\x00' ∉ name.toList ∧ loader.find l.handle name = some a

/-- The reply to a lookup, whatever the loader was asked for it. -/
def reply (loader : Loader κ) (l : Library κ) (s : Stats) (name : String) :
    Reply SymbolError (Library κ × Stats) Word :=
  ((l.symbol loader s name).run []).1

/-- The names that the loader was asked for in a lookup. -/
def questions (loader : Loader κ) (l : Library κ) (s : Stats) (name : String) : List String :=
  ((l.symbol loader s name).run []).2

section Lookups

variable {asked : List String}

theorem symbol_known {a : Word} (h : l.symbols.lookup name = some a) :
    (l.symbol loader s name).run asked = (.ok a [] (l, s), asked) := by
  simp only [symbol, h]
  rfl

theorem symbol_invalid (h : l.symbols.lookup name = none) (hnul : '\x00' ∈ name.toList) :
    (l.symbol loader s name).run asked = (.refuse .invalidName [] (l, s), asked) := by
  simp only [symbol, h, if_pos hnul]
  rfl

theorem symbol_unknown (h : l.Asks name) (hfind : loader.find l.handle name = none) :
    (l.symbol loader s name).run asked =
      (.refuse (.notFound name) [] (l, s), asked ++ [name]) := by
  simp only [symbol, h.2, if_neg h.1, Loader.run_ask_bind, hfind]
  rfl

theorem symbol_found {a : Word} (h : l.Asks name) (hfind : loader.find l.handle name = some a) :
    (l.symbol loader s name).run asked =
      (.ok a [.symbolResolved l.name name a]
        ({ l with symbols := (name, a) :: l.symbols }, { s with symbols := s.symbols + 1 }),
      asked ++ [name]) := by
  simp only [symbol, h.2, if_neg h.1, Loader.run_ask_bind, hfind]
  rfl

end Lookups

/-- A lookup that is not answered from what is remembered asks once, unless the name is none. -/
theorem questions_eq (loader : Loader κ) (l : Library κ) (s : Stats) (name : String) :
    l.questions loader s name = if l.Asks name then [name] else [] := by
  unfold questions
  split_ifs with h
  · cases hfind : loader.find l.handle name with
    | none => rw [symbol_unknown h hfind, List.nil_append]
    | some a => rw [symbol_found h hfind, List.nil_append]
  · cases hknown : l.symbols.lookup name with
    | some a => rw [symbol_known hknown]
    | none =>
      have hnul : '\x00' ∈ name.toList := by
        by_contra hnul
        exact h ⟨hnul, hknown⟩
      rw [symbol_invalid hknown hnul]

/-- A lookup in a library that remembers nothing wrong answers as if nothing was remembered. -/
theorem symbol_answer (h : l.Faithful loader) :
    (l.reply loader s name).answer = loader.resolve l.handle name := by
  unfold reply Loader.resolve
  cases hknown : l.symbols.lookup name with
  | some a =>
    obtain ⟨hnul, hfind⟩ := h name a hknown
    rw [symbol_known hknown, if_neg hnul, hfind]
    rfl
  | none =>
    by_cases hnul : '\x00' ∈ name.toList
    · rw [symbol_invalid hknown hnul, if_pos hnul]
      rfl
    · cases hfind : loader.find l.handle name with
      | none =>
        rw [symbol_unknown ⟨hnul, hknown⟩ hfind, if_neg hnul]
        rfl
      | some a =>
        rw [symbol_found ⟨hnul, hknown⟩ hfind, if_neg hnul]
        rfl

/-- The loader is asked exactly where another loader could give another reply. -/
theorem asks_iff (loader : Loader κ) (l : Library κ) (s : Stats) (name : String) :
    l.Asks name ↔ ∃ loader', l.reply loader' s name ≠ l.reply loader s name := by
  unfold reply
  constructor
  · intro h
    cases hfind : loader.find l.handle name with
    | none =>
      refine ⟨{ loader with find := fun _ _ => some 0 }, ?_⟩
      rw [symbol_unknown h hfind, symbol_found h rfl]
      exact nofun
    | some a =>
      refine ⟨{ loader with find := fun _ _ => none }, ?_⟩
      rw [symbol_found h hfind, symbol_unknown h rfl]
      exact nofun
  · intro ⟨loader', hne⟩
    by_contra hnot
    apply hne
    cases hknown : l.symbols.lookup name with
    | some a => rw [symbol_known hknown, symbol_known hknown]
    | none =>
      have hnul : '\x00' ∈ name.toList := by
        by_contra hnul
        exact hnot ⟨hnul, hknown⟩
      rw [symbol_invalid hknown hnul, symbol_invalid hknown hnul]

end Library

/-- What a program asks for. Libraries are numbered in the order in which they were opened. -/
inductive LibraryRequest where
  | openNamed (name : String) (flags : LoadFlags)
  | openSelf
  | symbol (number : Nat) (name : String)
  | close (number : Nat)

/-- What came of opening a library, and of looking up a symbol: the answer and, for a lookup, the names
that the loader was asked for. -/
inductive LibraryEntry (κ : Type) where
  | opening (answer : Verdict LoadError (κ × String))
  | lookup (number : Nat) (name : String) (asked : List String) (answer : Verdict SymbolError Word)

namespace LibraryEntry

variable {κ : Type}

/-- Handle and name of the library that was opened. -/
def opened? : LibraryEntry κ → Option (κ × String)
  | opening (.ok l) => some l
  | _ => none

/-- The name that library `n` has resolved. -/
def resolved? (n : Nat) : LibraryEntry κ → Option String
  | lookup m name _ (.ok _) => if m = n then some name else none
  | _ => none

/-- How often library `n` has asked the loader for the name. -/
def asks (n : Nat) (name : String) : LibraryEntry κ → Nat
  | lookup m _ asked _ => if m = n then asked.count name else 0
  | _ => 0

def failed : LibraryEntry κ → Bool
  | opening (.ok _) | lookup _ _ _ (.ok _) => false
  | _ => true

end LibraryEntry

/-- The libraries that a program has open, with the counters of the process, what came of all requests
so far, and what was reported of them. A library that was closed leaves its number unused. -/
structure Shelf (κ : Type) where
  libraries : List (Option (Library κ)) := []
  stats : Stats := {}
  entries : List (LibraryEntry κ) := []
  events : List Event := []

namespace Shelf

variable {κ : Type} {loader : Loader κ} {s : Shelf κ}

def library? (s : Shelf κ) (n : Nat) : Option (Library κ) := (s.libraries[n]?).join

/-- The libraries ever opened, with their handles and names. -/
def opened (s : Shelf κ) : List (κ × String) := s.entries.filterMap LibraryEntry.opened?

/-- The names that library `n` has resolved. -/
def resolved (s : Shelf κ) (n : Nat) : Finset String :=
  (s.entries.filterMap (LibraryEntry.resolved? n)).toFinset

/-- How often library `n` has asked the loader for a name. -/
def asked (s : Shelf κ) (n : Nat) (name : String) : Nat :=
  (s.entries.map (LibraryEntry.asks n name)).sum

/-- Names resolved by all libraries ever opened, each library on its own. -/
def total (s : Shelf κ) : Nat := ∑ n ∈ Finset.range s.opened.length, (s.resolved n).card

/-- Put a library that was opened behind the others. -/
def shelve (s : Shelf κ) (r : Reply LoadError Stats (Library κ)) : Shelf κ where
  libraries := match r.answer with
    | .ok l => s.libraries ++ [some l]
    | _ => s.libraries
  stats := r.state
  entries := s.entries ++ [.opening (r.answer.map fun l => (l.handle, l.name))]
  events := s.events ++ r.events

/-- Look up a symbol in library `n`. -/
def find (loader : Loader κ) (s : Shelf κ) (n : Nat) (l : Library κ) (name : String) : Shelf κ :=
  let (r, asked) := (l.symbol loader s.stats name).run []
  { libraries := s.libraries.set n (some r.state.1)
    stats := r.state.2
    entries := s.entries ++ [.lookup n name asked r.answer]
    events := s.events ++ r.events }

/-- Do what is asked for. Of a library that is not open nothing can be asked. -/
def perform (loader : Loader κ) (s : Shelf κ) : LibraryRequest → Shelf κ
  | .openNamed name flags => s.shelve (Library.openNamed loader s.stats name flags)
  | .openSelf => s.shelve (Library.openSelf loader s.stats)
  | .symbol n name =>
    match s.library? n with
    | some l => s.find loader n l name
    | none => s
  | .close n => { s with libraries := s.libraries.set n none }

def run (loader : Loader κ) (rs : List LibraryRequest) (s : Shelf κ) : Shelf κ :=
  rs.foldl (perform loader) s

section Entries

variable {s s' : Shelf κ} {e : LibraryEntry κ} (h : s'.entries = s.entries ++ [e])

include h

theorem opened_append : s'.opened = s.opened ++ e.opened?.toList := by
  unfold opened
  rw [h, List.filterMap_append]
  cases he : e.opened? <;> simp [he]

theorem resolved_append (n : Nat) :
    s'.resolved n = (e.resolved? n).toFinset ∪ s.resolved n := by
  unfold resolved
  rw [h, List.filterMap_append]
  cases he : e.resolved? n <;> simp [he, Finset.union_comm]

theorem asked_append (n : Nat) (name : String) :
    s'.asked n name = s.asked n name + e.asks n name := by
  unfold asked
  rw [h, List.map_append, List.sum_append, List.map_singleton, List.sum_singleton]

end Entries

/-- What a request can do. Where only an entry is added, it is of no opened library, tells of no name
that was not resolved before, and of no question that the loader could answer. -/
inductive Step (loader : Loader κ) (s : Shelf κ) : Shelf κ → Prop where
  | nothing : Step loader s s
  | notes {e : LibraryEntry κ} (opened : e.opened? = none)
      (known : ∀ n name, e.resolved? n = some name →
        ∃ l a, s.library? n = some l ∧ l.symbols.lookup name = some a)
      (vain : ∀ n name, e.asks n name ≠ 0 →
        ∃ l, s.library? n = some l ∧ loader.find l.handle name = none) :
      Step loader s { s with entries := s.entries ++ [e] }
  | opens {l : Library κ} (empty : l.symbols = []) :
      Step loader s
        { libraries := s.libraries ++ [some l]
          stats := { s.stats with libraries := s.stats.libraries + 1 }
          entries := s.entries ++ [.opening (.ok (l.handle, l.name))]
          events := s.events ++ [.libraryLoaded l.name] }
  | resolves {n : Nat} {l : Library κ} {name : String} {a : Word} (library : s.library? n = some l)
      (asks : l.Asks name) (found : loader.find l.handle name = some a) :
      Step loader s
        { libraries := s.libraries.set n (some { l with symbols := (name, a) :: l.symbols })
          stats := { s.stats with symbols := s.stats.symbols + 1 }
          entries := s.entries ++ [.lookup n name [name] (.ok a)]
          events := s.events ++ [.symbolResolved l.name name a] }
  | closes (n : Nat) : Step loader s { s with libraries := s.libraries.set n none }

theorem lt_of_library? {n : Nat} {l : Library κ} (h : s.library? n = some l) :
    n < s.libraries.length := by
  by_contra hge
  unfold library? at h
  rw [List.getElem?_eq_none (by omega)] at h
  contradiction

theorem library?_set (n m : Nat) (x : Option (Library κ)) (hn : n < s.libraries.length)
    {s' : Shelf κ} (h : s'.libraries = s.libraries.set n x) :
    s'.library? m = if m = n then x else s.library? m := by
  unfold library?
  rw [h, List.getElem?_set]
  by_cases hm : m = n
  · subst hm
    simp [hn]
  · simp [hm, Ne.symm hm]

theorem library?_append {s' : Shelf κ} {n : Nat} {l l' : Library κ}
    (hlibraries : s'.libraries = s.libraries ++ [some l]) (h : s'.library? n = some l') :
    s.library? n = some l' ∨ n = s.libraries.length ∧ l' = l := by
  unfold library? at h ⊢
  rw [hlibraries] at h
  rcases Nat.lt_trichotomy n s.libraries.length with hlt | rfl | hgt
  · rw [List.getElem?_append_left hlt] at h
    exact .inl h
  · simp at h
    exact .inr ⟨rfl, h.symm⟩
  · rw [List.getElem?_eq_none (by simp; omega)] at h
    contradiction

/-- A library that is put back as it was leaves the others as they were. -/
theorem libraries_set_self {n : Nat} {l : Library κ} (h : s.library? n = some l) :
    s.libraries.set n (some l) = s.libraries := by
  have hget : s.libraries[n]? = some (some l) := by
    unfold library? at h
    rwa [Option.join_eq_some_iff] at h
  obtain ⟨hn, heq⟩ := List.getElem?_eq_some_iff.1 hget
  rw [← heq, List.set_getElem_self]

theorem shelve_step (r : Reply LoadError Stats (Library κ))
    (hr : (∃ l, l.symbols = [] ∧ r = .ok l [.libraryLoaded l.name]
        { s.stats with libraries := s.stats.libraries + 1 }) ∨
      ∃ e, r = .refuse e [] s.stats) : Step loader s (s.shelve r) := by
  rcases hr with ⟨l, hempty, rfl⟩ | ⟨e, rfl⟩
  · exact .opens hempty
  · have hshelve : s.shelve (.refuse e [] s.stats) =
        { s with entries := s.entries ++ [.opening (.error e)] } := by
      simp [shelve, Reply.refuse, Verdict.map]
    rw [hshelve]
    exact .notes rfl nofun nofun

/-- A lookup that leaves its library and the counters as they are adds an entry only. -/
theorem find_of_unchanged {n : Nat} {l : Library κ} {name : String} {asked : List String}
    {answer : Verdict SymbolError Word} (hl : s.library? n = some l)
    (hr : (l.symbol loader s.stats name).run [] = (⟨answer, [], (l, s.stats)⟩, asked)) :
    s.find loader n l name =
      { s with entries := s.entries ++ [.lookup n name asked answer] } := by
  unfold find
  rw [hr]
  simp [libraries_set_self hl]

theorem find_step {n : Nat} {l : Library κ} (hl : s.library? n = some l) (name : String) :
    Step loader s (s.find loader n l name) := by
  have hquiet : ∀ answer m name',
      (LibraryEntry.lookup (κ := κ) n name [] answer).asks m name' = 0 := by
    simp [LibraryEntry.asks]
  cases hknown : l.symbols.lookup name with
  | some a =>
    rw [find_of_unchanged hl (Library.symbol_known hknown)]
    refine .notes rfl ?_ fun m name' hm => absurd (hquiet _ m name') hm
    intro m name' hm
    simp [LibraryEntry.resolved?] at hm
    obtain ⟨rfl, rfl⟩ := hm
    exact ⟨l, a, hl, hknown⟩
  | none =>
    by_cases hnul : '\x00' ∈ name.toList
    · rw [find_of_unchanged hl (Library.symbol_invalid hknown hnul)]
      exact .notes rfl (by simp [LibraryEntry.resolved?]) fun m name' hm =>
        absurd (hquiet _ m name') hm
    have hasks : l.Asks name := ⟨hnul, hknown⟩
    cases hfind : loader.find l.handle name with
    | some a =>
      have hstep := Step.resolves hl hasks hfind
      simpa [find, Library.symbol_found hasks hfind, Reply.ok] using hstep
    | none =>
      rw [find_of_unchanged hl (Library.symbol_unknown hasks hfind)]
      refine .notes rfl (by simp [LibraryEntry.resolved?]) ?_
      intro m name' hm
      simp [LibraryEntry.asks, List.count_singleton] at hm
      obtain ⟨rfl, rfl⟩ := hm
      exact ⟨l, hl, hfind⟩

/-- Loading ends with a new library that remembers nothing, or changes nothing. -/
theorem load_cases (loader : Loader κ) (stats : Stats) (request : Option String) (name : String)
    (flags : LoadFlags) :
    (∃ l, l.symbols = [] ∧ Library.load loader stats request name flags =
      .ok l [.libraryLoaded l.name] { stats with libraries := stats.libraries + 1 }) ∨
      ∃ e, Library.load loader stats request name flags = .refuse e [] stats := by
  unfold Library.load
  cases loader.load request flags with
  | ok handle => exact .inl ⟨{ handle, name }, rfl, rfl⟩
  | error text => exact .inr ⟨.failed text, rfl⟩

theorem perform_symbol {n : Nat} {l : Library κ} (hl : s.library? n = some l) (name : String) :
    s.perform loader (.symbol n name) = s.find loader n l name := by
  simp only [perform, hl]

theorem perform_step (loader : Loader κ) (s : Shelf κ) (r : LibraryRequest) :
    Step loader s (s.perform loader r) := by
  cases r with
  | openNamed name flags =>
    apply shelve_step
    unfold Library.openNamed
    split_ifs with hnul
    · exact .inr ⟨.invalidName, rfl⟩
    · exact load_cases loader s.stats (some name) name flags
  | openSelf => exact shelve_step _ (load_cases loader s.stats none _ _)
  | symbol n name =>
    cases hl : s.library? n with
    | some l =>
      rw [perform_symbol hl]
      exact find_step hl name
    | none =>
      have hnothing : s.perform loader (.symbol n name) = s := by
        simp only [perform, hl]
      rw [hnothing]
      exact .nothing
  | close n => exact .closes n

/-- What library `n` remembers is what the entries tell of it. -/
structure Recorded (loader : Loader κ) (s : Shelf κ) (n : Nat) (l : Library κ) : Prop where
  opened : s.opened[n]? = some (l.handle, l.name)
  faithful : l.Faithful loader
  nodup : (l.symbols.map Prod.fst).Nodup
  names : (l.symbols.map Prod.fst).toFinset = s.resolved n
  unasked : ∀ name, l.symbols.lookup name = none → loader.find l.handle name ≠ none →
    s.asked n name = 0

/-- Everything that is counted can be told from the entries. `before` counts what happened before the
first of them. -/
structure Sound (loader : Loader κ) (before : Stats) (s : Shelf κ) : Prop where
  numbered : s.libraries.length = s.opened.length
  recorded : ∀ n l, s.library? n = some l → s.Recorded loader n l
  beyond : ∀ n, s.opened.length ≤ n → s.resolved n = ∅ ∧ ∀ name, s.asked n name = 0
  once : ∀ n, ∀ name ∈ s.resolved n, s.asked n name = 1
  stats : s.stats =
    { before with
      libraries := before.libraries + BitVec.ofNat 64 s.opened.length
      symbols := before.symbols + BitVec.ofNat 64 s.total }
  loads : (s.events.countP fun e => e.name = "library_loaded") = s.opened.length
  reports : (s.events.countP fun e => e.name = "symbol_resolved") = s.total

theorem sound_empty (loader : Loader κ) (before : Stats) :
    Sound loader before { stats := before } where
  numbered := rfl
  recorded n l h := by simp [library?] at h
  beyond n _ := ⟨rfl, fun _ => rfl⟩
  once n name h := by simp [resolved] at h
  stats := by simp [opened, total]
  loads := rfl
  reports := rfl

theorem lookup_eq_none_iff_notMem {l : List (String × Word)} {name : String} :
    l.lookup name = none ↔ name ∉ l.map Prod.fst := by
  rw [List.lookup_eq_none_iff]
  constructor
  · intro h hmem
    obtain ⟨p, hp, rfl⟩ := List.mem_map.1 hmem
    simpa using h p hp
  · intro h p hp
    have hne : name ≠ p.1 := by
      rintro rfl
      exact h (List.mem_map_of_mem hp)
    simpa using hne

theorem Recorded.mem_resolved_iff {n : Nat} {l : Library κ} (h : s.Recorded loader n l)
    (name : String) : name ∈ s.resolved n ↔ l.symbols.lookup name ≠ none := by
  rw [← h.names, List.mem_toFinset, ne_eq, lookup_eq_none_iff_notMem, not_not]

/-- A name that the loader does not find is not resolved. -/
theorem Recorded.notMem_resolved {n : Nat} {l : Library κ} {name : String}
    (h : s.Recorded loader n l) (hfind : loader.find l.handle name = none) :
    name ∉ s.resolved n := by
  rw [h.mem_resolved_iff, not_not]
  by_contra hne
  obtain ⟨a, ha⟩ := Option.ne_none_iff_exists'.1 hne
  have hfound := (h.faithful name a ha).2
  rw [hfind] at hfound
  contradiction

/-- The records of a library depend on the entries of its own number, and there only on questions that
the loader can answer. -/
theorem Recorded.congr {s' : Shelf κ} {n : Nat} {l : Library κ} (h : s.Recorded loader n l)
    (hopened : s'.opened[n]? = s.opened[n]?) (hresolved : s'.resolved n = s.resolved n)
    (hasked : ∀ name, loader.find l.handle name ≠ none → s'.asked n name = s.asked n name) :
    s'.Recorded loader n l where
  opened := hopened.trans h.opened
  faithful := h.faithful
  nodup := h.nodup
  names := h.names.trans hresolved.symm
  unasked name hlookup hfind := (hasked name hfind).trans (h.unasked name hlookup hfind)

theorem Recorded.of_empty {n : Nat} {l : Library κ} (hempty : l.symbols = [])
    (hopened : s.opened[n]? = some (l.handle, l.name)) (hresolved : s.resolved n = ∅)
    (hasked : ∀ name, s.asked n name = 0) : s.Recorded loader n l where
  opened := hopened
  faithful name a h := by simp [hempty] at h
  nodup := by simp [hempty]
  names := by simp [hempty, hresolved]
  unasked name _ _ := hasked name

theorem Recorded.remembers {s' : Shelf κ} {n : Nat} {l : Library κ} {name : String} {a : Word}
    (h : s.Recorded loader n l) (hasks : l.Asks name) (hfind : loader.find l.handle name = some a)
    (hopened : s'.opened[n]? = s.opened[n]?)
    (hresolved : s'.resolved n = insert name (s.resolved n))
    (hasked : ∀ x, x ≠ name → s'.asked n x = s.asked n x) :
    s'.Recorded loader n { l with symbols := (name, a) :: l.symbols } where
  opened := hopened.trans h.opened
  faithful x b hb := by
    rw [Index.lookup_cons] at hb
    split_ifs at hb with hx
    · cases hb
      subst hx
      exact ⟨hasks.1, hfind⟩
    · exact h.faithful x b hb
  nodup := by
    rw [List.map_cons, List.nodup_cons]
    exact ⟨lookup_eq_none_iff_notMem.1 hasks.2, h.nodup⟩
  names := by
    rw [hresolved, List.map_cons, List.toFinset_cons, h.names]
  unasked x hx hfound := by
    rw [Index.lookup_cons] at hx
    split_ifs at hx with hne
    rw [hasked x fun heq => hne heq, h.unasked x hx hfound]

theorem total_congr {s' : Shelf κ} (hopened : s'.opened = s.opened)
    (hresolved : ∀ n, s'.resolved n = s.resolved n) : s'.total = s.total := by
  unfold total
  simp only [hopened, hresolved]

theorem total_insert {s' : Shelf κ} {n : Nat} {name : String} (hopened : s'.opened = s.opened)
    (hn : n < s.opened.length) (hnew : name ∉ s.resolved n)
    (hresolved : s'.resolved n = insert name (s.resolved n))
    (hothers : ∀ m, m ≠ n → s'.resolved m = s.resolved m) : s'.total = s.total + 1 := by
  have hmem : n ∈ Finset.range s.opened.length := Finset.mem_range.2 hn
  have hsum : ∑ m ∈ (Finset.range s.opened.length).erase n, (s'.resolved m).card =
      ∑ m ∈ (Finset.range s.opened.length).erase n, (s.resolved m).card := by
    apply Finset.sum_congr rfl
    intro m hm
    rw [hothers m (Finset.ne_of_mem_erase hm)]
  unfold total
  rw [hopened, ← Finset.add_sum_erase _ _ hmem, hsum, hresolved, Finset.card_insert_of_notMem hnew,
    ← Finset.add_sum_erase _ (fun m => (s.resolved m).card) hmem]
  omega

section Sound

variable {before : Stats} (h : s.Sound loader before)

include h

theorem Sound.lt_opened {n : Nat} {l : Library κ} (hl : s.library? n = some l) :
    n < s.opened.length := by
  rw [← h.numbered]
  exact lt_of_library? hl

theorem Sound.notes {e : LibraryEntry κ} (hopened : e.opened? = none)
    (hknown : ∀ n name, e.resolved? n = some name →
      ∃ l a, s.library? n = some l ∧ l.symbols.lookup name = some a)
    (hvain : ∀ n name, e.asks n name ≠ 0 →
      ∃ l, s.library? n = some l ∧ loader.find l.handle name = none) :
    Sound loader before { s with entries := s.entries ++ [e] } := by
  set s' : Shelf κ := { s with entries := s.entries ++ [e] } with hs'
  have happend : s'.entries = s.entries ++ [e] := rfl
  have hopened' : s'.opened = s.opened := by
    rw [opened_append happend, hopened]
    simp
  have hresolved : ∀ n, s'.resolved n = s.resolved n := by
    intro n
    rw [resolved_append happend]
    cases he : e.resolved? n with
    | none => simp
    | some name =>
      obtain ⟨l, a, hl, ha⟩ := hknown n name he
      have hmem : name ∈ s.resolved n := by
        rw [(h.recorded n l hl).mem_resolved_iff, ha]
        simp
      simpa using hmem
  have hasked : ∀ n name, (∀ l, s.library? n = some l → loader.find l.handle name ≠ none) →
      s'.asked n name = s.asked n name := by
    intro n name hfind
    have hno : e.asks n name = 0 := by
      by_contra hasks
      obtain ⟨l, hl, hnone⟩ := hvain n name hasks
      exact hfind l hl hnone
    simp [asked_append happend, hno]
  have htotal := total_congr hopened' hresolved
  refine ⟨?_, ?_, ?_, ?_, ?_, ?_, ?_⟩
  · rw [hopened']
    exact h.numbered
  · intro n l hl
    apply (h.recorded n l hl).congr (by rw [hopened']) (hresolved n)
    intro name hfind
    apply hasked
    intro l' hl'
    have heq : l = l' := Option.some.inj (hl.symm.trans hl')
    exact heq ▸ hfind
  · intro n hn
    rw [hopened'] at hn
    obtain ⟨hempty, hnever⟩ := h.beyond n hn
    refine ⟨(hresolved n).trans hempty, fun name => ?_⟩
    rw [hasked n name ?_]
    · exact hnever name
    · intro l hl
      have := h.lt_opened hl
      omega
  · intro n name hname
    rw [hresolved] at hname
    rw [hasked n name ?_]
    · exact h.once n name hname
    · intro l hl hnone
      exact (h.recorded n l hl).notMem_resolved hnone hname
  · rw [hopened', htotal]
    exact h.stats
  · rw [hopened']
    exact h.loads
  · rw [htotal]
    exact h.reports

theorem Sound.opens {s' : Shelf κ} {l : Library κ} (hempty : l.symbols = [])
    (hlibraries : s'.libraries = s.libraries ++ [some l])
    (hstats : s'.stats = { s.stats with libraries := s.stats.libraries + 1 })
    (hentries : s'.entries = s.entries ++ [.opening (.ok (l.handle, l.name))])
    (hevents : s'.events = s.events ++ [.libraryLoaded l.name]) : s'.Sound loader before := by
  have hopened : s'.opened = s.opened ++ [(l.handle, l.name)] := opened_append hentries
  have hlength : s'.opened.length = s.opened.length + 1 := by
    simp [hopened]
  have hresolved : ∀ n, s'.resolved n = s.resolved n := by
    intro n
    simp [resolved_append hentries, LibraryEntry.resolved?]
  have hasked : ∀ n name, s'.asked n name = s.asked n name := by
    intro n name
    simp [asked_append hentries, LibraryEntry.asks]
  obtain ⟨hnone, hnever⟩ := h.beyond s.opened.length le_rfl
  have htotal : s'.total = s.total := by
    unfold total
    simp [hlength, hresolved, Finset.sum_range_succ, hnone]
  refine ⟨?_, ?_, ?_, ?_, ?_, ?_, ?_⟩
  · simp [hlibraries, hlength, h.numbered]
  · intro n l' hl'
    rcases library?_append hlibraries hl' with hold | ⟨rfl, rfl⟩
    · apply (h.recorded n l' hold).congr _ (hresolved n) fun name _ => hasked n name
      rw [hopened, List.getElem?_append_left (h.lt_opened hold)]
    · rw [h.numbered]
      apply Recorded.of_empty hempty
      · simp [hopened]
      · rw [hresolved, hnone]
      · intro name
        rw [hasked, hnever]
  · intro n hn
    obtain ⟨hempty', hnever'⟩ := h.beyond n (by omega)
    exact ⟨(hresolved n).trans hempty', fun name => (hasked n name).trans (hnever' name)⟩
  · intro n name hname
    rw [hresolved] at hname
    rw [hasked]
    exact h.once n name hname
  · rw [hstats, h.stats, htotal, hlength, BitVec.ofNat_add, ← BitVec.add_assoc]
    rfl
  · have hone : [Event.libraryLoaded l.name].countP (fun e => e.name = "library_loaded") = 1 := by
      simp [Event.name]
    rw [hevents, List.countP_append, h.loads, hone, hlength]
  · have hzero : [Event.libraryLoaded l.name].countP (fun e => e.name = "symbol_resolved") = 0 := by
      simp [Event.name]
    rw [hevents, List.countP_append, h.reports, hzero, htotal]
    rfl

theorem Sound.resolves {s' : Shelf κ} {n : Nat} {l : Library κ} {name : String} {a : Word}
    (hl : s.library? n = some l) (hasks : l.Asks name) (hfind : loader.find l.handle name = some a)
    (hlibraries : s'.libraries =
      s.libraries.set n (some { l with symbols := (name, a) :: l.symbols }))
    (hstats : s'.stats = { s.stats with symbols := s.stats.symbols + 1 })
    (hentries : s'.entries = s.entries ++ [.lookup n name [name] (.ok a)])
    (hevents : s'.events = s.events ++ [.symbolResolved l.name name a]) :
    s'.Sound loader before := by
  have hn : n < s.opened.length := h.lt_opened hl
  have hrec := h.recorded n l hl
  have hnew : name ∉ s.resolved n := by
    rw [hrec.mem_resolved_iff, not_not]
    exact hasks.2
  have hopened : s'.opened = s.opened := by
    simp [opened_append hentries, LibraryEntry.opened?]
  have hresolved : s'.resolved n = insert name (s.resolved n) := by
    simp [resolved_append hentries, LibraryEntry.resolved?]
  have hothers : ∀ m, m ≠ n → s'.resolved m = s.resolved m := by
    intro m hm
    simp [resolved_append hentries, LibraryEntry.resolved?, Ne.symm hm]
  have hasked : s'.asked n name = s.asked n name + 1 := by
    simp [asked_append hentries, LibraryEntry.asks]
  have hunasked : ∀ m x, (m ≠ n ∨ x ≠ name) → s'.asked m x = s.asked m x := by
    intro m x hne
    rw [asked_append hentries]
    simp [LibraryEntry.asks, List.count_singleton]
    rintro rfl rfl
    simp at hne
  have htotal := total_insert hopened hn hnew hresolved hothers
  refine ⟨?_, ?_, ?_, ?_, ?_, ?_, ?_⟩
  · simp [hlibraries, hopened, h.numbered]
  · intro m l' hl'
    rw [library?_set n m _ (lt_of_library? hl) hlibraries] at hl'
    split_ifs at hl' with hm
    · subst hm
      cases hl'
      exact hrec.remembers hasks hfind (by rw [hopened]) hresolved fun x hx =>
        hunasked m x (.inr hx)
    · exact (h.recorded m l' hl').congr (by rw [hopened]) (hothers m hm) fun x _ =>
        hunasked m x (.inl hm)
  · intro m hm
    rw [hopened] at hm
    obtain ⟨hempty, hnever⟩ := h.beyond m hm
    have hne : m ≠ n := by omega
    constructor
    · rw [hothers m hne, hempty]
    · intro x
      rw [hunasked m x (.inl hne), hnever]
  · intro m x hx
    by_cases hm : m = n
    · subst hm
      rw [hresolved, Finset.mem_insert] at hx
      by_cases hname : x = name
      · subst hname
        rw [hasked, hrec.unasked x hasks.2 (by simp [hfind])]
      · rw [hunasked m x (.inr hname)]
        exact h.once m x (hx.resolve_left hname)
    · rw [hothers m hm] at hx
      rw [hunasked m x (.inl hm)]
      exact h.once m x hx
  · rw [hstats, h.stats, htotal, hopened, BitVec.ofNat_add, ← BitVec.add_assoc]
    rfl
  · have hzero : [Event.symbolResolved l.name name a].countP
        (fun e => e.name = "library_loaded") = 0 := by
      simp [Event.name]
    rw [hevents, List.countP_append, h.loads, hzero, hopened]
    rfl
  · have hone : [Event.symbolResolved l.name name a].countP
        (fun e => e.name = "symbol_resolved") = 1 := by
      simp [Event.name]
    rw [hevents, List.countP_append, h.reports, hone, htotal]

theorem Sound.closes (n : Nat) :
    Sound loader before { s with libraries := s.libraries.set n none } := by
  refine ⟨?_, ?_, h.beyond, h.once, h.stats, h.loads, h.reports⟩
  · rw [List.length_set]
    exact h.numbered
  · intro m l hl
    have hopen : s.library? m = some l := by
      unfold library? at hl ⊢
      rw [List.getElem?_set] at hl
      split_ifs at hl
      · simp at hl
      · simp at hl
      · exact hl
    have hrec := h.recorded m l hopen
    exact ⟨hrec.opened, hrec.faithful, hrec.nodup, hrec.names, hrec.unasked⟩

theorem Sound.step {s' : Shelf κ} (hstep : Step loader s s') : s'.Sound loader before := by
  cases hstep with
  | nothing => exact h
  | notes opened known vain => exact h.notes opened known vain
  | opens empty => exact h.opens empty rfl rfl rfl rfl
  | resolves library asks found => exact h.resolves library asks found rfl rfl rfl rfl
  | closes n => exact h.closes n

end Sound

theorem run_sound (loader : Loader κ) (before : Stats) (rs : List LibraryRequest) :
    Sound loader before (run loader rs { stats := before }) := by
  induction rs using List.reverseRecOn with
  | nil => exact sound_empty loader before
  | append_singleton rs r ih =>
    unfold run at ih ⊢
    rw [List.foldl_append]
    exact ih.step (perform_step loader _ r)

/-- A request that fails adds its entry and nothing else. -/
theorem Step.of_failed {s' : Shelf κ} (h : Step loader s s') {e : LibraryEntry κ}
    (hentries : s'.entries = s.entries ++ [e]) (hfailed : e.failed = true) :
    s'.libraries = s.libraries ∧ s'.stats = s.stats ∧ s'.events = s.events := by
  cases h with
  | nothing | closes => simp at hentries
  | notes => exact ⟨rfl, rfl, rfl⟩
  | opens | resolves =>
    have he := List.append_cancel_left hentries
    simp at he
    subst he
    contradiction

/-- What a program makes of any number of libraries, with a loader that always gives the same answers.
Every lookup in a library that is open answers as a lookup that remembers nothing, which is: an invalid
name if there is a NUL in it, not found if the loader does not have it, else the address that the
loader has. The loader is asked once, for that name, if its answer matters, and else for nothing. A
library remembers as many symbols as it has resolved names, and for each of these it has asked the
loader once, also if it is closed by now. The counters, which are words, and the events tell how many
libraries were opened and, over all of them, how many names were resolved; a request that fails leaves
libraries, counters and events as they are. -/
theorem run_counts_resolved (loader : Loader κ) (before : Stats) (rs : List LibraryRequest) :
    let s := run loader rs { stats := before }
    (∀ n l, s.library? n = some l →
      s.opened[n]? = some (l.handle, l.name) ∧ l.symbols.length = (s.resolved n).card ∧
      ∀ name, ∃ asked,
        (s.perform loader (.symbol n name)).entries =
          s.entries ++ [.lookup n name asked (loader.resolve l.handle name)] ∧
        (({ l with symbols := [] } : Library κ).reply loader s.stats name).answer =
          loader.resolve l.handle name ∧
        (asked = [name] ∨ asked = []) ∧
        (asked = [name] ↔ ∃ loader', l.reply loader' s.stats name ≠ l.reply loader s.stats name)) ∧
    (∀ r e, (s.perform loader r).entries = s.entries ++ [e] → e.failed = true →
      (s.perform loader r).libraries = s.libraries ∧ (s.perform loader r).stats = s.stats ∧
        (s.perform loader r).events = s.events) ∧
    (∀ n, ∀ name ∈ s.resolved n, s.asked n name = 1) ∧
    s.stats =
      { before with
        libraries := before.libraries + BitVec.ofNat 64 s.opened.length
        symbols := before.symbols + BitVec.ofNat 64 s.total } ∧
    (s.events.countP fun e => e.name = "library_loaded") = s.opened.length ∧
    (s.events.countP fun e => e.name = "symbol_resolved") = s.total := by
  intro s
  have hsound : s.Sound loader before := run_sound loader before rs
  refine ⟨?_, ?_, hsound.once, hsound.stats, hsound.loads, hsound.reports⟩
  · intro n l hl
    have hrec := hsound.recorded n l hl
    refine ⟨hrec.opened, ?_, fun name => ⟨l.questions loader s.stats name, ?_, ?_, ?_, ?_⟩⟩
    · rw [← hrec.names, List.toFinset_card_of_nodup hrec.nodup, List.length_map]
    · rw [perform_symbol hl, ← Library.symbol_answer hrec.faithful]
      rfl
    · apply Library.symbol_answer
      intro x a hx
      simp at hx
    · rw [Library.questions_eq]
      exact ite_eq_or_eq _ _ _
    · rw [Library.questions_eq, ← Library.asks_iff]
      simp
  · intro r e hentries hfailed
    exact (perform_step loader s r).of_failed hentries hfailed

/-- Two libraries of one handle each ask for the symbol, the second one although the first has asked
and is closed; a symbol that is missing is asked for each time. -/
theorem run_counts_resolved_two_libraries :
    let loader : Loader Unit :=
      { load := fun _ _ => .ok (), find := fun _ name => if name = "f" then some 7 else none }
    let s := run loader
      [.openSelf, .symbol 0 "f", .symbol 0 "f", .symbol 0 "g", .symbol 0 "g", .close 0,
        .openNamed "m" {}, .symbol 1 "f", .symbol 0 "f"] {}
    (∃ l, s.library? 1 = some l ∧ l.symbols.length = 1) ∧
      s.stats = { libraries := 2, symbols := 2 } ∧
      (s.asked 0 "f", s.asked 0 "g", s.asked 1 "f") = (1, 2, 1) := by
  intro loader s
  obtain ⟨hlibraries, -, honce, hstats, -⟩ := run_counts_resolved loader {}
    [.openSelf, .symbol 0 "f", .symbol 0 "f", .symbol 0 "g", .symbol 0 "g", .close 0,
      .openNamed "m" {}, .symbol 1 "f", .symbol 0 "f"]
  have hopened : s.opened.length = 2 := by decide
  have htotal : s.total = 2 := by decide
  have hcard : (s.resolved 1).card = 1 := by decide
  have hopen : (s.library? 1).isSome = true := by decide
  obtain ⟨l, hl⟩ := Option.isSome_iff_exists.1 hopen
  obtain ⟨-, hlength, -⟩ := hlibraries 1 l hl
  refine ⟨⟨l, hl, hlength.trans hcard⟩, ?_, ?_⟩
  · rw [hopened, htotal] at hstats
    exact hstats
  · have hmissing : s.asked 0 "g" = 2 := by decide
    rw [honce 0 "f" (by decide), hmissing, honce 1 "f" (by decide)]

end Shelf

end CallBridge
