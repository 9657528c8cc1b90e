import CallBridge.Index
import CallBridge.Proofs.SettingsOverlay
import CallBridge.Proofs.TomlDocuments

/-!
Settings that were saved are loaded again, also when parts of the file have been deleted.
-/

namespace CallBridge

namespace Toml

/-- What is left of a document: its sections by name, and their keys by section and name. -/
structure Selection where
  sections : String → Bool
  keys : (name key : String) → Bool

namespace Selection

/-- Whether a key is left, which it is not without its section. -/
def has (k : Selection) (name key : String) : Bool := k.sections name && k.keys name key

def all : Selection := ⟨fun _ => true, fun _ _ => true⟩

end Selection

def Document.keep (k : Selection) (d : Document) : Document :=
  (d.filter fun s => k.sections s.1).map fun (name, entries) =>
    (name, entries.filter fun e => k.keys name e.1)

/-- A key is left with its value, or it is not. -/
theorem Document.lookup_keep (k : Selection) (d : Document) (name key : String) :
    ((d.keep k).lookup name).bind (·.lookup key) =
      if k.has name key then (d.lookup name).bind (·.lookup key) else none := by
  rw [keep, Index.lookup_map fun (name : String) (entries : List (String × Scalar)) =>
    entries.filter fun e => k.keys name e.1, Index.lookup_filter]
  unfold Selection.has
  cases k.sections name with
  | false => rfl
  | true =>
    cases d.lookup name with
    | none => simp
    | some entries => simp [Index.lookup_filter (k.keys name)]

theorem Document.Plain.keep {d : Document} (h : d.Plain) (k : Selection) : (d.keep k).Plain := by
  have hmem : ∀ s ∈ d.keep k, ∃ entries, (s.1, entries) ∈ d ∧
      s.2 = entries.filter fun e => k.keys s.1 e.1 := by
    intro s hs
    obtain ⟨⟨name, entries⟩, hd, rfl⟩ := List.mem_map.1 hs
    exact ⟨entries, (List.mem_filter.1 hd).1, rfl⟩
  have hnames : (d.keep k).map Prod.fst = (d.filter fun s => k.sections s.1).map Prod.fst := by
    rw [Document.keep, List.map_map]
    rfl
  refine ⟨?_, fun s hs => ?_, fun s hs => ?_, fun s hs e he => ?_⟩
  · rw [hnames]
    exact h.names.sublist (List.filter_sublist.map _)
  all_goals obtain ⟨entries, hd, hentries⟩ := hmem s hs
  · exact h.bare (s.1, entries) hd
  · rw [hentries]
    exact (h.keys _ hd).sublist (List.filter_sublist.map _)
  · rw [hentries] at he
    exact h.bareKeys _ hd e (List.mem_filter.1 he).1

theorem Document.InRange.keep {d : Document} (h : d.InRange) (k : Selection) :
    (d.keep k).InRange := by
  intro s hs e he
  obtain ⟨⟨name, entries⟩, hd, rfl⟩ := List.mem_map.1 hs
  exact h _ (List.mem_filter.1 hd).1 e (List.mem_filter.1 he).1

namespace Table.Holds

variable {t : Table} {d : Document}

/-- What a table has for a key is what the document has. -/
theorem lookup_entry (h : t.Holds d) (name key : String) (position : Nat) :
    (t.lookup name).bind (fun v => v.entry? key position) =
      ((d.lookup name).bind (·.lookup key)).map Scalar.value := by
  have hname := h name
  cases hd : d.lookup name with
  | none =>
    rw [hd] at hname
    rw [hname]
    rfl
  | some entries =>
    rw [hd] at hname
    obtain ⟨form, sub, ht, hsub⟩ := hname
    rw [ht]
    exact hsub key

theorem isSection (h : t.Holds d) {name : String} {v : Value} (hv : t.lookup name = some v) :
    v.isSection = true := by
  have hname := h name
  rw [hv] at hname
  cases hd : d.lookup name with
  | none =>
    rw [hd] at hname
    cases hname
  | some entries =>
    rw [hd] at hname
    obtain ⟨form, sub, ht, -⟩ := hname
    cases ht
    rfl

end Table.Holds

end Toml

namespace Settings

open Toml (Selection)

/-- Settings with the defaults in place of what is not left. -/
def keep (k : Selection) (s : Settings) : Settings :=
  let default : Settings := {}
  { capacity := if k.has "callbacks" "capacity" then s.capacity else default.capacity
    captureErrno := if k.has "gateway" "capture_errno" then s.captureErrno else default.captureErrno
    logging :=
      { level := if k.has "logging" "level" then s.logging.level else default.logging.level
        fileOutput :=
          if k.has "logging" "file_output" then s.logging.fileOutput else default.logging.fileOutput
        path := if k.has "logging" "log_path" then s.logging.path else default.logging.path
        json := if k.has "logging" "json_format" then s.logging.json else default.logging.json
        spans := if k.has "logging" "show_spans" then s.logging.spans else default.logging.spans } }

theorem keep_all (s : Settings) : s.keep .all = s := rfl

theorem document_keep_all (s : Settings) : s.document.keep .all = s.document := by
  simp [Toml.Document.keep, Selection.all, List.filter_true]

variable {s : Settings} {k : Selection} {t : Toml.Table} {d : Toml.Document}

/-- A key that is left is read, and one that is not leaves the default. -/
theorem given_keep {α : Type} {read : Toml.Value → Option α} {default a : α}
    (h : t.Holds (d.keep k)) {name key : String} (position : Nat) {v : Option Toml.Scalar}
    (hread : match v with
      | none => a = default
      | some v => read v.value = some a)
    (hentry : (d.lookup name).bind (·.lookup key) = v) :
    Given t (name, key, position) read default (if k.has name key then a else default) := by
  unfold Given
  rw [h.lookup_entry, d.lookup_keep, hentry]
  cases k.has name key with
  | false => rfl
  | true => cases v <;> exact hread

/-- What a table has of the document of settings is what is left of them. -/
theorem ofTable_keep (h : t.Holds (s.document.keep k)) : ofTable t = some (s.keep k) := by
  have hpath : (s.document.lookup "logging").bind (·.lookup "log_path") =
      s.logging.path.map .string := by
    unfold document
    cases s.logging.path <;> rfl
  have hjson : (s.document.lookup "logging").bind (·.lookup "json_format") =
      some (.boolean s.logging.json) := by
    unfold document
    cases s.logging.path <;> rfl
  have hspans : (s.document.lookup "logging").bind (·.lookup "show_spans") =
      some (.boolean s.logging.spans) := by
    unfold document
    cases s.logging.path <;> rfl
  exact ofTable_eq_some_iff.2 {
    sections := fun _ _ _ hv => h.isSection hv
    capacity := given_keep h 0 rfl rfl
    captureErrno := given_keep h 0 rfl rfl
    level := given_keep h 0 (Level.ofName?_eq_some_iff.2 rfl) rfl
    fileOutput := given_keep h 1 rfl rfl
    path := given_keep h 2 (by cases s.logging.path <;> rfl) hpath
    json := given_keep h 3 rfl hjson
    spans := given_keep h 4 rfl hspans }

theorem document_plain (s : Settings) : s.document.Plain := by
  have hgood : ∀ keys ∈ [["logging", "callbacks", "gateway"], ["capacity"], ["capture_errno"],
      ["level", "file_output", "log_path", "json_format", "show_spans"],
      ["level", "file_output", "json_format", "show_spans"]],
      keys.Nodup ∧ ∀ k ∈ keys, Toml.Bare k := by decide
  have hnames : s.document.map Prod.fst = ["logging", "callbacks", "gateway"] := rfl
  have hkeys : ∀ sec ∈ s.document,
      (sec.2.map Prod.fst).Nodup ∧ ∀ k ∈ sec.2.map Prod.fst, Toml.Bare k := by
    intro sec hsec
    apply hgood
    revert sec
    simp only [document, List.forall_mem_cons]
    cases s.logging.path <;> simp
  refine ⟨hnames ▸ (hgood _ (by simp)).1, fun sec hsec => ?_, fun sec hsec => (hkeys sec hsec).1,
    fun sec hsec e he => (hkeys sec hsec).2 _ (List.mem_map_of_mem he)⟩
  exact (hgood _ (by simp)).2 _ (hnames ▸ List.mem_map_of_mem hsec)

/-- The only number in the document is the capacity. -/
theorem document_inRange (h : s.capacity < 0x8000000000000000) : s.document.InRange := by
  unfold Toml.Document.InRange
  simp only [document, List.forall_mem_cons]
  cases s.logging.path <;> simp [h]

/-- What is left of valid settings is valid. -/
theorem capacity_keep (h : 1 ≤ s.capacity ∧ s.capacity ≤ maxCallbacks) :
    1 ≤ (s.keep k).capacity ∧ (s.keep k).capacity ≤ maxCallbacks := by
  simp only [keep]
  split_ifs
  · exact h
  · decide

section Libraries

variable {lib : Toml.Library} {text : String}

/-- Every text of what is left of the document stands for what is left of the settings. -/
theorem parse_keep (ht : lib.read text = .ok t) (h : t.Holds (s.document.keep k)) :
    parse text lib.format =
      if 1 ≤ (s.keep k).capacity ∧ (s.keep k).capacity ≤ maxCallbacks then .ok (s.keep k)
      else .error (.capacity (s.keep k).capacity) :=
  parse_of_ok (Toml.Library.decode_eq_ok_iff.2 ⟨t, ht, ofTable_keep h⟩)

/-- Whatever is left of a document that can be written can be written, and is read as it is. -/
theorem exists_written (hlib : lib.Faithful) (hrange : s.capacity < 0x8000000000000000)
    (k : Selection) : ∃ text t, lib.write (s.document.keep k) = .ok text ∧
      lib.read text = .ok t ∧ t.Holds (s.document.keep k) := by
  have hplain := s.document_plain.keep k
  obtain ⟨text, htext⟩ := hlib.exists_write _ hplain ((document_inRange hrange).keep k)
  obtain ⟨t, ht, hholds⟩ := hlib.read_write _ _ hplain htext
  exact ⟨text, t, htext, ht, hholds⟩

end Libraries

/-- With a faithful library settings whose capacity is an integer of a document can be saved wherever
a file can be written. They are loaded as they were, or refused for their capacity. Any sections and
keys of the document may be deleted: every text that is read as what is left is loaded as the settings
with the defaults in place of just those. -/
theorem load_saved (lib : Toml.Library) (hlib : lib.Faithful) (s : Settings)
    (hrange : s.capacity < 0x8000000000000000) (files : FileTree) (path : String)
    (hopen : ∃ files', files.write path [] = .ok files') :
    (∃ files' text, s.save files path lib.format = .ok files' ∧ files'.readText path = .ok text ∧
      lib.write s.document = .ok text ∧
      load files' path lib.format =
        if 1 ≤ s.capacity ∧ s.capacity ≤ maxCallbacks then .ok s
        else .error (.capacity s.capacity)) ∧
    ∀ k : Selection,
      (∃ text t, lib.write (s.document.keep k) = .ok text ∧ lib.read text = .ok t ∧
        t.Holds (s.document.keep k)) ∧
      ∀ text t, lib.read text = .ok t → t.Holds (s.document.keep k) →
        1 ≤ s.capacity ∧ s.capacity ≤ maxCallbacks →
        ∀ (files : FileTree) (path : String), files.readText path = .ok text →
          load files path lib.format = .ok (s.keep k) := by
  refine ⟨?_, fun k => ⟨exists_written hlib hrange k, ?_⟩⟩
  · obtain ⟨text, t, hwrite, ht, hholds⟩ := exists_written hlib hrange .all
    have hparse := parse_keep ht hholds
    rw [keep_all] at hparse
    rw [document_keep_all] at hwrite
    obtain ⟨_, hopened⟩ := hopen
    obtain ⟨place, -, hput⟩ := FileTree.opens_of_write hopened
    have hread := FileTree.readText_write (hput (Utf8.bytes text))
    refine ⟨_, text, ?_, hread, hwrite, ?_⟩
    · simp only [save, render, Toml.Library.format, hwrite, hput, bind, Except.bind]
    · rw [load_of_readText hread, hparse]
  · intro text t ht hholds hvalid files path hread
    rw [load_of_readText hread, parse_keep ht hholds, if_pos (capacity_keep hvalid)]

/-- A path with both kinds of quotes, and a file of which one key is left. -/
theorem load_saved_quoted_path :
    let s : Settings := { capacity := 16, logging := { path := some "it's \"here\"" } }
    let files : FileTree := { home := "home" }
    let part := "[callbacks]\ncapacity = 16\n"
    Toml.library.Faithful ∧ s.capacity < 0x8000000000000000 ∧
      (∃ files', files.write "c.toml" [] = .ok files') ∧
      (∃ files' text, s.save files "c.toml" = .ok files' ∧ files'.readText "c.toml" = .ok text ∧
        Toml.library.write s.document = .ok text ∧ load files' "c.toml" = .ok s) ∧
      load (files.set ["home", "part.toml"] (.file (Utf8.bytes part))) "part.toml" =
        .ok { capacity := 16 } := by
  intro s files part
  have hlib := Toml.library_faithful
  have hopen : ∃ files', files.write "c.toml" [] = .ok files' :=
    ⟨files.set ["home", "c.toml"] (.file []), rfl⟩
  have hrange : s.capacity < 0x8000000000000000 := by decide
  have hopenPart : files.write "part.toml" (Utf8.bytes part) =
    .ok (files.set ["home", "part.toml"] (.file (Utf8.bytes part))) := rfl
  have hpart : Toml.library.write
      (s.document.keep { sections := (· == "callbacks"), keys := fun _ _ => true }) = .ok part :=
    Toml.library_write_eq_ok_iff.2 (by decide)
  obtain ⟨⟨files', text, hsave, hread, hwrite, hload⟩, hparts⟩ :=
    load_saved Toml.library hlib s hrange files "c.toml" hopen
  obtain ⟨⟨text', t, hwritten, ht, hholds⟩, hkept⟩ :=
    hparts { sections := (· == "callbacks"), keys := fun _ _ => true }
  cases hpart.symm.trans hwritten
  have hloadPart :=
    hkept _ t ht hholds ⟨by decide, by decide⟩ _ _ (FileTree.readText_write hopenPart)
  exact ⟨hlib, hrange, hopen, ⟨files', text, hsave, hread, hwrite, hload⟩, hloadPart⟩

end Settings

end CallBridge
