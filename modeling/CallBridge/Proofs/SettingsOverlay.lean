import CallBridge.Proofs.SettingTexts
import CallBridge.Proofs.WrittenFiles

/-!
Settings of the environment, field by field. The file or the defaults are below, a variable that is
set is above, and of several errors the first in a fixed order is reported.
-/

namespace CallBridge.Settings

variable {α : Type} {format : Format} {env env' : Environment} {files : FileTree}
  {base s s' : Settings} {name path : String} {e : SettingsError}
  {r : Except SettingsError Settings}

theorem validate_eq_ok_iff : s.validate = .ok () ↔ 1 ≤ s.capacity ∧ s.capacity ≤ maxCallbacks := by
  unfold validate
  split_ifs with h <;> simp [h]

/-- What loading a file comes to: it is unreadable, malformed or out of range, or its settings. -/
inductive Loaded (format : Format) (files : FileTree) (path : String) :
    Except SettingsError Settings → Prop where
  | unreadable {e : FileError} (h : files.readText path = .error e) :
    Loaded format files path (.error (.unreadable (path ++ ": " ++ e.message)))
  | malformed {text e : String} (h : files.readText path = .ok text)
    (htext : format.decode text = .error e) : Loaded format files path (.error (.malformed e))
  | capacity {text : String} {s : Settings} (h : files.readText path = .ok text)
    (htext : format.decode text = .ok s) (hout : ¬ (1 ≤ s.capacity ∧ s.capacity ≤ maxCallbacks)) :
    Loaded format files path (.error (.capacity s.capacity))
  | ok {text : String} {s : Settings} (h : files.readText path = .ok text)
    (htext : format.decode text = .ok s) (hin : 1 ≤ s.capacity ∧ s.capacity ≤ maxCallbacks) :
    Loaded format files path (.ok s)

theorem Loaded.eq (h : Loaded format files path r) : load files path format = r := by
  cases h with
  | unreadable h => rw [load, h]
  | malformed h htext => rw [load_of_readText h, parse_of_error htext]
  | capacity h htext hout => rw [load_of_readText h, parse_of_ok htext, if_neg hout]
  | ok h htext hin => rw [load_of_readText h, parse_of_ok htext, if_pos hin]

theorem exists_loaded (format : Format) (files : FileTree) (path : String) :
    ∃ r, Loaded format files path r := by
  cases h : files.readText path with
  | error e => exact ⟨_, .unreadable h⟩
  | ok text =>
    cases htext : format.decode text with
    | error e => exact ⟨_, .malformed h htext⟩
    | ok s =>
      by_cases hin : 1 ≤ s.capacity ∧ s.capacity ≤ maxCallbacks
      · exact ⟨_, .ok h htext hin⟩
      · exact ⟨_, .capacity h htext hin⟩

theorem load_eq_iff : load files path format = r ↔ Loaded format files path r := by
  constructor
  · rintro rfl
    obtain ⟨r, hr⟩ := exists_loaded format files path
    rwa [hr.eq]
  · exact Loaded.eq

/-- A setting in a document: what `read` makes of the value at its place, or the default if there is
no such value. -/
def Given (t : Toml.Table) (place : String × String × Nat) (read : Toml.Value → Option α)
    (default a : α) : Prop :=
  match (t.lookup place.1).bind (fun v => v.entry? place.2.1 place.2.2) with
  | none => a = default
  | some v => read v = some a

/-- The settings of a document: what should be a section is one, and every field comes from its own
place, or is the default. -/
structure FromTable (t : Toml.Table) (s : Settings) : Prop where
  sections : ∀ name ∈ ["logging", "callbacks", "gateway"],
    ∀ v, t.lookup name = some v → v.isSection = true
  capacity : Given t ("callbacks", "capacity", 0) Toml.Value.count? maxCallbacks s.capacity
  captureErrno : Given t ("gateway", "capture_errno", 0) Toml.Value.boolean? true s.captureErrno
  level : Given t ("logging", "level", 0) Toml.Value.level? .info s.logging.level
  fileOutput : Given t ("logging", "file_output", 1) Toml.Value.boolean? false s.logging.fileOutput
  path : Given t ("logging", "log_path", 2) (·.string?.map some) none s.logging.path
  json : Given t ("logging", "json_format", 3) Toml.Value.boolean? false s.logging.json
  spans : Given t ("logging", "show_spans", 4) Toml.Value.boolean? false s.logging.spans

section Tables

variable {t : Toml.Table} {sec key : String} {position : Nat} {v : Toml.Value}
  {read : Toml.Value → Option α} {default a : α}

theorem given_of_missing (h : t.lookup sec = none) :
    Given t (sec, key, position) read default a ↔ a = default := by
  unfold Given
  rw [h]
  rfl

theorem given_iff_setting (hsec : t.lookup sec = some v) :
    Given t (sec, key, position) read default a ↔
      Toml.Value.setting default read (v.entry? key position) = some a := by
  unfold Given
  rw [hsec, Option.bind_some]
  dsimp only
  cases v.entry? key position with
  | none => exact eq_comm.trans (Option.some_inj).symm
  | some v => exact Iff.rfl

/-- A section with one field. -/
theorem setting_section_iff : Toml.Value.setting default (fun v =>
      if v.isSection then Toml.Value.setting default read (v.entry? key position) else none)
      (t.lookup sec) = some a ↔
    (∀ v, t.lookup sec = some v → v.isSection = true) ∧
      Given t (sec, key, position) read default a := by
  cases hsec : t.lookup sec with
  | none =>
    rw [given_of_missing hsec, Toml.Value.setting, Option.some_inj]
    simpa using eq_comm
  | some v => cases hv : v.isSection <;> simp [given_iff_setting hsec, Toml.Value.setting, hv]

theorem setting_logging_iff {l : LogSettings} :
    Toml.Value.setting {} LogSettings.ofValue (t.lookup "logging") = some l ↔
      (∀ v, t.lookup "logging" = some v → v.isSection = true) ∧
      Given t ("logging", "level", 0) Toml.Value.level? .info l.level ∧
      Given t ("logging", "file_output", 1) Toml.Value.boolean? false l.fileOutput ∧
      Given t ("logging", "log_path", 2) (·.string?.map some) none l.path ∧
      Given t ("logging", "json_format", 3) Toml.Value.boolean? false l.json ∧
      Given t ("logging", "show_spans", 4) Toml.Value.boolean? false l.spans := by
  obtain ⟨level, file, path, json, spans⟩ := l
  cases hsec : t.lookup "logging" with
  | none =>
    simp only [given_of_missing hsec, Toml.Value.setting, Option.some.injEq, LogSettings.mk.injEq]
    constructor
    · rintro ⟨rfl, rfl, rfl, rfl, rfl⟩
      exact ⟨nofun, rfl, rfl, rfl, rfl, rfl⟩
    · rintro ⟨-, rfl, rfl, rfl, rfl, rfl⟩
      exact ⟨rfl, rfl, rfl, rfl, rfl⟩
  | some v =>
    simp only [given_iff_setting hsec, Toml.Value.setting, LogSettings.ofValue]
    cases hv : v.isSection with
    | false => simp [hv]
    | true =>
      simp only [hv, if_true, Option.bind_eq_bind, Option.bind_eq_some_iff, Option.some.injEq,
        LogSettings.mk.injEq, forall_eq', true_and]
      constructor
      · rintro ⟨_, hl, _, hf, _, hp, _, hj, _, hs, rfl, rfl, rfl, rfl, rfl⟩
        exact ⟨hl, hf, hp, hj, hs⟩
      · rintro ⟨hl, hf, hp, hj, hs⟩
        exact ⟨_, hl, _, hf, _, hp, _, hj, _, hs, rfl, rfl, rfl, rfl, rfl⟩

theorem ofTable_eq_some_iff : ofTable t = some s ↔ FromTable t s := by
  obtain ⟨capacity, captureErrno, l⟩ := s
  simp only [ofTable, Option.bind_eq_bind, Option.bind_eq_some_iff, Option.some.injEq,
    Settings.mk.injEq, setting_section_iff, setting_logging_iff]
  constructor
  · rintro ⟨_, ⟨hlogging, hl, hf, hp, hj, hs⟩, _, ⟨hcallbacks, hc⟩, _, ⟨hgateway, he⟩, h⟩
    obtain ⟨rfl, rfl, rfl⟩ := h
    refine ⟨?_, hc, he, hl, hf, hp, hj, hs⟩
    simp only [List.forall_mem_cons]
    exact ⟨hlogging, hcallbacks, hgateway, nofun⟩
  · rintro ⟨hsections, hc, he, hl, hf, hp, hj, hs⟩
    simp only [List.forall_mem_cons] at hsections
    obtain ⟨hlogging, hcallbacks, hgateway, -⟩ := hsections
    exact ⟨_, ⟨hlogging, hl, hf, hp, hj, hs⟩, _, ⟨hcallbacks, hc⟩, _, ⟨hgateway, he⟩, rfl, rfl, rfl⟩

end Tables

/-- Settings that the variables are laid over. -/
inductive Base (format : Format) (env : Environment) (files : FileTree) : Settings → Prop where
  | defaults (h : env.text? fileVariable = none) : Base format env files {}
  | file {path : String} {s : Settings} (hpath : env.text? fileVariable = some path)
    (hload : load files path format = .ok s) : Base format env files s

theorem Base.unique (h : Base format env files s) (h' : Base format env' files s')
    (henv : env'.text? fileVariable = env.text? fileVariable) : s' = s := by
  cases h with
  | defaults h =>
    cases h' with
    | defaults => rfl
    | file hpath => cases (h.symm.trans henv.symm).trans hpath
  | file hpath hload =>
    cases h' with
    | defaults h => cases (hpath.symm.trans henv.symm).trans h
    | file hpath' hload' =>
      cases (hpath.symm.trans henv.symm).trans hpath'
      exact Except.ok.inj (hload'.symm.trans hload)

/-- A setting with a variable over it: what the variable's text shows, or what was there if the
variable is not set. -/
def Laid (env : Environment) (name : String) (Shows : String → α → Prop) (a b : α) : Prop :=
  match env.text? name with
  | none => b = a
  | some text => Shows text b

/-- A setting depends on the text of its own variable only. -/
theorem Laid.congr {Shows : String → α → Prop} {a b b' : α}
    (hunique : ∀ text b b', Shows text b → Shows text b' → b' = b) (h : Laid env name Shows a b)
    (h' : Laid env' name Shows a b') (henv : env'.text? name = env.text? name) : b' = b := by
  unfold Laid at h h'
  rw [henv] at h'
  cases htext : env.text? name with
  | none =>
    rw [htext] at h h'
    exact h'.trans h.symm
  | some text =>
    rw [htext] at h h'
    exact hunique text b b' h h'

theorem Laid.exists_shows {Shows : String → α → Prop} {a b : α}
    (h : Laid env name Shows a b) {text : String} (htext : env.text? name = some text) :
    ∃ b, Shows text b := by
  unfold Laid at h
  rw [htext] at h
  exact ⟨b, h⟩

theorem exists_laid {Shows : String → α → Prop} (a : α)
    (h : ∀ text, env.text? name = some text → ∃ b, Shows text b) :
    ∃ b, Laid env name Shows a b := by
  unfold Laid
  cases htext : env.text? name with
  | none => exact ⟨a, rfl⟩
  | some text => exact h text htext

section Override

variable {read : String → Option α} {Shows : String → α → Prop} {a b : α}

theorem override_eq_ok_iff (hread : ∀ text b, read text = some b ↔ Shows text b) :
    override env name read a = .ok b ↔ Laid env name Shows a b := by
  unfold override Laid
  cases env.text? name with
  | none => simpa using eq_comm
  | some text =>
    dsimp only
    rw [← hread]
    cases read text <;> simp

theorem override_eq_error_iff (hread : ∀ text b, read text = some b ↔ Shows text b) :
    override env name read a = .error e ↔
      ∃ text, env.text? name = some text ∧ (∀ b, ¬ Shows text b) ∧ e = .environment name text := by
  unfold override
  cases env.text? name with
  | none => simp
  | some text =>
    have hnone : (∀ b, ¬ Shows text b) ↔ read text = none := by
      simp only [← hread, Option.eq_none_iff_forall_ne_some, ne_eq]
    cases hb : read text <;> simp [hnone, hb, eq_comm]

end Override

/-- The level that a text names, or `info` if it names none. -/
def ShowsLevel (text : String) (l : Level) : Prop :=
  Text.Spells text.toList l.name ∨ (∀ l' : Level, ¬ Text.Spells text.toList l'.name) ∧ l = .info

/-- Every field comes from its own variable, or else from below. -/
structure Overlays (env : Environment) (base s : Settings) : Prop where
  capacity : Laid env "NATIVECALL_CALLBACK_CAPACITY" Text.ShowsNumber base.capacity s.capacity
  captureErrno : Laid env "NATIVECALL_CAPTURE_ERRNO" ShowsFlag base.captureErrno s.captureErrno
  level : Laid env "NATIVECALL_LOG_LEVEL" ShowsLevel base.logging.level s.logging.level
  fileOutput : Laid env "NATIVECALL_LOG_FILE" (fun _ on => on = true) base.logging.fileOutput
    s.logging.fileOutput
  path : Laid env "NATIVECALL_LOG_FILE" (fun text p => p = some text) base.logging.path
    s.logging.path
  json : Laid env "NATIVECALL_LOG_JSON" (fun _ on => on = true) base.logging.json s.logging.json
  spans : Laid env "NATIVECALL_LOG_SPANS" (fun _ on => on = true) base.logging.spans s.logging.spans

theorem showsLevel_iff {text : String} {l : Level} :
    ShowsLevel text l ↔ l = (Level.parse? text).getD .info := by
  unfold ShowsLevel
  simp only [← Level.parse?_eq_some_iff]
  cases Level.parse? text <;> simp [eq_comm]

theorem laid_level_iff {a b : Level} : Laid env name ShowsLevel a b ↔
    b = match env.text? name with
      | some text => (Level.parse? text).getD .info
      | none => a := by
  unfold Laid
  cases env.text? name with
  | none => rfl
  | some text => exact showsLevel_iff

theorem laid_switch_iff {a b : Bool} :
    Laid env name (fun _ on => on = true) a b ↔ b = (a || (env.text? name).isSome) := by
  unfold Laid
  cases env.text? name <;> simp

theorem laid_path_iff {a b : Option String} :
    Laid env name (fun text p => p = some text) a b ↔ b = (env.text? name).or a := by
  unfold Laid
  cases env.text? name <;> simp

theorem overlays_iff : Overlays env base s ↔
    Laid env capacityVariable Text.ShowsNumber base.capacity s.capacity ∧
    Laid env errnoVariable ShowsFlag base.captureErrno s.captureErrno ∧
    s.logging = base.logging.overlay env := by
  have hlogging : s.logging = base.logging.overlay env ↔
      Laid env "NATIVECALL_LOG_LEVEL" ShowsLevel base.logging.level s.logging.level ∧
      Laid env "NATIVECALL_LOG_FILE" (fun _ on => on = true) base.logging.fileOutput
        s.logging.fileOutput ∧
      Laid env "NATIVECALL_LOG_FILE" (fun text p => p = some text) base.logging.path
        s.logging.path ∧
      Laid env "NATIVECALL_LOG_JSON" (fun _ on => on = true) base.logging.json s.logging.json ∧
      Laid env "NATIVECALL_LOG_SPANS" (fun _ on => on = true) base.logging.spans
        s.logging.spans := by
    rw [laid_level_iff, laid_switch_iff, laid_path_iff, laid_switch_iff, laid_switch_iff]
    obtain ⟨_, _, level, file, path, json, spans⟩ := s
    exact LogSettings.mk.injEq .. ▸ Iff.rfl
  rw [hlogging]
  constructor
  · exact fun h => ⟨h.capacity, h.captureErrno, h.level, h.fileOutput, h.path, h.json, h.spans⟩
  · exact fun ⟨hc, he, hl, hf, hp, hj, hs⟩ => ⟨hc, he, hl, hf, hp, hj, hs⟩

theorem exists_overlays {n : Nat} {b : Bool}
    (hcapacity : Laid env capacityVariable Text.ShowsNumber base.capacity n)
    (herrno : Laid env errnoVariable ShowsFlag base.captureErrno b) :
    ∃ s, s.capacity = n ∧ Overlays env base s :=
  ⟨{ capacity := n, captureErrno := b, logging := base.logging.overlay env }, rfl,
    overlays_iff.2 ⟨hcapacity, herrno, rfl⟩⟩

/-- What reading the environment comes to: an error of the file, a capacity or a flag that cannot be
read, a capacity out of range, or the overlay. -/
inductive Outcome (format : Format) (env : Environment) (files : FileTree) :
    Except SettingsError Settings → Prop where
  | file {path : String} {e : SettingsError} (hpath : env.text? fileVariable = some path)
    (hload : load files path format = .error e) : Outcome format env files (.error e)
  | capacityText {base : Settings} {text : String} (hbase : Base format env files base)
    (htext : env.text? capacityVariable = some text) (h : ∀ n, ¬ Text.ShowsNumber text n) :
    Outcome format env files (.error (.environment capacityVariable text))
  | errnoText {base : Settings} {n : Nat} {text : String} (hbase : Base format env files base)
    (hcapacity : Laid env capacityVariable Text.ShowsNumber base.capacity n)
    (htext : env.text? errnoVariable = some text) (h : ∀ b, ¬ ShowsFlag text b) :
    Outcome format env files (.error (.environment errnoVariable text))
  | capacity {base s : Settings} (hbase : Base format env files base) (hs : Overlays env base s)
    (hout : ¬ (1 ≤ s.capacity ∧ s.capacity ≤ maxCallbacks)) :
    Outcome format env files (.error (.capacity s.capacity))
  | ok {base s : Settings} (hbase : Base format env files base) (hs : Overlays env base s)
    (hin : 1 ≤ s.capacity ∧ s.capacity ≤ maxCallbacks) : Outcome format env files (.ok s)

theorem ofEnvironment_of_error (hpath : env.text? fileVariable = some path)
    (hload : load files path format = .error e) : ofEnvironment env files format = .error e := by
  unfold ofEnvironment
  rw [hpath]
  dsimp only
  rw [hload]
  rfl

theorem ofEnvironment_of_base (h : Base format env files base) :
    ofEnvironment env files format = base.overlay env := by
  unfold ofEnvironment
  cases h with
  | defaults h =>
    rw [h]
    rfl
  | file hpath hload =>
    rw [hpath]
    dsimp only
    rw [hload]
    rfl

theorem fails_or_base (format : Format) (env : Environment) (files : FileTree) :
    (∃ path e, env.text? fileVariable = some path ∧ load files path format = .error e) ∨
      ∃ base, Base format env files base := by
  cases hpath : env.text? fileVariable with
  | none => exact .inr ⟨_, .defaults hpath⟩
  | some path =>
    cases hload : load files path format with
    | error e => exact .inl ⟨path, e, rfl, hload⟩
    | ok s => exact .inr ⟨s, .file hpath hload⟩

/-- The capacity is read first, then the flag. -/
theorem overlay_of_overlays (h : Overlays env base s) :
    base.overlay env =
      if 1 ≤ s.capacity ∧ s.capacity ≤ maxCallbacks then .ok s
      else .error (.capacity s.capacity) := by
  obtain ⟨hcapacity, herrno, hlogging⟩ := overlays_iff.1 h
  rw [← override_eq_ok_iff fun _ _ => Text.unsigned?_trim_eq_some_iff] at hcapacity
  rw [← override_eq_ok_iff fun _ _ => flag?_eq_some_iff] at herrno
  simp only [overlay, hcapacity, herrno, ← hlogging, bind, Except.bind, validate]
  split_ifs <;> rfl

theorem overlay_of_capacityText {text : String} (htext : env.text? capacityVariable = some text)
    (h : ∀ n, ¬ Text.ShowsNumber text n) :
    base.overlay env = .error (.environment capacityVariable text) := by
  have hcapacity : override env capacityVariable (fun s => Text.unsigned? (Text.trim s))
      base.capacity = .error (.environment capacityVariable text) :=
    (override_eq_error_iff fun _ _ => Text.unsigned?_trim_eq_some_iff).2 ⟨text, htext, h, rfl⟩
  simp only [overlay, hcapacity, bind, Except.bind]

theorem overlay_of_errnoText {n : Nat} {text : String}
    (hcapacity : Laid env capacityVariable Text.ShowsNumber base.capacity n)
    (htext : env.text? errnoVariable = some text) (h : ∀ b, ¬ ShowsFlag text b) :
    base.overlay env = .error (.environment errnoVariable text) := by
  rw [← override_eq_ok_iff fun _ _ => Text.unsigned?_trim_eq_some_iff] at hcapacity
  have herrno : override env errnoVariable flag? base.captureErrno =
      .error (.environment errnoVariable text) :=
    (override_eq_error_iff fun _ _ => flag?_eq_some_iff).2 ⟨text, htext, h, rfl⟩
  simp only [overlay, hcapacity, herrno, bind, Except.bind]

theorem Outcome.eq (h : Outcome format env files r) : ofEnvironment env files format = r := by
  cases h with
  | file hpath hload => exact ofEnvironment_of_error hpath hload
  | capacityText hbase htext h =>
    rw [ofEnvironment_of_base hbase, overlay_of_capacityText htext h]
  | errnoText hbase hcapacity htext h =>
    rw [ofEnvironment_of_base hbase, overlay_of_errnoText hcapacity htext h]
  | capacity hbase hs hout => rw [ofEnvironment_of_base hbase, overlay_of_overlays hs, if_neg hout]
  | ok hbase hs hin => rw [ofEnvironment_of_base hbase, overlay_of_overlays hs, if_pos hin]

theorem exists_outcome (format : Format) (env : Environment) (files : FileTree) :
    ∃ r, Outcome format env files r := by
  obtain ⟨path, e, hpath, hload⟩ | ⟨base, hbase⟩ := fails_or_base format env files
  · exact ⟨_, .file hpath hload⟩
  cases hcapacity : override env capacityVariable (fun s => Text.unsigned? (Text.trim s))
      base.capacity with
  | error e =>
    obtain ⟨text, htext, hnot, -⟩ :=
      (override_eq_error_iff fun _ _ => Text.unsigned?_trim_eq_some_iff).1 hcapacity
    exact ⟨_, .capacityText hbase htext hnot⟩
  | ok capacity =>
    rw [override_eq_ok_iff fun _ _ => Text.unsigned?_trim_eq_some_iff] at hcapacity
    cases herrno : override env errnoVariable flag? base.captureErrno with
    | error e =>
      obtain ⟨text, htext, hnot, -⟩ := (override_eq_error_iff fun _ _ => flag?_eq_some_iff).1 herrno
      exact ⟨_, .errnoText hbase hcapacity htext hnot⟩
    | ok captureErrno =>
      rw [override_eq_ok_iff fun _ _ => flag?_eq_some_iff] at herrno
      obtain ⟨s, -, hs⟩ := exists_overlays hcapacity herrno
      by_cases hin : 1 ≤ s.capacity ∧ s.capacity ≤ maxCallbacks
      · exact ⟨_, .ok hbase hs hin⟩
      · exact ⟨_, .capacity hbase hs hin⟩

theorem ofEnvironment_eq_iff : ofEnvironment env files format = r ↔ Outcome format env files r := by
  constructor
  · rintro rfl
    obtain ⟨r, hr⟩ := exists_outcome format env files
    rwa [hr.eq]
  · exact Outcome.eq

/-- Settings that come from the environment have passed validation. -/
theorem validate_of_ofEnvironment (h : ofEnvironment env files format = .ok s) :
    s.validate = .ok () := by
  cases ofEnvironment_eq_iff.1 h with
  | ok _ _ hin => exact validate_eq_ok_iff.2 hin

end CallBridge.Settings
