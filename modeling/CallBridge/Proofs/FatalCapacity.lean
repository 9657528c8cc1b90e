import CallBridge.Proofs.NativeCalls
import CallBridge.Proofs.SettingsOverlay

/-!
When the first use of the settings is fatal. A capacity out of range is, in the file or in the
overlay; whatever else is wrong with the environment leads to the defaults.
-/

namespace CallBridge

namespace Settings

variable {format : Format} {env : Environment} {files : FileTree} {base s : Settings} {n : Nat}

/-- The capacity in the file that the environment names, in range or not; none if there is no such
file or its text cannot be read as settings. -/
def fileCapacity? (format : Format) (env : Environment) (files : FileTree) : Option Nat :=
  match env.text? fileVariable with
  | none => none
  | some path =>
    match files.readText path with
    | .error _ => none
    | .ok text => (format.decode text).toOption.map Settings.capacity

/-- The capacity of the variable, or of the file, or the default: the first of them that can be
read. -/
def effectiveCapacity (format : Format) (env : Environment) (files : FileTree) : Nat :=
  (((env.text? capacityVariable).bind fun text => Text.unsigned? (Text.trim text)).or
    (fileCapacity? format env files)).getD maxCallbacks

/-- The capacities that are fatal: one in the file, whatever the variables hold, and the effective
one where nothing else is wrong. -/
inductive FatalCapacity (format : Format) (env : Environment) (files : FileTree) : Nat → Prop where
  | file {n : Nat} (hn : fileCapacity? format env files = some n)
    (hout : ¬ (1 ≤ n ∧ n ≤ maxCallbacks)) : FatalCapacity format env files n
  | overlay
    (hfile : ∀ path, env.text? fileVariable = some path → ∃ text s,
      files.readText path = .ok text ∧ format.decode text = .ok s ∧
        1 ≤ s.capacity ∧ s.capacity ≤ maxCallbacks)
    (hcapacity : ∀ text, env.text? capacityVariable = some text → ∃ n, Text.ShowsNumber text n)
    (herrno : ∀ text, env.text? errnoVariable = some text → ∃ b, ShowsFlag text b)
    (hout : ¬ (1 ≤ effectiveCapacity format env files ∧
      effectiveCapacity format env files ≤ maxCallbacks)) :
    FatalCapacity format env files (effectiveCapacity format env files)

theorem fileCapacity?_eq_some_iff : fileCapacity? format env files = some n ↔
    ∃ path text s, env.text? fileVariable = some path ∧ files.readText path = .ok text ∧
      format.decode text = .ok s ∧ s.capacity = n := by
  unfold fileCapacity?
  cases env.text? fileVariable with
  | none => simp
  | some path =>
    cases hread : files.readText path with
    | error => simp [hread]
    | ok text =>
      cases hs : format.decode text <;> simp [hread, hs, Except.toOption]

theorem fileCapacity?_of_base (h : Base format env files base) :
    (fileCapacity? format env files).getD maxCallbacks = base.capacity := by
  cases h with
  | defaults h =>
    rw [fileCapacity?, h]
    rfl
  | file hpath hload =>
    cases load_eq_iff.1 hload with
    | ok hread htext =>
      rw [fileCapacity?_eq_some_iff.2 ⟨_, _, base, hpath, hread, htext, rfl⟩, Option.getD_some]

/-- The capacity that comes out of the overlay is the effective one. -/
theorem effectiveCapacity_of_laid (hbase : Base format env files base)
    (h : Laid env capacityVariable Text.ShowsNumber base.capacity n) :
    effectiveCapacity format env files = n := by
  unfold Laid at h
  unfold effectiveCapacity
  cases htext : env.text? capacityVariable with
  | none =>
    rw [htext] at h
    rw [Option.bind_none, Option.none_or, fileCapacity?_of_base hbase, h]
  | some text =>
    rw [htext] at h
    rw [Option.bind_some, Text.unsigned?_trim_eq_some_iff.2 h, Option.some_or, Option.getD_some]

theorem ofEnvironment_eq_capacity_iff :
    ofEnvironment env files format = .error (.capacity n) ↔ FatalCapacity format env files n := by
  rw [ofEnvironment_eq_iff]
  constructor
  · intro h
    cases h with
    | file hpath hload =>
      cases load_eq_iff.1 hload with
      | capacity hread htext hout =>
        exact .file (fileCapacity?_eq_some_iff.2 ⟨_, _, _, hpath, hread, htext, rfl⟩) hout
    | @capacity base s hbase hs hout =>
      have heffective := effectiveCapacity_of_laid hbase hs.capacity
      rw [← heffective] at hout ⊢
      refine .overlay (fun path hpath => ?_) (fun _ => hs.capacity.exists_shows)
        (fun _ => hs.captureErrno.exists_shows) hout
      cases hbase with
      | defaults h => cases h.symm.trans hpath
      | file hpath' hload =>
        cases hpath'.symm.trans hpath
        cases load_eq_iff.1 hload with
        | ok hread htext hin => exact ⟨_, base, hread, htext, hin⟩
  · rintro (⟨hn, hout⟩ | ⟨hfile, hcapacity, herrno, hout⟩)
    · obtain ⟨path, text, s, hpath, hread, htext, rfl⟩ := fileCapacity?_eq_some_iff.1 hn
      exact .file hpath (load_eq_iff.2 (.capacity hread htext hout))
    · obtain ⟨base, hbase⟩ : ∃ base, Base format env files base := by
        obtain ⟨path, e, hpath, hload⟩ | hbase := fails_or_base format env files
        · obtain ⟨text, s, hread, htext, hin⟩ := hfile path hpath
          cases hload.symm.trans (load_eq_iff.2 (.ok hread htext hin))
        · exact hbase
      obtain ⟨capacity, hlaid⟩ := exists_laid base.capacity hcapacity
      obtain ⟨captureErrno, hflag⟩ := exists_laid base.captureErrno herrno
      obtain ⟨s, rfl, hs⟩ := exists_overlays hlaid hflag
      rw [effectiveCapacity_of_laid hbase hlaid] at hout ⊢
      exact .capacity hbase hs hout

end Settings

namespace Process

variable {β η ε : Type}

/-- The first use of the settings panics for a fatal capacity and for nothing else. Otherwise the
settings of the environment are in effect, or the defaults if there is something wrong with it. -/
theorem first_readSettings_panics_iff (p : Process β η ε) (hs : p.settings = none) :
    (∀ n, (readSettings p).ended = .error (.panic (.violation (.configuredCapacity n))) ↔
      Settings.FatalCapacity p.format p.environment p.files n) ∧
    (∀ n, (Panic.violation (.configuredCapacity n)).message =
      "Callback capacity must be between 1 and " ++ toString maxCallbacks ++ ", got "
        ++ toString n) ∧
    ((∀ n, ¬ Settings.FatalCapacity p.format p.environment p.files n) →
      ∃ s, (readSettings p).ended = .ok s ∧
        (Settings.ofEnvironment p.environment p.files p.format = .ok s ∨
          s = {} ∧ ∃ e, Settings.ofEnvironment p.environment p.files p.format = .error e ∧
            (readSettings p).records = [.event (.settingsRejected e)])) := by
  rw [readSettings_of_none hs]
  simp only [← Settings.ofEnvironment_eq_capacity_iff]
  refine ⟨fun n => ?_, fun _ => rfl, fun hfatal => ?_⟩
  · cases he : Settings.ofEnvironment p.environment p.files p.format with
    | ok s => simp
    | error e => cases e <;> simp
  · cases he : Settings.ofEnvironment p.environment p.files p.format with
    | ok s => exact ⟨s, rfl, .inl rfl⟩
    | error e =>
      cases e with
      | capacity n => exact absurd he (hfatal n)
      | _ => exact ⟨{}, rfl, .inr ⟨rfl, _, rfl, rfl⟩⟩

/-- A capacity of zero in the variable. -/
theorem first_readSettings_panics_zero :
    let p : Process Unit Empty Unit :=
      { environment := { entries := [("NATIVECALL_CALLBACK_CAPACITY", Utf8.bytes " 0 ")] }
        files := { home := "home" }, nativeBase := 0x400000, client := () }
    p.settings = none ∧
      (readSettings p).ended = .error (.panic (.violation (.configuredCapacity 0))) := by
  intro p
  have hfatal : Settings.FatalCapacity p.format p.environment p.files 0 := by
    rw [← Settings.ofEnvironment_eq_capacity_iff]
    decide +kernel
  exact ⟨rfl, ((first_readSettings_panics_iff p rfl).1 0).2 hfatal⟩

/-- The effective capacity alone does not decide. A zero next to a flag that cannot be read leads to
the defaults, and a zero in the file is fatal under a variable that says sixteen. -/
theorem effectiveCapacity_not_decisive :
    let panics (p : Process Unit Empty Unit) : Prop :=
      ∃ n, (readSettings p).ended = .error (.panic (.violation (.configuredCapacity n)))
    let capacity (p : Process Unit Empty Unit) : Nat :=
      Settings.effectiveCapacity p.format p.environment p.files
    let unread : Process Unit Empty Unit :=
      { environment := { entries := [("NATIVECALL_CALLBACK_CAPACITY", Utf8.bytes "0"),
          ("NATIVECALL_CAPTURE_ERRNO", Utf8.bytes "maybe")] }
        files := { home := "home" }, nativeBase := 0x400000, client := () }
    let covered : Process Unit Empty Unit :=
      { environment := { entries := [("NATIVECALL_CALLBACK_CAPACITY", Utf8.bytes "16"),
          ("NATIVECALL_CONFIG", Utf8.bytes "c.toml")] }
        files := { home := "home", nodes := [(["home", "c.toml"],
          .file (Utf8.bytes "[callbacks]\ncapacity = 0\n"))] }
        nativeBase := 0x400000, client := () }
    (unread.settings = none ∧ capacity unread = 0 ∧ ¬ panics unread) ∧
      (covered.settings = none ∧ capacity covered = 16 ∧ panics covered) := by
  intro panics capacity unread covered
  have hunread : Settings.ofEnvironment unread.environment unread.files =
      .error (.environment "NATIVECALL_CAPTURE_ERRNO" "maybe") := by decide +kernel
  have hcovered : Settings.ofEnvironment covered.environment covered.files =
      .error (.capacity 0) := by decide +kernel
  refine ⟨⟨rfl, by decide +kernel, ?_⟩, ⟨rfl, by decide +kernel, 0, ?_⟩⟩
  · rintro ⟨n, hn⟩
    rw [readSettings_of_none rfl, hunread] at hn
    nomatch hn
  · rw [readSettings_of_none rfl, hcovered]

end Process

end CallBridge
