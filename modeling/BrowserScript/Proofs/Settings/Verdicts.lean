/-
BrowserScript.Proofs.Settings.Verdicts — what becomes of the entries of a configuration.

The settings are read one after the other. The value of a setting is used, or it is refused as a fault of the
configuration, or reading it fails in some other way. The first value that is not used decides what becomes
of the configuration, whatever stands under the other keys.

* `Verdict` is the judgement on a value; `pathVerdict`, `browserVerdict`, `timeVerdict`, `markerVerdict` and
  `secretsVerdict` judge the values of the single settings, `entriesVerdict` all of them in their order.
* `Verdict.Judges v x P`: the reading `x` ends as the verdict `v` says, with a result of which `P` holds. There
  is one lemma for each kind of setting, and `Judges.bind` puts them together.
* `viewportFits` judges the size of the window, which is taken as it stands.
* `ofProject_eq_ok`: the configuration of a project is read from entries too.

Main statement: `ofEntries_sound_iff`. A configuration is read with a size of two positive whole numbers, or
refused as a fault of the configuration, exactly when no reading fails in another way before it is refused
and, if it is not refused, the size fits.
-/
import BrowserScript.Settings.Loading

namespace BrowserScript

/-! ## §1 Verdicts -/

/-- What becomes of a value: it is used, it is refused as a fault of the configuration, or reading it fails
in some other way. -/
inductive Verdict where
  | usable
  | refused
  | escaping
  deriving Repr, DecidableEq

namespace Verdict

/-- The verdict on a value and on those that are read after it. -/
def andThen : Verdict → Verdict → Verdict
  | .usable, w => w
  | v, _ => v

/-- A reading ends as a verdict says; `P` holds of what it reads. -/
structure Judges {α : Type} (v : Verdict) (x : Except Failure α) (P : α → Prop) : Prop where
  usable : v = .usable → ∃ a, x = .ok a ∧ P a
  refused : v = .refused → ∃ fault, x = .error (.settings fault)
  escaping : v = .escaping → ∃ fault, x = .error (.ordinary fault)

namespace Judges

variable {α β : Type} {v w : Verdict} {x : Except Failure α} {P : α → Prop} {Q : β → Prop}

theorem ok {a : α} (h : P a) : Verdict.usable.Judges (.ok a) P := ⟨fun _ => ⟨a, rfl, h⟩, nofun, nofun⟩

theorem settings (fault : SettingsFault) : Verdict.refused.Judges (badSettings fault) P :=
  ⟨nofun, fun _ => ⟨fault, rfl⟩, nofun⟩

theorem ordinary (fault : Fault) : Verdict.escaping.Judges (.error (.ordinary fault)) P :=
  ⟨nofun, nofun, fun _ => ⟨fault, rfl⟩⟩

theorem bind {f : α → Except Failure β} (hx : v.Judges x P) (hf : ∀ a, P a → w.Judges (f a) Q) :
    (v.andThen w).Judges (x >>= f) Q := by
  cases v with
  | usable =>
    obtain ⟨a, rfl, ha⟩ := hx.usable rfl
    exact hf a ha
  | refused =>
    obtain ⟨fault, rfl⟩ := hx.refused rfl
    exact .settings fault
  | escaping =>
    obtain ⟨fault, rfl⟩ := hx.escaping rfl
    exact .ordinary fault

/-- A reading with a result was judged to be usable. -/
theorem of_ok {a : α} (h : v.Judges (.ok a) P) : v = .usable ∧ P a := by
  cases v with
  | usable =>
    obtain ⟨b, hb, hP⟩ := h.usable rfl
    cases hb
    exact ⟨rfl, hP⟩
  | refused =>
    obtain ⟨fault, hfault⟩ := h.refused rfl
    cases hfault
  | escaping =>
    obtain ⟨fault, hfault⟩ := h.escaping rfl
    cases hfault

end Judges
end Verdict

/-! ## §2 Single settings -/

/-- A path must be a text. -/
def pathVerdict : Option Value → Verdict
  | none => .usable
  | some (.text _) => .usable
  | some _ => .escaping

/-- A value that is made a text must be one that can be written. -/
def textVerdict (v : Value) : Verdict := if v.isWritable then .usable else .escaping

/-- A browser must be a known one. -/
def browserVerdict : Option Value → Verdict
  | none => .usable
  | some v =>
    (textVerdict v).andThen (if supportedBrowsers.contains (Text.lower v.plain) then .usable else .refused)

/-- A time must be a whole number from zero on. What is infinite, and what is refused but cannot be written
into the message, fails in another way. -/
def timeVerdict : Option Value → Verdict
  | none => .usable
  | some v =>
    match wholeNumber v with
    | .error .infinite => .escaping
    | .error .unreadable => if v.isWritable then .refused else .escaping
    | .ok n =>
      if n < 0 then if (Value.int n).isWritable then .refused else .escaping
      else .usable

/-- The mark of a comment must not be blank. -/
def markerVerdict : Option Value → Verdict
  | none => .usable
  | some v => (textVerdict v).andThen (if Text.trim v.plain == "" then .refused else .usable)

/-- Secrets must be entries, unless they count as nothing; all of them are written as texts. -/
def secretsVerdict : Option Value → Verdict
  | none => .usable
  | some v =>
    if !v.truthy then .usable
    else match v with
      | .dict entries =>
        if entries.all (fun e => e.1.isWritable && e.2.isWritable) then .usable else .escaping
      | _ => .refused

open Verdict (Judges)

theorem shownPlain_judged (v : Value) : (textVerdict v).Judges (shownPlain v) (· = v.plain) := by
  unfold textVerdict shownPlain
  split
  · exact .ok rfl
  · exact .ordinary _

theorem badSetting_judged {α : Type} {P : α → Prop} (shown : Value) (fault : SettingsFault) :
    (if shown.isWritable then Verdict.refused else .escaping).Judges (badSetting shown fault) P := by
  unfold badSetting
  split
  · exact .settings fault
  · exact .ordinary _

theorem pathSetting_judged (base : File.Path) (found : Option Value) (usual : String) :
    (pathVerdict found).Judges (pathSetting base found usual) (fun _ => True) := by
  unfold pathVerdict pathSetting
  split
  · exact .ok trivial
  · exact .ok trivial
  · rename_i v hv
    cases v with
    | text s => exact absurd rfl (hv s)
    | _ => exact .ordinary _

theorem browserSetting_judged (found : Option Value) {usual : String} (husual : usual ∈ supportedBrowsers) :
    (browserVerdict found).Judges (browserSetting found usual) (· ∈ supportedBrowsers) := by
  cases found with
  | none => exact .ok husual
  | some v =>
    refine (shownPlain_judged v).bind fun name hname => ?_
    subst hname
    dsimp only
    split
    · rename_i hknown
      exact .ok (List.contains_iff_mem.1 hknown)
    · exact .settings _

theorem timeSetting_judged (key : String) (found : Option Value) (usual : Int) :
    (timeVerdict found).Judges (timeSetting key found usual) (fun _ => True) := by
  cases found with
  | none => exact .ok trivial
  | some v =>
    simp only [timeVerdict, timeSetting]
    cases wholeNumber v with
    | error fault =>
      cases fault with
      | infinite => exact .ordinary _
      | unreadable => exact badSetting_judged v _
    | ok n =>
      by_cases hn : n < 0
      · simp only [if_pos hn]
        exact badSetting_judged (.int n) (.negative key n)
      · simp only [if_neg hn]
        exact .ok trivial

theorem markerSetting_judged (found : Option Value) (usual : String) :
    (markerVerdict found).Judges (markerSetting found usual) (fun _ => True) := by
  cases found with
  | none => exact .ok trivial
  | some v =>
    refine (shownPlain_judged v).bind fun marker hmarker => ?_
    subst hmarker
    dsimp only
    split
    · exact .settings _
    · exact .ok trivial

/-- Entries as secrets, added one after the other to some that are there. -/
def addSecrets (acc : List (String × String)) (entries : List (Value × Value)) : List (String × String) :=
  entries.foldl (fun acc e => insertSecret e.1.plain e.2.plain acc) acc

/-- The secrets that a value describes. -/
def secretsIn : Option Value → List (String × String)
  | some (.dict entries) => addSecrets [] entries
  | _ => []

theorem addSecrets_judged (entries : List (Value × Value)) (acc : List (String × String)) :
    (if entries.all (fun e => e.1.isWritable && e.2.isWritable) then Verdict.usable
        else .escaping).Judges
      (entries.foldlM (fun acc e => do
        let name ← shownPlain e.1
        let value ← shownPlain e.2
        .ok (insertSecret name value acc)) acc) (· = addSecrets acc entries) := by
  induction entries generalizing acc with
  | nil => exact .ok rfl
  | cons e rest ih =>
    rw [List.all_cons, List.foldlM_cons]
    unfold shownPlain
    cases e.1.isWritable with
    | false => exact .ordinary _
    | true => cases e.2.isWritable with
      | false => exact .ordinary _
      | true => exact ih _

theorem secretsSetting_judged (found : Option Value) :
    (secretsVerdict found).Judges (secretsSetting found) (· = secretsIn found) := by
  cases found with
  | none => exact .ok rfl
  | some v =>
    simp only [secretsVerdict, secretsSetting]
    cases htruthy : v.truthy with
    | false =>
      refine .ok ?_
      cases v with
      | dict entries =>
        have hempty : entries = [] := by simpa [Value.truthy] using htruthy
        rw [hempty]
        rfl
      | _ => rfl
    | true =>
      cases v with
      | dict entries => exact addSecrets_judged entries []
      | _ => exact .settings _

/-! ## §3 The size of the window -/

/-- Two positive whole numbers. -/
def PositiveSize (size : Value × Value) : Prop :=
  ∃ width height : Int, size = (.int width, .int height) ∧ 0 < width ∧ 0 < height

/-- An entry that is missing or a positive whole number. -/
def sideFits (entries : List (Value × Value)) (name : String) : Prop :=
  ∀ v, Value.lookup (.text name) entries = some v → ∃ n : Int, v = .int n ∧ 0 < n

/-- Entries whose width and height fit, or a value of any other kind, which is passed over. -/
def viewportFits : Option Value → Prop
  | some (.dict entries) => sideFits entries "width" ∧ sideFits entries "height"
  | _ => True

theorem side_positive {entries : List (Value × Value)} {name : String} {usual : Int} (husual : 0 < usual) :
    (∃ n : Int, (Value.lookup (.text name) entries).getD (.int usual) = .int n ∧ 0 < n) ↔
      sideFits entries name := by
  unfold sideFits
  cases Value.lookup (.text name) entries with
  | none => exact ⟨fun _ => nofun, fun _ => ⟨usual, rfl, husual⟩⟩
  | some v =>
    constructor
    · intro h v' hv'
      cases hv'
      exact h
    · exact fun h => h v rfl

theorem viewportSetting_positive {found : Option Value} {width height : Int} (hwidth : 0 < width)
    (hheight : 0 < height) :
    PositiveSize (viewportSetting found (.int width, .int height)) ↔ viewportFits found := by
  have husual : PositiveSize (.int width, .int height) := ⟨width, height, rfl, hwidth, hheight⟩
  -- what is no collection of entries leaves the usual size
  cases found with
  | none => exact ⟨fun _ => trivial, fun _ => husual⟩
  | some value => cases value with
  | dict entries =>
    show PositiveSize (Option.getD _ (.int width), Option.getD _ (.int height)) ↔
      sideFits entries "width" ∧ sideFits entries "height"
    rw [← side_positive hwidth, ← side_positive hheight]
    constructor
    · rintro ⟨w, h, hsize, hw, hh⟩
      injection hsize with hwidth hheight
      exact ⟨⟨w, hwidth, hw⟩, h, hheight, hh⟩
    · rintro ⟨⟨w, hwidth, hw⟩, h, hheight, hh⟩
      exact ⟨w, h, Prod.ext hwidth hheight, hw, hh⟩
  | _ => exact ⟨fun _ => trivial, fun _ => husual⟩

/-! ## §4 All entries -/

/-- The verdicts on the settings that are checked, in the order in which they are read. -/
def verdicts (entries : List (Value × Value)) : List Verdict :=
  let at? (key : String) : Option Value := Value.lookup (.text key) entries
  [pathVerdict (at? "instructions_file"), pathVerdict (at? "artifacts_dir"),
    browserVerdict (at? "browser"), timeVerdict (at? "navigation_timeout_ms"),
    timeVerdict (at? "action_timeout_ms"), timeVerdict (at? "probe_timeout_ms"),
    timeVerdict (at? "submit_wait_ms"), timeVerdict (at? "new_page_settle_ms"),
    markerVerdict (at? "comment_marker"), secretsVerdict (at? "secrets")]

/-- The verdict on entries: that on the first value that is not used. -/
def entriesVerdict (entries : List (Value × Value)) : Verdict :=
  (verdicts entries).foldr Verdict.andThen .usable

/-- The entries of a configuration are judged by their first value that is not used. The browser is a known
one, the size of the window is taken as it stands, and the secrets as texts. -/
theorem ofEntries_judged (entries : List (Value × Value)) (projectDir : File.Path) :
    (entriesVerdict entries).Judges (Config.ofEntries entries projectDir)
      (fun config =>
        config.viewport = viewportSetting (Value.lookup (.text "viewport") entries) (.int 1280, .int 720) ∧
          config.secrets = secretsIn (Value.lookup (.text "secrets") entries) ∧
          config.browser ∈ supportedBrowsers) := by
  have husual : ({} : Settings).browser ∈ supportedBrowsers := by decide
  unfold Config.ofEntries
  exact .bind (pathSetting_judged _ _ _) fun _ _ => .bind (pathSetting_judged _ _ _) fun _ _ =>
    .bind (browserSetting_judged _ husual) fun _ hbrowser => .bind (timeSetting_judged _ _ _) fun _ _ =>
    .bind (timeSetting_judged _ _ _) fun _ _ => .bind (timeSetting_judged _ _ _) fun _ _ =>
    .bind (timeSetting_judged _ _ _) fun _ _ => .bind (timeSetting_judged _ _ _) fun _ _ =>
    .bind (markerSetting_judged _ _) fun _ _ => .bind (secretsSetting_judged _) fun _ hsecrets =>
    .ok ⟨rfl, hsecrets, hbrowser⟩

/-- A configuration with a size of two positive whole numbers, or a fault of the configuration. -/
def SoundReading (x : Except Failure Config) : Prop :=
  (∃ config, x = .ok config ∧ PositiveSize config.viewport) ∨ ∃ fault, x = .error (.settings fault)

/-- Entries are read into a configuration with a size of two positive whole numbers, or refused as a fault
of the configuration, exactly when the first value that is not used is refused, or all values are used and
the size fits. -/
theorem ofEntries_sound_iff (entries : List (Value × Value)) (projectDir : File.Path) :
    SoundReading (Config.ofEntries entries projectDir) ↔
      entriesVerdict entries = .refused ∨
        entriesVerdict entries = .usable ∧ viewportFits (Value.lookup (.text "viewport") entries) := by
  have hjudged := ofEntries_judged entries projectDir
  unfold SoundReading
  cases hverdict : entriesVerdict entries with
  | usable =>
    obtain ⟨config, hconfig, hviewport, -⟩ := hjudged.usable hverdict
    rw [hconfig, ← viewportSetting_positive (by decide : (0 : Int) < 1280) (by decide : (0 : Int) < 720),
      ← hviewport]
    constructor
    · rintro (⟨_, h, hpositive⟩ | ⟨_, h⟩)
      · cases h
        exact .inr ⟨rfl, hpositive⟩
      · cases h
    · rintro (h | ⟨-, hpositive⟩)
      · cases h
      · exact .inl ⟨config, rfl, hpositive⟩
  | refused => exact ⟨fun _ => .inl rfl, fun _ => .inr (hjudged.refused hverdict)⟩
  | escaping =>
    obtain ⟨fault, hfault⟩ := hjudged.escaping hverdict
    rw [hfault]
    constructor
    · rintro (⟨_, h, _⟩ | ⟨_, h⟩)
      · cases h
      · cases h
    · rintro (h | ⟨h, -⟩)
      · cases h
      · cases h

/-- A width that is a text lets a bad size through, and an infinite time fails as no fault of the
configuration does. -/
theorem ofEntries_unsound_size :
    ¬ SoundReading (Config.ofEntries [(.text "viewport", .record [("width", .text "wide")])]
        (.ofString ".pagescript")) ∧
      ¬ SoundReading (Config.ofEntries [(.text "navigation_timeout_ms", .float (.infinite false))]
        (.ofString ".pagescript")) := by
  constructor
  · obtain ⟨config, hconfig, hviewport, -⟩ := (ofEntries_judged
      [(.text "viewport", .record [("width", .text "wide")])] (.ofString ".pagescript")).usable (by decide)
    rw [hconfig]
    rintro (⟨_, h, width, height, hsize, -⟩ | ⟨_, h⟩)
    · cases h
      cases hviewport.symm.trans hsize
    · cases h
  · obtain ⟨fault, hfault⟩ := (ofEntries_judged
      [(.text "navigation_timeout_ms", .float (.infinite false))] (.ofString ".pagescript")).escaping
        (by decide)
    rw [hfault]
    rintro (⟨_, h, -⟩ | ⟨_, h⟩)
    · cases h
    · cases h

/-! ## §5 Projects -/

/-- The entries of a document are read, or none if it says nothing. -/
theorem ofDocument_eq_ok {path : File.Path} {d : Yaml.Document} {config : Config}
    (h : Config.ofDocument path d = .ok config) :
    (d.isEmpty = true ∧ Config.ofEntries [] path.parent = .ok config) ∨
      ∃ entries, d.outermost.bind d.entriesAt = some entries ∧
        Config.ofEntries (Config.settingEntries d entries) path.parent = .ok config := by
  unfold Config.ofDocument at h
  split at h
  · rename_i hempty
    exact .inl ⟨hempty, h⟩
  · split at h
    · rename_i entries hentries
      exact .inr ⟨entries, hentries, h⟩
    · cases h

theorem load_eq_ok {disk : File.Disk} {path : File.Path} {config : Config}
    (h : Config.load disk path = .ok config) :
    disk.exists? path = .ok true ∧ ∃ d, Config.readDocument disk path = .ok (.ok d) ∧
      Config.ofDocument path d = .ok config := by
  unfold Config.load at h
  split at h
  · cases h
  · cases h
  · rename_i hexists
    cases hread : Config.readDocument disk path with
    | error e =>
      rw [hread] at h
      cases h
    | ok answer =>
      rw [hread] at h
      cases answer with
      | error fault => cases fault <;> cases h
      | ok d => exact ⟨hexists, d, rfl, h⟩

end BrowserScript
