/-
BrowserScript.Proofs.Settings.KeyByKey — every setting has a key of its own.

The settings of a configuration are read one after the other, each from what stands under its own key. So a
configuration is accepted exactly when each of its settings is (`ofEntries_eq_ok_iff`), and everything that is
known of a configuration comes from that equivalence: what the reading of a setting guarantees holds of the
configuration, and what stands under other keys does not matter.

* `Setting` lists the settings with their keys. `Setting.read` reads one from what stands under its key,
  `Setting.value` is the one that a configuration has.
* `Config.WellFormed`: times from zero on, a known browser, a mark that is neither empty nor has blanks around
  it, and secrets that are texts under different names.

Main statement: `ofEntries_by_key`.
-/
import BrowserScript.Proofs.Settings.ConfigSecrets
import BrowserScript.Proofs.Text.Words

namespace BrowserScript

/-! ## §1 Settings and their keys -/

/-- The settings that entries can make. -/
inductive Setting where
  | instructionsFile
  | artifactsDir
  | browser
  | headless
  | viewport
  | navigationTimeout
  | actionTimeout
  | probeTimeout
  | submitWait
  | settle
  | commentMarker
  | secrets
  deriving Repr, DecidableEq

namespace Setting

/-- The key under which a setting stands. -/
def key : Setting → String
  | .instructionsFile => "instructions_file"
  | .artifactsDir => "artifacts_dir"
  | .browser => "browser"
  | .headless => "headless"
  | .viewport => "viewport"
  | .navigationTimeout => "navigation_timeout_ms"
  | .actionTimeout => "action_timeout_ms"
  | .probeTimeout => "probe_timeout_ms"
  | .submitWait => "submit_wait_ms"
  | .settle => "new_page_settle_ms"
  | .commentMarker => "comment_marker"
  | .secrets => "secrets"

/-- What a setting is a choice of. -/
abbrev Choice : Setting → Type
  | .instructionsFile | .artifactsDir => File.Path
  | .browser | .commentMarker => String
  | .headless => Bool
  | .viewport => Value × Value
  | .navigationTimeout | .actionTimeout | .probeTimeout | .submitWait | .settle => Int
  | .secrets => List (String × String)

/-- The setting that a configuration has. -/
def value (config : Config) : (s : Setting) → s.Choice
  | .instructionsFile => config.instructionsFile
  | .artifactsDir => config.artifactsDir
  | .browser => config.browser
  | .headless => config.headless
  | .viewport => config.viewport
  | .navigationTimeout => config.navigationTimeout
  | .actionTimeout => config.actionTimeout
  | .probeTimeout => config.probeTimeout
  | .submitWait => config.submitWait
  | .settle => config.settle
  | .commentMarker => config.commentMarker
  | .secrets => config.secrets

/-- A setting as it is read from what stands under its key. -/
def read (base : File.Path) (found : Option Value) : (s : Setting) → Except Failure s.Choice
  | .instructionsFile => pathSetting base found "instructions.txt"
  | .artifactsDir => pathSetting base found "artifacts"
  | .browser => browserSetting found ({} : Settings).browser
  | .headless => .ok ((found.map Value.truthy).getD ({} : Settings).headless)
  | .viewport => .ok (viewportSetting found ({} : Settings).viewport)
  | .navigationTimeout => timeSetting Setting.navigationTimeout.key found ({} : Settings).navigationTimeout
  | .actionTimeout => timeSetting Setting.actionTimeout.key found ({} : Settings).actionTimeout
  | .probeTimeout => timeSetting Setting.probeTimeout.key found ({} : Settings).probeTimeout
  | .submitWait => timeSetting Setting.submitWait.key found ({} : Settings).submitWait
  | .settle => timeSetting Setting.settle.key found ({} : Settings).settle
  | .commentMarker => markerSetting found ({} : Settings).commentMarker
  | .secrets => secretsSetting found

end Setting

theorem bind_eq_ok {α β : Type} {x : Except Failure α} {f : α → Except Failure β} {b : β} :
    (x >>= f) = .ok b ↔ ∃ a, x = .ok a ∧ f a = .ok b := by
  cases x with
  | ok a => exact ⟨fun h => ⟨a, rfl, h⟩, fun ⟨_, ha, h⟩ => by cases ha; exact h⟩
  | error e => exact ⟨nofun, fun ⟨_, ha, _⟩ => by cases ha⟩

/-- A configuration is read from entries exactly when each of its settings is read from what stands under
its key. -/
theorem ofEntries_eq_ok_iff {entries : List (Value × Value)} {projectDir : File.Path} {config : Config} :
    Config.ofEntries entries projectDir = .ok config ↔
      config.projectDir = projectDir ∧
        ∀ s : Setting, s.read projectDir.parent (Value.lookup (.text s.key) entries) = .ok (s.value config) := by
  constructor
  · intro h
    simp only [Config.ofEntries, bind_eq_ok] at h
    obtain ⟨instructionsFile, hinstructions, artifactsDir, hartifacts, browser, hbrowser, navigation,
      hnavigation, action, haction, probe, hprobe, submit, hsubmit, settle, hsettle, marker, hmarker, secrets,
      hsecrets, hconfig⟩ := h
    cases hconfig
    refine ⟨rfl, fun s => ?_⟩
    cases s with
    | instructionsFile => exact hinstructions
    | artifactsDir => exact hartifacts
    | browser => exact hbrowser
    | headless => rfl
    | viewport => rfl
    | navigationTimeout => exact hnavigation
    | actionTimeout => exact haction
    | probeTimeout => exact hprobe
    | submitWait => exact hsubmit
    | settle => exact hsettle
    | commentMarker => exact hmarker
    | secrets => exact hsecrets
  · rintro ⟨rfl, hread⟩
    simp only [Config.ofEntries, bind_eq_ok]
    refine ⟨_, hread .instructionsFile, _, hread .artifactsDir, _, hread .browser, _,
      hread .navigationTimeout, _, hread .actionTimeout, _, hread .probeTimeout, _, hread .submitWait, _,
      hread .settle, _, hread .commentMarker, _, hread .secrets, ?_⟩
    -- size and visibility of the window are read without a failure
    have hheadless := Except.ok.inj (hread .headless)
    have hviewport := Except.ok.inj (hread .viewport)
    simp only [Setting.key, Setting.value] at hheadless hviewport ⊢
    rw [hheadless, hviewport]
    rfl

/-! ## §2 What the reading of a setting guarantees -/

theorem badSetting_ne_ok {α : Type} (shown : Value) (fault : SettingsFault) (a : α) :
    badSetting shown fault ≠ .ok a := by
  unfold badSetting badSettings
  split <;> nofun

theorem timeSetting_nonneg {key : String} {found : Option Value} {usual time : Int} (husual : 0 ≤ usual)
    (h : timeSetting key found usual = .ok time) : 0 ≤ time := by
  cases found with
  | none =>
    cases h
    exact husual
  | some v =>
    simp only [timeSetting] at h
    split at h
    · cases h
    · exact absurd h (badSetting_ne_ok _ _ _)
    · split at h
      · exact absurd h (badSetting_ne_ok _ _ _)
      · cases h
        omega

theorem markerSetting_proper {found : Option Value} {usual marker : String} (husual : usual ≠ "")
    (htrimmed : Text.trim usual = usual) (h : markerSetting found usual = .ok marker) :
    marker ≠ "" ∧ Text.trim marker = marker := by
  cases found with
  | none =>
    cases h
    exact ⟨husual, htrimmed⟩
  | some v =>
    obtain ⟨shown, -, hmarker⟩ := bind_eq_ok.mp h
    dsimp only at hmarker
    split at hmarker
    · cases hmarker
    · rename_i hne
      cases hmarker
      exact ⟨by simpa using hne, Text.trim_trim _⟩

theorem mem_insertSecret {name value other : String} {secrets : List (String × String)}
    (h : other ∈ (insertSecret name value secrets).map Prod.fst) :
    other = name ∨ other ∈ secrets.map Prod.fst := by
  induction secrets with
  | nil => simpa [insertSecret] using h
  | cons e rest ih =>
    simp only [insertSecret] at h
    split at h
    · exact .inr h
    · rcases List.mem_cons.1 h with hhead | htail
      · exact .inr (by simp [hhead])
      · exact (ih htail).imp_right (List.mem_cons_of_mem _)

/-- A name that is there keeps its place, so names stay different. -/
theorem nodup_insertSecret {name value : String} {secrets : List (String × String)}
    (h : (secrets.map Prod.fst).Nodup) : ((insertSecret name value secrets).map Prod.fst).Nodup := by
  induction secrets with
  | nil => simp [insertSecret]
  | cons e rest ih =>
    obtain ⟨hfirst, hrest⟩ := List.nodup_cons.1 h
    simp only [insertSecret]
    split
    · exact h
    · rename_i hne
      refine List.nodup_cons.2 ⟨fun hmem => ?_, ih hrest⟩
      rcases mem_insertSecret hmem with hname | hlater
      · exact hne (by simpa using hname)
      · exact hfirst hlater

theorem nodup_addSecrets (entries : List (Value × Value)) {acc : List (String × String)}
    (h : (acc.map Prod.fst).Nodup) : ((addSecrets acc entries).map Prod.fst).Nodup := by
  induction entries generalizing acc with
  | nil => exact h
  | cons e rest ih => exact ih (nodup_insertSecret h)

theorem secretsSetting_nodup {found : Option Value} {secrets : List (String × String)}
    (h : secretsSetting found = .ok secrets) : (secrets.map Prod.fst).Nodup := by
  have hjudged := secretsSetting_judged found
  rw [h] at hjudged
  rw [hjudged.of_ok.2]
  unfold secretsIn
  split
  · exact nodup_addSecrets _ List.nodup_nil
  · exact List.nodup_nil

/-! ## §3 Configurations -/

/-- Times from zero on, a known browser, a mark of comments that is not empty and has no blanks around it, and
secrets under different names. -/
structure Config.WellFormed (config : Config) : Prop where
  navigationTimeout : 0 ≤ config.navigationTimeout
  actionTimeout : 0 ≤ config.actionTimeout
  probeTimeout : 0 ≤ config.probeTimeout
  submitWait : 0 ≤ config.submitWait
  settle : 0 ≤ config.settle
  browser : config.browser ∈ supportedBrowsers
  marker_ne : config.commentMarker ≠ ""
  marker_trimmed : Text.trim config.commentMarker = config.commentMarker
  secrets : (config.secrets.map Prod.fst).Nodup

theorem wellFormed_of_ofEntries {entries : List (Value × Value)} {projectDir : File.Path} {config : Config}
    (h : Config.ofEntries entries projectDir = .ok config) : config.WellFormed := by
  obtain ⟨-, hread⟩ := ofEntries_eq_ok_iff.mp h
  have husual : ({} : Settings).browser ∈ supportedBrowsers := by decide
  have hbrowser := browserSetting_judged (Value.lookup (.text Setting.browser.key) entries) husual
  rw [show browserSetting _ _ = .ok config.browser from hread .browser] at hbrowser
  have hmarker := markerSetting_proper (by decide) (by decide) (hread .commentMarker)
  exact
    { navigationTimeout := timeSetting_nonneg (by decide) (hread .navigationTimeout)
      actionTimeout := timeSetting_nonneg (by decide) (hread .actionTimeout)
      probeTimeout := timeSetting_nonneg (by decide) (hread .probeTimeout)
      submitWait := timeSetting_nonneg (by decide) (hread .submitWait)
      settle := timeSetting_nonneg (by decide) (hread .settle)
      browser := hbrowser.of_ok.2
      marker_ne := hmarker.1
      marker_trimmed := hmarker.2
      secrets := secretsSetting_nodup (hread .secrets) }

/-- A configuration that is read from entries is well-formed, and each of its settings depends on its own key
only: any other entries that are accepted for the same project and agree on that key, or lack it as well, make
the same setting, whatever stands under all other keys. -/
theorem ofEntries_by_key {entries : List (Value × Value)} {projectDir : File.Path} {config : Config}
    (h : Config.ofEntries entries projectDir = .ok config) :
    config.WellFormed ∧
      ∀ (other : List (Value × Value)) (config' : Config),
        Config.ofEntries other projectDir = .ok config' → ∀ s : Setting,
          Value.lookup (.text s.key) entries = Value.lookup (.text s.key) other →
            s.value config = s.value config' := by
  refine ⟨wellFormed_of_ofEntries h, fun other config' h' s hagree => ?_⟩
  have hread := (ofEntries_eq_ok_iff.mp h).2 s
  have hread' := (ofEntries_eq_ok_iff.mp h').2 s
  rw [hagree, hread'] at hread
  exact (Except.ok.inj hread).symm

/-- Entries of odd kinds. -/
def oddEntries : List (Value × Value) :=
  [(.text "browser", .text "FireFox"), (.text "probe_timeout_ms", .text " 1_0 "),
    (.text "comment_marker", .int 7), (.text "viewport", .null),
    (.text "secrets", .record [("PIN", .bool true)])]

/-- Other entries with the same mark of comments. -/
def quietEntries : List (Value × Value) :=
  [(.int 3, .text "browser"), (.text "comment_marker", .int 7), (.text "submit_wait_ms", .bool true)]

/-- Two configurations with little in common but their mark of comments. -/
theorem ofEntries_by_key_marker :
    ∃ config config' : Config, Config.ofEntries oddEntries (.ofString ".pagescript") = .ok config ∧
      Config.ofEntries quietEntries (.ofString ".pagescript") = .ok config' ∧ config.WellFormed ∧
      config.commentMarker = config'.commentMarker := by
  obtain ⟨config, hconfig, -⟩ := (ofEntries_judged oddEntries (.ofString ".pagescript")).usable (by decide +kernel)
  obtain ⟨config', hconfig', -⟩ :=
    (ofEntries_judged quietEntries (.ofString ".pagescript")).usable (by decide +kernel)
  obtain ⟨hformed, hdepends⟩ := ofEntries_by_key hconfig
  exact ⟨config, config', hconfig, hconfig', hformed, hdepends quietEntries config' hconfig' .commentMarker rfl⟩

end BrowserScript
