/-
BrowserScript.Proofs.Command.Preparation — what a run starts with.

Before a browser is asked for, a configuration is read, the options are put over it, and the instruction file
is read. This goes in one of three ways, each with its own end:

* `Ready`: there is a configuration, and the instruction file has lines. The run goes on, and nothing has
  changed.
* `Unusable`: the configuration or an option is refused, or there is no instruction file. The run ends with
  exit code 2, after a message.
* `Unreadable`: a file cannot be read, or its text cannot be understood, in a way that is no fault of a
  configuration. This failure ends the run; nothing catches it.

`ready_or_not`: every run goes one of the three ways. `Ready.unique`: there is one thing at most that it is
ready for.
-/
import BrowserScript.Proofs.Command.Steps
import BrowserScript.Proofs.Settings.Verdicts

namespace BrowserScript.Command

open Screen.Markup (escape)

/-! ## §1 Options -/

/-- A size of the window is asked for that is none. -/
def BadViewport (o : RunOptions) : Prop := ∃ s, filled o.viewport = some s ∧ viewportOf? s = none

/-- A browser is asked for that is not known. -/
def BadBrowser (o : RunOptions) : Prop :=
  ∃ s, filled o.browser = some s ∧ Text.lower s ∉ supportedBrowsers

variable {config base : Config} {o : RunOptions} {t : Terminal}

theorem viewportOption_fails (usual : Value × Value) :
    (∃ fault, viewportOption usual (filled o.viewport) = .error fault) ↔ BadViewport o := by
  unfold BadViewport
  cases hasked : filled o.viewport with
  | none => simp [viewportOption]
  | some s => cases hsize : viewportOf? s <;> simp [viewportOption, hsize]

theorem browserOption_fails (usual : String) :
    (∃ fault, browserOption usual (filled o.browser) = .error fault) ↔ BadBrowser o := by
  unfold BadBrowser
  cases hasked : filled o.browser with
  | none => simp [browserOption]
  | some s => by_cases hknown : Text.lower s ∈ supportedBrowsers <;> simp [browserOption, hknown]

/-- Options are refused when one of the two that are checked is. -/
theorem overridden_fails (base : Config) :
    (∃ fault, overridden base o = .error fault) ↔ BadViewport o ∨ BadBrowser o := by
  rw [← viewportOption_fails base.viewport, ← browserOption_fails base.browser]
  unfold overridden
  cases viewportOption base.viewport (filled o.viewport) with
  | error fault => simp [bind, Except.bind]
  | ok viewport =>
    cases browserOption base.browser (filled o.browser) <;> simp [bind, Except.bind, pure, Except.pure]

/-- What a run starts with: a configuration with the options over it, the path of an instruction file, and its
lines. -/
structure Ready (o : RunOptions) (d : File.Disk) (config : Config) (path : File.Path) (lines : List String) :
    Prop where
  settings : ∃ base, Config.ofProject d (projectDir d o.dir) = .ok base ∧ overridden base o = .ok config
  path_eq : path = o.file.getD config.instructionsFile
  present : d.isFile path = .ok true
  text : ∃ text, d.read path = .ok text ∧ lines = Text.lines text

/-- The configuration is refused, or an option is, or there is no instruction file. -/
inductive Unusable (o : RunOptions) (d : File.Disk) : Prop
  | settings {fault : SettingsFault} (h : Config.ofProject d (projectDir d o.dir) = .error (.settings fault))
  | options {base : Config} (hbase : Config.ofProject d (projectDir d o.dir) = .ok base)
      (h : BadViewport o ∨ BadBrowser o)
  | noFile {base config : Config} (hbase : Config.ofProject d (projectDir d o.dir) = .ok base)
      (hconfig : overridden base o = .ok config) (h : d.isFile (o.file.getD config.instructionsFile) = .ok false)

/-- The configuration cannot be read, and that is no fault of it; or the instruction file cannot be reached or
read. -/
inductive Unreadable (o : RunOptions) (d : File.Disk) : Prop
  | settings {failure : Failure} (h : Config.ofProject d (projectDir d o.dir) = .error failure)
      (hfailure : ∀ fault, failure ≠ .settings fault)
  | place {base config : Config} {fault : File.OsFault}
      (hbase : Config.ofProject d (projectDir d o.dir) = .ok base) (hconfig : overridden base o = .ok config)
      (h : d.isFile (o.file.getD config.instructionsFile) = .error fault)
  | text {base config : Config} {fault : File.ReadFault}
      (hbase : Config.ofProject d (projectDir d o.dir) = .ok base) (hconfig : overridden base o = .ok config)
      (hpresent : d.isFile (o.file.getD config.instructionsFile) = .ok true)
      (h : d.read (o.file.getD config.instructionsFile) = .error fault)

namespace Ready

variable {d : File.Disk} {path path' : File.Path} {lines lines' : List String} {config' : Config}

theorem unique (h : Ready o d config path lines) (h' : Ready o d config' path' lines') :
    config = config' ∧ path = path' ∧ lines = lines' := by
  obtain ⟨⟨base, hbase, hconfig⟩, rfl, -, text, htext, rfl⟩ := h
  obtain ⟨⟨base', hbase', hconfig'⟩, rfl, -, text', htext', rfl⟩ := h'
  cases hbase.symm.trans hbase'
  cases hconfig.symm.trans hconfig'
  cases htext.symm.trans htext'
  exact ⟨rfl, rfl, rfl⟩

end Ready

/-! ## §3 The steps -/

/-- A message that shows a text, and an exit code. -/
theorem refused_run {title before after : String} (h : framesError title before after = true) (asked : String)
    (code : Nat) (α : Type) (t : Terminal) :
    ∃ t', (warnError title (before ++ escape asked ++ after) >>= fun _ => (exit code : CommandM α)).run t
      = (.error (.exit code), t') ∧ Told t t' := by
  obtain ⟨t', hwarn, htold⟩ := warnEscaped_run h asked t
  exact ⟨t', (run_bind_ok hwarn).trans rfl, htold⟩

section Steps

variable {dir : Option File.Path} {file : Option File.Path} {path : File.Path}

theorem loadConfig_ok (h : Config.ofProject t.machine.disk (projectDir t.machine.disk dir) = .ok base) :
    (loadConfig dir).run t = (.ok base, t) := by
  unfold loadConfig
  rw [run_bind_ok (disk_run t), h]
  rfl

theorem loadConfig_settings {fault : SettingsFault}
    (h : Config.ofProject t.machine.disk (projectDir t.machine.disk dir) = .error (.settings fault)) :
    ∃ t', (loadConfig dir).run t = (.error (.exit 2), t') ∧ Told t t' := by
  have hframes : framesError "Config Error" "" "" = true := by decide +kernel
  have hrefused := refused_run hframes fault.message 2 Config t
  simp only [String.append_empty, String.empty_append] at hrefused
  unfold loadConfig
  rw [run_bind_ok (disk_run t), h]
  exact hrefused

theorem loadConfig_failed {failure : Failure}
    (h : Config.ofProject t.machine.disk (projectDir t.machine.disk dir) = .error failure)
    (hfailure : ∀ fault, failure ≠ .settings fault) :
    (loadConfig dir).run t = (.error (.failed failure), t) := by
  unfold loadConfig
  rw [run_bind_ok (disk_run t), h]
  cases failure with
  | settings fault => exact absurd rfl (hfailure fault)
  | _ => rfl

theorem override_ok (h : overridden base o = .ok config) (t : Terminal) :
    (override base o).run t = (.ok config, t) := by
  unfold override
  rw [h]
  rfl

/-- The message about an option can be shown, whatever was asked for. -/
theorem optionFault_frames (fault : OptionFault) :
    framesError fault.title fault.before fault.after = true := by
  have hviewport : framesError "Config Error" "Invalid viewport format: "
      "\n\nExpected format: WIDTHxHEIGHT (e.g., 1280x720)" = true := by decide +kernel
  have hbrowser : framesError "Error" "Unsupported browser: "
      ("\n\nExpected one of: " ++ Text.joined ", " supportedBrowsers) = true := by decide +kernel
  cases fault with
  | badViewport asked => exact hviewport
  | unknownBrowser asked => exact hbrowser

theorem override_refused {fault : OptionFault} (h : overridden base o = .error fault) (t : Terminal) :
    ∃ t', (override base o).run t = (.error (.exit 2), t') ∧ Told t t' := by
  unfold override
  rw [h]
  exact refused_run (optionFault_frames fault) fault.asked 2 Config t

theorem instructionPath_ok (h : t.machine.disk.isFile (file.getD config.instructionsFile) = .ok true) :
    (instructionPath config file).run t = (.ok (file.getD config.instructionsFile), t) := by
  have hfile := isFile_run (file.getD config.instructionsFile) t
  rw [h] at hfile
  exact (run_bind_ok hfile).trans rfl

theorem instructionPath_absent (h : t.machine.disk.isFile (file.getD config.instructionsFile) = .ok false) :
    ∃ t', (instructionPath config file).run t = (.error (.exit 2), t') ∧ Told t t' := by
  have hfile := isFile_run (file.getD config.instructionsFile) t
  rw [h] at hfile
  have hframes : framesError "Not Found" "Instruction file not found: "
      "\n\nFix: create it, or run [bold]pagescript init[/bold]" = true := by decide +kernel
  unfold instructionPath
  rw [run_bind_ok hfile]
  exact refused_run hframes (file.getD config.instructionsFile).toString 2 File.Path t

theorem instructionPath_failed {fault : File.OsFault}
    (h : t.machine.disk.isFile (file.getD config.instructionsFile) = .error fault) :
    (instructionPath config file).run t = (.error (.failed (.ordinary (.os fault))), t) := by
  have hfile := isFile_run (file.getD config.instructionsFile) t
  rw [h] at hfile
  exact run_bind_error hfile

theorem instructionLines_ok {text : String} (h : t.machine.disk.read path = .ok text) :
    (instructionLines path).run t = (.ok (Text.lines text), t) := by
  have hread := readFile_run path t
  rw [h] at hread
  exact (run_bind_ok hread).trans rfl

theorem instructionLines_failed {fault : File.ReadFault} (h : t.machine.disk.read path = .error fault) :
    (instructionLines path).run t = (.error (.failed (.ordinary (.ofRead fault))), t) := by
  have hread := readFile_run path t
  rw [h] at hread
  exact run_bind_error hread

end Steps

/-! ## §4 How preparing ends -/

/-- A run that is ready has what it starts with, and nothing has changed. -/
theorem Ready.prepared_run {path : File.Path} {lines : List String}
    (h : Ready o t.machine.disk config path lines) : (prepared o).run t = (.ok (config, path, lines), t) := by
  obtain ⟨⟨base, hbase, hconfig⟩, rfl, hpresent, text, htext, rfl⟩ := h
  unfold prepared
  rw [run_bind_ok (loadConfig_ok hbase), run_bind_ok (override_ok hconfig t),
    run_bind_ok (instructionPath_ok hpresent), run_bind_ok (instructionLines_ok htext)]
  rfl

/-- What cannot be used ends a run with exit code 2, after a message. -/
theorem Unusable.prepared_run (h : Unusable o t.machine.disk) :
    ∃ t', (prepared o).run t = (.error (.exit 2), t') ∧ Told t t' := by
  unfold prepared
  cases h with
  | settings h =>
    obtain ⟨t', hrefused, htold⟩ := loadConfig_settings h
    exact ⟨t', run_bind_error hrefused, htold⟩
  | @options base hbase h =>
    obtain ⟨fault, hfault⟩ := (overridden_fails base).2 h
    obtain ⟨t', hrefused, htold⟩ := override_refused hfault t
    exact ⟨t', by rw [run_bind_ok (loadConfig_ok hbase), run_bind_error hrefused], htold⟩
  | noFile hbase hconfig h =>
    obtain ⟨t', hrefused, htold⟩ := instructionPath_absent h
    refine ⟨t', ?_, htold⟩
    rw [run_bind_ok (loadConfig_ok hbase), run_bind_ok (override_ok hconfig t), run_bind_error hrefused]

/-- What cannot be read ends a run with a failure that nothing catches. -/
theorem Unreadable.prepared_run (h : Unreadable o t.machine.disk) :
    ∃ failure, (prepared o).run t = (.error (.failed failure), t) := by
  unfold prepared
  cases h with
  | settings h hfailure => exact ⟨_, run_bind_error (loadConfig_failed h hfailure)⟩
  | @place base config fault hbase hconfig h =>
    refine ⟨.ordinary (.os fault), ?_⟩
    rw [run_bind_ok (loadConfig_ok hbase), run_bind_ok (override_ok hconfig t),
      run_bind_error (instructionPath_failed h)]
  | @text base config fault hbase hconfig hpresent h =>
    refine ⟨.ordinary (.ofRead fault), ?_⟩
    rw [run_bind_ok (loadConfig_ok hbase), run_bind_ok (override_ok hconfig t),
      run_bind_ok (instructionPath_ok hpresent), run_bind_error (instructionLines_failed h)]

end BrowserScript.Command
