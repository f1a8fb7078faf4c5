/-
BrowserScript.Settings.Loading — the configuration of a project.

* `wholeNumber` converts a value to a whole number, the way the time settings are read.
* `shownPlain` and `badSetting` show values in settings and messages.
* `Config.ofEntries` reads the entries of a configuration. Paths in it are relative to the directory
  that holds the project directory.
* `Config.ofDocument` reads a configuration document, `Config.load` a configuration file.
* `projectDir` finds the project directory, `Config.ofProject` reads its configuration if it has one.
-/
import BrowserScript.Failure
import BrowserScript.Settings.Basic
import BrowserScript.Yaml.Document

namespace BrowserScript

/-! ## Values -/

/-- Why a value is no whole number. -/
inductive WholeFault where
  | unreadable
  | infinite
  deriving Repr, DecidableEq

/-- A value as a whole number: texts are read, fractions are cut off. -/
def wholeNumber : Value → Except WholeFault Int
  | .bool b => .ok (if b then 1 else 0)
  | .int n => .ok n
  | .float (.infinite _) => .error .infinite
  | .float x => match x.trunc? with
    | some n => .ok n
    | none => .error .unreadable
  | .text s => ofText (Number.readInt? s)
  | .bytes data =>
    if data.all (fun b => b.toNat < 0x80) then
      ofText (Number.readWhole? 10 (data.map (fun b => Char.ofNat b.toNat)))
    else .error .unreadable
  | _ => .error .unreadable
where
  /-- A number that was read, or not. -/
  ofText : Option Int → Except WholeFault Int
    | some n => .ok n
    | none => .error .unreadable

/-- A fault of a configuration as a failure. -/
def badSettings {α : Type} (fault : SettingsFault) : Except Failure α := .error (.settings fault)

/-- The text of a value, unless a number in it is too long. -/
def shownPlain (v : Value) : Except Failure String :=
  if v.isWritable then .ok v.plain else .error (.ordinary .unwritableNumber)

/-- The failure of a setting, unless its wording shows a value with a number that is too long. -/
def badSetting {α : Type} (shown : Value) (fault : SettingsFault) : Except Failure α :=
  if shown.isWritable then badSettings fault else .error (.ordinary .unwritableNumber)

/-! ## Single settings -/

/-- A path below a directory, or the usual name there. -/
def pathSetting (base : File.Path) (found : Option Value) (usual : String) :
    Except Failure File.Path :=
  match found with
  | none => .ok (base.join (File.Path.ofString usual))
  | some (.text s) => .ok (base.join (File.Path.ofString s))
  | some v => .error (.ordinary (.notPath v.typeWord))

/-- The browser, in lower case. -/
def browserSetting (found : Option Value) (usual : String) : Except Failure String :=
  match found with
  | none => .ok usual
  | some v => do
    let name := Text.lower (← shownPlain v)
    if supportedBrowsers.contains name then .ok name else badSettings (.unsupportedBrowser name)

/-- The size of the window. -/
def viewportSetting (found : Option Value) (usual : Value × Value) : Value × Value :=
  match found with
  | some (.dict entries) =>
    ((Value.lookup (.text "width") entries).getD usual.1,
      (Value.lookup (.text "height") entries).getD usual.2)
  | _ => usual

/-- A time in milliseconds. -/
def timeSetting (key : String) (found : Option Value) (usual : Int) : Except Failure Int :=
  match found with
  | none => .ok usual
  | some v =>
    match wholeNumber v with
    | .error .infinite => .error (.ordinary .infinityToWhole)
    | .error .unreadable => badSetting v (.notInteger key v)
    | .ok n => if n < 0 then badSetting (.int n) (.negative key n) else .ok n

/-- The mark of a comment, trimmed. -/
def markerSetting (found : Option Value) (usual : String) : Except Failure String :=
  match found with
  | none => .ok usual
  | some v => do
    let marker := Text.trim (← shownPlain v)
    if marker == "" then badSettings .emptyMarker else .ok marker

/-- A name replaced or added at the end. -/
def insertSecret (name value : String) : List (String × String) → List (String × String)
  | [] => [(name, value)]
  | (n, v) :: rest =>
    if n == name then (n, value) :: rest else (n, v) :: insertSecret name value rest

/-- The named secrets, both parts as texts. -/
def secretsSetting (found : Option Value) : Except Failure (List (String × String)) :=
  match found with
  | none => .ok []
  | some v =>
    if !v.truthy then .ok []
    else match v with
      | .dict entries =>
        entries.foldlM (fun acc e => do
          let name ← shownPlain e.1
          let value ← shownPlain e.2
          .ok (insertSecret name value acc)) []
      | _ => badSettings .secretsNotMapping

namespace Config

/-- The configuration that the entries of a document describe, for a project directory. -/
def ofEntries (entries : List (Value × Value)) (projectDir : File.Path) : Except Failure Config := do
  let usual : Settings := {}
  let at? (key : String) : Option Value := Value.lookup (.text key) entries
  let base := projectDir.parent
  let instructionsFile ← pathSetting base (at? "instructions_file") "instructions.txt"
  let artifactsDir ← pathSetting base (at? "artifacts_dir") "artifacts"
  let browser ← browserSetting (at? "browser") usual.browser
  let headless := ((at? "headless").map Value.truthy).getD usual.headless
  let viewport := viewportSetting (at? "viewport") usual.viewport
  let time (key : String) (usual : Int) : Except Failure Int := timeSetting key (at? key) usual
  let navigationTimeout ← time "navigation_timeout_ms" usual.navigationTimeout
  let actionTimeout ← time "action_timeout_ms" usual.actionTimeout
  let probeTimeout ← time "probe_timeout_ms" usual.probeTimeout
  let submitWait ← time "submit_wait_ms" usual.submitWait
  let settle ← time "new_page_settle_ms" usual.settle
  let commentMarker ← markerSetting (at? "comment_marker") usual.commentMarker
  let secrets ← secretsSetting (at? "secrets")
  return {
    projectDir, instructionsFile, artifactsDir, browser, headless, viewport, navigationTimeout,
    actionTimeout, probeTimeout, submitWait, settle, commentMarker, secrets }

/-- The settings whose entries are looked at one by one. -/
def openedSettings : List String := ["viewport", "secrets"]

/-- The settings of which only the kind or the text counts. -/
def outlinedSettings : List String := ["instructions_file", "artifacts_dir", "headless"]

/-- The settings that messages show. -/
def shownSettings : List String :=
  ["browser", "navigation_timeout_ms", "action_timeout_ms", "probe_timeout_ms", "submit_wait_ms",
    "new_page_settle_ms", "comment_marker"]

/-- The settings among the entries of a document. -/
def settingEntries (d : Yaml.Document) (entries : List (Value × Nat)) : List (Value × Value) :=
  entries.filterMap (fun (key, place) =>
    match key with
    | .text name =>
      if openedSettings.contains name then some (key, d.opened place)
      else if outlinedSettings.contains name then some (key, d.outline place)
      else if shownSettings.contains name then some (key, d.valueAt place)
      else none
    | _ => none)

/-- The configuration in a document. A document that says nothing describes the usual settings. -/
def ofDocument (path : File.Path) (d : Yaml.Document) : Except Failure Config :=
  if d.isEmpty then ofEntries [] path.parent
  else match d.outermost.bind d.entriesAt with
    | some entries => ofEntries (settingEntries d entries) path.parent
    | none => badSettings (.notMapping path)

/-- A document as it stands in a file. -/
def readDocument (disk : File.Disk) (path : File.Path) :
    Except Failure (Except Yaml.YamlFault Yaml.Document) :=
  match disk.read path with
  | .error fault => .error (.ordinary (.ofRead fault))
  | .ok text => .ok (Yaml.Document.read text)

/-- Reads a configuration file. -/
def load (disk : File.Disk) (path : File.Path) : Except Failure Config := do
  match disk.exists? path with
  | .error fault => .error (.ordinary (.os fault))
  | .ok false => badSettings (.noFile path)
  | .ok true =>
    match ← readDocument disk path with
    | .error (.invalid reason) => badSettings (.invalidYaml path reason)
    | .error (.unbuildable kind reason) => .error (.ordinary (.badDocument kind reason))
    | .ok document => ofDocument path document

end Config

/-! ## Projects -/

/-- The name of project directories. -/
def projectName : String := ".pagescript"

/-- The project directory: the one asked for, or the nearest one in the current directory or above it,
or the one that the current directory would hold. -/
def projectDir (disk : File.Disk) (asked : Option File.Path) : File.Path :=
  match asked with
  | some dir =>
    let dir := (disk.absolute dir).lexical
    if dir.name == projectName then dir else dir.child projectName
  | none => (disk.search projectName).getD ⟨"/", disk.current ++ [projectName]⟩

/-- The configuration of a project; the usual one when it has no file. -/
def Config.ofProject (disk : File.Disk) (dir : File.Path) : Except Failure Config :=
  let path := dir.child "config.yaml"
  match disk.isFile path with
  | .error fault => .error (.ordinary (.os fault))
  | .ok true => Config.load disk path
  | .ok false => Config.ofEntries [] dir

end BrowserScript
