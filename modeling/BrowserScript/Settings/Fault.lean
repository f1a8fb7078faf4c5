/-
BrowserScript.Settings.Fault — what can be wrong with a configuration.

* `supportedBrowsers` names the browsers that can be asked for.
* `SettingsFault` lists the faults of a configuration and of references to secrets, and
  `SettingsFault.message` words them.
-/
import BrowserScript.File.Path
import BrowserScript.Value.Display

namespace BrowserScript

/-- The browsers that can be launched. -/
def supportedBrowsers : List String := ["chromium", "firefox", "webkit"]

/-- A fault of a configuration, or of a reference to a secret. -/
inductive SettingsFault where
  | noFile (path : File.Path)
  | invalidYaml (path : File.Path) (reason : String)
  | notMapping (path : File.Path)
  | unsupportedBrowser (browser : String)
  | notInteger (key : String) (found : Value)
  | negative (key : String) (found : Int)
  | emptyMarker
  | secretsNotMapping
  | emptySecretName
  | secretNotSet (name reference : String)
  deriving Repr

namespace SettingsFault

/-- The wording of a fault. -/
def message : SettingsFault → String
  | .noFile path => "Config file not found: " ++ path.toString ++ "\n\nTo fix: pagescript init"
  | .invalidYaml path reason => "Invalid YAML in " ++ path.toString ++ ": " ++ reason
  | .notMapping path => "Config file must be a YAML mapping: " ++ path.toString
  | .unsupportedBrowser browser =>
    "Unsupported browser: " ++ browser ++ "\n\nExpected one of: " ++
      Text.joined ", " supportedBrowsers
  | .notInteger key found => key ++ " must be an integer, got: " ++ found.quoted
  | .negative key found => key ++ " must not be negative, got: " ++ Number.intText found
  | .emptyMarker => "comment_marker must not be empty"
  | .secretsNotMapping => "secrets must be a mapping of NAME: value"
  | .emptySecretName => "Empty secret reference: 'env:' must be followed by a variable name"
  | .secretNotSet name reference =>
    name ++ " not set\n\nThe instruction references the secret '" ++ reference ++
      "'.\n\nTo fix:\n  export " ++ name ++ "=...\n  or add '" ++ name ++
      "' under 'secrets:' in .pagescript/config.yaml"

end SettingsFault
end BrowserScript
