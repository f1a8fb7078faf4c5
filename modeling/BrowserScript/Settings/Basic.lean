/-
BrowserScript.Settings.Basic — the settings of a run.

* `Settings` holds everything that an instruction may depend on.
* `Config` adds the named secrets, which instructions reach only by reference.
-/
import BrowserScript.File.Path
import BrowserScript.Value.Basic

namespace BrowserScript

/-- The settings of a run; times are in milliseconds. -/
structure Settings where
  projectDir : File.Path := ⟨"", [".pagescript"]⟩
  instructionsFile : File.Path := ⟨"", ["instructions.txt"]⟩
  artifactsDir : File.Path := ⟨"", ["artifacts"]⟩
  browser : String := "chromium"
  headless : Bool := true
  viewport : Value × Value := (.int 1280, .int 720)
  navigationTimeout : Int := 60000
  actionTimeout : Int := 30000
  probeTimeout : Int := 300
  submitWait : Int := 10000
  settle : Int := 1000
  commentMarker : String := "#"
  deriving Repr

/-- The settings of a run and its named secrets. -/
structure Config extends Settings where
  secrets : List (String × String) := []
  deriving Repr

end BrowserScript
