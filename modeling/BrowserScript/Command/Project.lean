/-
BrowserScript.Command.Project — the project that a command works in.

* `loadConfig` reads the configuration, `instructionLines` the lines of the instruction file. Faults of
  the configuration end the program with exit code 2.
* `makeProject` makes one: its configuration and a sample of instructions (`makeFiles`), and an ignore file
  that keeps secrets and artifacts out of version control (`updateIgnoreFile`). It never changes an ignore
  file that has all its entries.
-/
import BrowserScript.Command.Terminal
import BrowserScript.Settings.Loading

namespace BrowserScript.Command

open Screen (Block)
open Screen.Markup (escape)

/-! ## Reading a project -/

/-- The configuration of a project. -/
def loadConfig (dir : Option File.Path) : CommandM Config := do
  let d ← disk
  match Config.ofProject d (projectDir d dir) with
  | .ok config => return config
  | .error (.settings fault) => do
    warnError "Config Error" (escape fault.message)
    exit 2
  | .error failure => throw (.failed failure)

/-- The lines of a text file. -/
def instructionLines (path : File.Path) : CommandM (List String) := do
  return Text.lines (← readFile path)

/-! ## Making a project -/

/-- The configuration of a new project. -/
def sampleConfig : String :=
"# pagescript project configuration

# Instruction file and artifact output (relative to the project root)
instructions_file: instructions.txt
artifacts_dir: artifacts

# Browser: chromium, firefox or webkit
browser: chromium
headless: true
viewport:
  width: 1280
  height: 720

# Timeouts (milliseconds)
navigation_timeout_ms: 60000
action_timeout_ms: 30000
probe_timeout_ms: 300       # per candidate selector
submit_wait_ms: 10000       # navigation wait after a login/signup submit
new_page_settle_ms: 1000    # pause after actions that may open a tab

# Lines starting with this are ignored
comment_marker: \"#\"

# Secrets referenced from instructions as env:NAME.
# Environment variables and .env take priority over these values.
# secrets:
#   TEST_EMAIL: me@example.com
#   TEST_PASSWORD: change-me
"

/-- The instructions of a new project. -/
def sampleInstructions : String :=
"# pagescript instructions -- one action per line.
# Run \x60pagescript actions\x60 to see every keyword.

go to example.com
wait for h1
extract text h1
screenshot
click More information
wait 500
screenshot fullPage

# Credentials can come from the environment:
# login env:TEST_EMAIL, env:TEST_PASSWORD
"

/-- What stays out of version control. -/
def ignoreEntries : List String := [".env", "artifacts/"]

/-- The ignore entries that are no lines of a text. -/
def missingEntries (existing : String) : List String :=
  ignoreEntries.filter (fun e => !(Text.lines existing).contains e)

/-- A text without the line feeds at its end. -/
def withoutFeeds (s : String) : String :=
  String.ofList (s.toList.reverse.dropWhile (· == '\n')).reverse

/-- An ignore file with entries added. -/
def withEntries (existing : String) (entries : List String) : String :=
  (if existing == "" then "" else withoutFeeds existing ++ "\n\n") ++
    "# pagescript\n" ++ Text.joined "\n" entries ++ "\n"

/-- What an ignore file is replaced by, when it lacks an entry. -/
def ignoreUpdate (existing : String) : Option String :=
  match missingEntries existing with
  | [] => none
  | missing => some (withEntries existing missing)

/-- Adds the entries that the text of an ignore file lacks. -/
def addMissing (path : File.Path) (existing : String) : CommandM Unit :=
  match ignoreUpdate existing with
  | none => return ()
  | some text => writeFile path text

/-- Adds the missing entries to an ignore file, which is made if there is none. -/
def updateIgnoreFile (path : File.Path) : CommandM Unit := do
  let existing ← if ← fileExists path then readFile path else pure ""
  addMissing path existing

/-- Shows what was made. -/
def sayInitialized (root : File.Path) (wroteInstructions : Bool) : CommandM Unit := do
  say (.panel "[bold green]pagescript Initialized[/bold green]" [
    "[bold green]" ++ escape root.toString ++ "[/bold green]",
    "[blue].pagescript/[/blue]",
    "[cyan]config.yaml[/cyan]",
    "[cyan]instructions.txt[/cyan]" ++ (if wroteInstructions then "" else " [dim](kept)[/dim]")])
  say (.text "[dim]Next steps:[/dim]")
  say (.text "  1. Edit [cyan]instructions.txt[/cyan]")
  say (.text "  2. Run [bold]pagescript install[/bold] to set up Playwright")
  say (.text "  3. Run [bold]pagescript run[/bold]")

/-- Makes the configuration and the instructions of a project, and tells whether the instructions were written.
An existing project is replaced only by force. -/
def makeFiles (root : File.Path) (force : Bool) : CommandM Bool := do
  let project := root.child projectName
  if (← fileExists project) && !force then
    say (.panel "Already Initialized" [
      "[yellow]Directory already exists:[/yellow] " ++ escape project.toString ++
        "\n\nUse [bold]--force[/bold] to overwrite."])
    exit 2
  makeDirs project
  writeFile (project.child "config.yaml") sampleConfig
  let instructions := root.child "instructions.txt"
  let wroteInstructions := force || !(← fileExists instructions)
  if wroteInstructions then writeFile instructions sampleInstructions
  return wroteInstructions

/-- Makes a project in a directory. -/
def makeProject (dir : File.Path) (force : Bool) : CommandM Unit := do
  let root := ((← disk).absolute dir).lexical
  let wroteInstructions ← makeFiles root force
  updateIgnoreFile (root.child ".gitignore")
  sayInitialized root wroteInstructions

end BrowserScript.Command
