/-
BrowserScript.Command.Run — running an instruction file in a browser.

Exit code 0 says that every instruction succeeded, 1 that at least one failed, 2 that the configuration
or the options cannot be used, and 3 that the browser could not be launched.

* `viewportOf?` reads the size of a window.
* `overridden` is a configuration with the options of the command put over it; `OptionFault` says what can
  be wrong with them.
* `execute` runs lines in a fresh browser.
* `prepared` finds what is run; `runLines` runs it, writes the files that were asked for and shows the
  outcomes; `run` does both.
-/
import BrowserScript.Browser.Session
import BrowserScript.Command.Invocation
import BrowserScript.Command.Project
import BrowserScript.Run.Report
import BrowserScript.Run.Runner

namespace BrowserScript.Command

open Browser
open Run (Outcome Report Runner)
open Screen.Markup (escape)

/-! ## Options -/

/-- The width and height in a text such as `1280x720`. -/
def viewportOf? (s : String) : Option (Int × Int) :=
  match Text.splitOn 'x' (Text.lowerChars s.toList) with
  | [width, height] =>
    match Number.readInt? (String.ofList width), Number.readInt? (String.ofList height) with
    | some width, some height => some (width, height)
    | _, _ => none
  | _ => none

/-- An option that cannot be used. -/
inductive OptionFault where
  | badViewport (asked : String)
  | unknownBrowser (asked : String)
  deriving Repr, DecidableEq

namespace OptionFault

/-- The title of the message about a fault. -/
def title : OptionFault → String
  | .badViewport _ => "Config Error"
  | .unknownBrowser _ => "Error"

/-- What the message says before the option that was asked for. -/
def before : OptionFault → String
  | .badViewport _ => "Invalid viewport format: "
  | .unknownBrowser _ => "Unsupported browser: "

/-- The option that was asked for. -/
def asked : OptionFault → String
  | .badViewport asked | .unknownBrowser asked => asked

/-- What the message says after the option that was asked for. -/
def after : OptionFault → String
  | .badViewport _ => "\n\nExpected format: WIDTHxHEIGHT (e.g., 1280x720)"
  | .unknownBrowser _ => "\n\nExpected one of: " ++ Text.joined ", " supportedBrowsers

/-- The markup of the message about a fault. -/
def message (fault : OptionFault) : String := fault.before ++ escape fault.asked ++ fault.after

end OptionFault

/-- The size of the window: the one that was asked for, or else the usual one. -/
def viewportOption (usual : Value × Value) : Option String → Except OptionFault (Value × Value)
  | none => .ok usual
  | some s =>
    match viewportOf? s with
    | some (width, height) => .ok (.int width, .int height)
    | none => .error (.badViewport s)

/-- The browser: the one that was asked for, or else the usual one. -/
def browserOption (usual : String) : Option String → Except OptionFault String
  | none => .ok usual
  | some s =>
    if supportedBrowsers.contains (Text.lower s) then .ok (Text.lower s)
    else .error (.unknownBrowser s)

/-- An option that counts only when it holds something. -/
def filled (s : Option String) : Option String := s.filter (· != "")

/-- A configuration with the options of the command put over it. -/
def overridden (config : Config) (o : RunOptions) : Except OptionFault Config := do
  let viewport ← viewportOption config.viewport (filled o.viewport)
  let browser ← browserOption config.browser (filled o.browser)
  return { config with headless := config.headless && !o.headed, viewport, browser }

/-- Puts the options of the command over a configuration. One that cannot be used ends the program with
exit code 2. -/
def override (config : Config) (o : RunOptions) : CommandM Config :=
  match overridden config o with
  | .ok config => pure config
  | .error fault => do
    warnError fault.title fault.message
    exit 2

/-! ## Running -/

/-- Runs lines in a fresh browser. -/
def execute (config : Config) (lines : List String) (m : Machine) :
    Except Failure (List Outcome) × Machine :=
  let (result, _, m) := Session.during { m with config := config } (fun page m =>
    (Runner.of Vocabulary.frozenVocabulary config.toSettings).run
      { m with tab := .on page true } lines)
  (result, m)

/-- Runs lines in a fresh browser. A browser that refuses ends the program with exit code 3. -/
def executed (config : Config) (lines : List String) : CommandM (List Outcome) := do
  let t ← get
  let (result, m) := execute config lines t.machine
  set { t with machine := m }
  match result with
  | .ok outcomes => return outcomes
  | .error failure =>
    if failure.isBrowser then
      warnError "Browser Error" ("Could not launch " ++ config.browser ++ ": " ++
        escape failure.message ++ "\n\nFix: [bold]pagescript install[/bold]")
      exit 3
    throw (.failed failure)

/-- The report of a run that has just ended. -/
def reportOf (config : Config) (path : File.Path) (clock : Moment) (outcomes : List Outcome) : Report :=
  { runId := "PS-" ++ clock.stamp
    instructionsFile := path.toString
    browser := config.browser
    viewport := config.viewport
    startTime := clock.iso
    endTime := clock.iso
    duration := .fraction (Number.Binary64.ofRatio false 0 1)
    outcomes := outcomes }

/-! ## Showing outcomes -/

/-- What is about to run, with the width and the height of the window as texts. -/
def runningText (config : Config) (path : File.Path) (width height : String) : String :=
  "[bold]Running[/bold] " ++ escape path.toString ++ " [dim](" ++ config.browser ++ ", " ++ width ++ "x" ++
    height ++ ", " ++ (if config.headless then "headless" else "headed") ++ ")[/dim]"

/-- Tells what is about to run. -/
def warnRunning (config : Config) (path : File.Path) : CommandM Unit := do
  let width ← orFail (shownPlain config.viewport.1)
  let height ← orFail (shownPlain config.viewport.2)
  warn (.text (runningText config path width height))

/-- Tells what is about to run, unless the outcomes are asked for as a document. -/
def announce (o : RunOptions) (config : Config) (path : File.Path) : CommandM Unit :=
  if o.json then pure () else warnRunning config path

/-- The row of an outcome in the table of outcomes. -/
def outcomeRow (number : Nat) (o : Outcome) : List String :=
  [Report.count number, escape o.instruction,
    if o.success then "[green]PASS[/green]" else "[red]FAIL[/red]",
    if o.success then escape (Run.clipped o.result) else "[red]" ++ escape o.error ++ "[/red]"]

/-- Shows the outcomes of the lines that asked for something. -/
def warnOutcomes (r : Report) : CommandM Unit :=
  warn (.table "Instruction Results" ["#", "Instruction", "Result", "Details"]
    ((r.numbered.filter (fun x => x.2.action != Instruction.skipKey)).map
      (fun x => outcomeRow x.1 x.2)))

/-- Shows how many instructions succeeded. -/
def warnSummary (r : Report) : CommandM Unit := do
  let style := if r.passed then "green" else "red"
  let seconds ← orFail (r.duration.tenths.mapError .ordinary)
  warn (.panel ("[bold " ++ style ++ "]Run " ++ (if r.passed then "PASSED" else "FAILED") ++
      "[/bold " ++ style ++ "]") [
    "[bold]Instructions:[/bold] " ++ Report.count r.executed.length ++
    "\n[bold]Passed:[/bold]       [green]" ++ Report.count r.passedCount ++
    "[/green]\n[bold]Failed:[/bold]       [red]" ++
      Report.count (r.executed.length - r.passedCount) ++
    "[/red]\n[bold]Duration:[/bold]     " ++ seconds ++ "s"])

/-! ## The command -/

/-- Writes a file if it is asked for. -/
def writeAsked (asked : Option File.Path) (text : Except Fault String) : CommandM Unit :=
  match asked with
  | some path => writeFileIn path text
  | none => pure ()

/-- Writes the files that were asked for. -/
def writeFiles (o : RunOptions) (r : Report) : CommandM Unit := do
  writeAsked o.results (r.document.map Value.jsonIndented)
  writeAsked o.report r.markdown

/-- Shows a report: as a document, or as tables. -/
def showReport (o : RunOptions) (r : Report) : CommandM Unit := do
  if o.json then
    let document ← orFail (r.document.mapError .ordinary)
    modify (fun t => { t with document := some document })
  else
    warnOutcomes r
    warnSummary r
    match o.report with
    | some path => warn (.text ("[dim]Report written to " ++ escape path.toString ++ "[/dim]"))
    | none => pure ()

/-- Writes and shows a report. One that did not pass ends the program with exit code 1. -/
def finish (o : RunOptions) (r : Report) : CommandM Unit := do
  writeFiles o r
  showReport o r
  if r.passed then pure () else exit 1

/-- The path of the instruction file, which must be there. -/
def instructionPath (config : Config) (file : Option File.Path) : CommandM File.Path := do
  let path := file.getD config.instructionsFile
  if ← isFile path then return path
  warnError "Not Found" ("Instruction file not found: " ++ escape path.toString ++
    "\n\nFix: create it, or run [bold]pagescript init[/bold]")
  exit 2

/-- What is run: the configuration, the path of the instruction file, and its lines. -/
def prepared (o : RunOptions) : CommandM (Config × File.Path × List String) := do
  let config ← override (← loadConfig o.dir) o
  let path ← instructionPath config o.file
  return (config, path, ← instructionLines path)

/-- Runs lines, and tells what became of them. -/
def runLines (o : RunOptions) (config : Config) (path : File.Path) (lines : List String) :
    CommandM Unit := do
  announce o config path
  let outcomes ← executed config lines
  finish o (reportOf config path (← get).clock outcomes)

/-- Runs an instruction file. -/
def run (o : RunOptions) : CommandM Unit := do
  let (config, path, lines) ← prepared o
  runLines o config path lines

end BrowserScript.Command
