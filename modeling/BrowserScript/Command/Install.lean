/-
BrowserScript.Command.Install — installing browsers.

* `installCommand` is the command line that installs browsers.
* `install` checks the names of the browsers, starts that command line and tells how it ended.
-/
import BrowserScript.Command.Terminal
import BrowserScript.Settings.Fault

namespace BrowserScript.Command

open Screen.Markup (escape)

/-- The command line that installs browsers. -/
def installCommand (interpreter : String) (browsers : List String) (withDeps : Bool) : List String :=
  [interpreter, "-m", "playwright", "install"] ++ (if withDeps then ["--with-deps"] else []) ++ browsers

/-- The browsers in a list with commas, in lower case. -/
def browserNames (s : String) : List String :=
  (((Text.splitOn ',' s.toList).map Text.trimChars).filter (fun name => !name.isEmpty)).map
    (fun name => Text.lower (String.ofList name))

/-- Tells that the installation took too long. -/
def sayTimedOut : CommandM Unit :=
  say (.panel "[red]Timeout[/red]" [
    "[red]Installation timed out after 10 minutes.[/red]\n\nCheck your network connection and try again."])

/-- Tells that the installation failed. -/
def sayFailed (code : Int) (err : String) (commandLine : List String) : CommandM Unit :=
  say (.panel "[red]Installation Failed[/red]" [
    "[red]Playwright install failed (exit code " ++ Number.intText code ++ ").[/red]\n\n" ++
      (if err == "" then "No error output." else escape (Text.trim err)) ++
      "\n\n[dim]Try running manually:[/dim]\n  " ++ Text.joined " " commandLine])

/-- Tells that the installation succeeded. -/
def sayInstalled (browsers : List String) (out : String) : CommandM Unit := do
  for line in Text.lines (Text.trim out) do
    say (.text ("  [dim]" ++ escape line ++ "[/dim]"))
  say (.panel "[bold green]Installation Complete[/bold green]" [
    "[green]Successfully installed: " ++ Text.joined ", " browsers ++
      "[/green]\n\nYou're ready to run pagescript:\n  [bold]pagescript run[/bold]"])

/-- Starts a process and waits for its end. -/
def start (commandLine : List String) : CommandM InstallEnd := do
  modify (fun t => { t with started := t.started ++ [commandLine] })
  return (← get).installer

/-- Installs the browsers of a list with commas. -/
def install (browsers : String) (withDeps : Bool) : CommandM Unit := do
  let names := browserNames browsers
  let unknown := names.filter (fun name => !supportedBrowsers.contains name)
  if !unknown.isEmpty || names.isEmpty then
    let shown := escape (Text.joined ", " unknown)
    say (.text ("[red]Unknown browser(s): " ++ (if shown == "" then "(none)" else shown) ++
      "[/red] -- expected " ++ Text.joined ", " supportedBrowsers))
    exit 2
  let commandLine := installCommand (← get).interpreter names withDeps
  match ← start commandLine with
  | .timedOut => sayTimedOut; exit 3
  | .ended code out err =>
    if code != 0 then
      sayFailed code err commandLine
      exit 3
    sayInstalled names out

end BrowserScript.Command
