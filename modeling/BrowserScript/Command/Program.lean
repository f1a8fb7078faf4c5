/-
BrowserScript.Command.Program — the program.

* `perform` carries out what is asked for.
* `program` reads arguments, carries out what they ask for and tells how the program ends.
-/
import BrowserScript.Command.Install
import BrowserScript.Command.Run
import BrowserScript.Command.Validate

namespace BrowserScript.Command

/-- The version of the program. -/
def versionText : String := "0.3.0"

/-- Shows the version. -/
def sayVersion : CommandM Unit := do
  say (.text ("[bold cyan]pagescript[/bold cyan] v" ++ versionText))
  say (.text "  Plain-text instructions for a live browser.")

/-- Shows the commands. -/
def sayHelp : CommandM Unit := do
  say (.text "Usage: pagescript OPTIONS COMMAND ARGS...")
  for c in commands do
    say (.text ("  " ++ c.name))

/-- Carries out what is asked for. -/
def perform : Invocation → CommandM Unit
  | .help => sayHelp
  | .version => sayVersion
  | .actions => sayActions
  | .init dir force => makeProject dir force
  | .install browsers withDeps => install browsers withDeps
  | .validate file dir => validate file dir
  | .run options => run options

/-- How the program ends: its exit code, the kind of a failure that nothing caught, and whether its
arguments could not be read. -/
structure Ending where
  code : Nat
  escaped : Option String := none
  usage : Option UsageFault := none
  deriving Repr

/-- The end of a command. -/
def Ending.of : Except Halt Unit → Ending
  | .ok () => { code := 0 }
  | .error halt => { code := halt.code, escaped := halt.escaped? }

/-- Runs the program. -/
def program (arguments : List String) (t : Terminal) : Ending × Terminal :=
  match Invocation.ofArguments arguments with
  | .error fault => ({ code := 2, usage := some fault }, t)
  | .ok asked =>
    let (result, t) := (perform asked).run t
    (.of result, t)

end BrowserScript.Command
