/-
BrowserScript.Command.Validate — checking instructions without a browser.

* `validate` reads every line of an instruction file and shows those that cannot be read. It ends with
  exit code 0 when all can.
* `sayActions` shows the built-in vocabulary.
-/
import BrowserScript.Command.Project
import BrowserScript.Instruction.Parser
import BrowserScript.Vocabulary.BuiltIn

namespace BrowserScript.Command

open Instruction Vocabulary
open Screen.Markup (escape)

/-- A count as text. -/
def countText (n : Nat) : String := Number.intText (Int.ofNat n)

/-- The number of lines that ask for something. -/
def instructionCount (marker : String) (lines : List String) : Nat :=
  (lines.filter (fun line => !ignorable marker line)).length

/-- Shows the lines that cannot be read. -/
def warnProblems (path : File.Path) (problems : List (Nat × String × ParseFailure)) : CommandM Unit :=
  warn (.table (escape path.toString ++ ": " ++ countText problems.length ++ " problem(s)")
    ["Line", "Instruction", "Problem"]
    (problems.map (fun (number, line, problem) =>
      [countText number, escape line, escape problem.reason])))

/-- Checks an instruction file. -/
def validate (file dir : Option File.Path) : CommandM Unit := do
  let config ← loadConfig dir
  let path := file.getD config.instructionsFile
  if !(← isFile path) then
    warnError "Not Found" ("Instruction file not found: " ++ escape path.toString)
    exit 2
  let lines ← instructionLines path
  match parseFailures frozenVocabulary config.commentMarker lines with
  | [] =>
    warn (.panel ("[bold green]" ++ escape path.toString ++ "[/bold green]") [
      "[green]" ++ countText (instructionCount config.commentMarker lines) ++
        " instruction(s) parsed cleanly.[/green]"])
  | problems => do
    warnProblems path problems
    exit 1

/-- The row of an action in the table of actions. -/
def actionRow (a : Action Handler) : List String :=
  [a.key, escape a.usage, Text.joined ", " (a.aliases.map (Text.joined " ")), escape a.description]

/-- Shows the built-in vocabulary. -/
def sayActions : CommandM Unit := do
  say (.table "pagescript instructions" ["Action", "Usage", "Also accepts", "Description"]
    (vocabulary.actions.map actionRow))
  say (.text "[dim]Targets may be a CSS selector or a short description like 'search' or 'Sign in'.[/dim]")
  say (.text "[dim]Credentials may be written as env:NAME to read them from the environment.[/dim]")

end BrowserScript.Command
