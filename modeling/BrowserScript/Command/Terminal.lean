/-
BrowserScript.Command.Terminal — what commands work with.

* `Terminal` is everything around a command: the machine, what the installing process will do, the clock,
  and what has been shown so far.
* `Halt` is the way in which a command ends early.
* `CommandM` is the type of a computation that changes the terminal and may end early.
-/
import BrowserScript.Browser.Machine
import BrowserScript.Calendar
import BrowserScript.Screen.Block

namespace BrowserScript.Command

/-- How the process that installs browsers ends. -/
inductive InstallEnd where
  | ended (code : Int) (out err : String)
  | timedOut
  deriving Repr, DecidableEq

/-- Everything around a command. What is shown goes to the output or to the messages; a document takes
the place of the output. -/
structure Terminal where
  machine : Browser.Machine
  interpreter : String
  installer : InstallEnd
  clock : Moment
  output : List String := []
  messages : List String := []
  document : Option Value := none
  started : List (List String) := []

/-- How a command ends early: with an exit code, by a failure that nothing catches, or by markup that
cannot be shown. -/
inductive Halt where
  | exit (code : Nat)
  | failed (failure : Failure)
  | markup (fault : Screen.Markup.Fault)
  deriving Repr

namespace Halt

/-- The exit code of the program. -/
def code : Halt → Nat
  | .exit code => code
  | _ => 1

/-- The kind of a failure that nothing caught. -/
def escaped? : Halt → Option String
  | .exit _ => none
  | .failed failure => some failure.kind
  | .markup _ => some "MarkupError"

end Halt

/-- A computation that changes the terminal and may end early. -/
abbrev CommandM (α : Type) := ExceptT Halt (StateM Terminal) α

/-- Ends the program with an exit code. -/
def exit {α : Type} (code : Nat) : CommandM α := throw (.exit code)

/-- Ends the program unless something went well. -/
def orFail {α : Type} : Except Failure α → CommandM α
  | .ok a => pure a
  | .error failure => throw (.failed failure)

/-- Ends the program unless the system did not refuse. -/
def orRefused {α : Type} (x : Except File.OsFault α) : CommandM α :=
  orFail (x.mapError (fun fault => .ordinary (.os fault)))

/-- The lines of a block. -/
def drawn (b : Screen.Block) : CommandM (List String) :=
  match b.lines with
  | .ok lines => pure lines
  | .error fault => throw (.markup fault)

/-- Shows a block on the output. -/
def say (b : Screen.Block) : CommandM Unit := do
  let lines ← drawn b
  modify (fun t => { t with output := t.output ++ lines })

/-- Shows a block among the messages. -/
def warn (b : Screen.Block) : CommandM Unit := do
  let lines ← drawn b
  modify (fun t => { t with messages := t.messages ++ lines })

/-- Shows an error among the messages. -/
def warnError (title message : String) : CommandM Unit :=
  warn (.panel ("[red]" ++ title ++ "[/red]") ["[red]" ++ message ++ "[/red]"])

/-- The disk. -/
def disk : CommandM File.Disk := do return (← get).machine.disk

/-- Replaces the disk. -/
def putDisk (d : File.Disk) : CommandM Unit :=
  modify (fun t => { t with machine := { t.machine with disk := d } })

/-- Makes a directory and the missing ones above it. -/
def makeDirs (p : File.Path) : CommandM Unit := do
  putDisk (← orRefused ((← disk).makeDirs p))

/-- Writes a text file. -/
def writeFile (p : File.Path) (text : String) : CommandM Unit := do
  putDisk (← orRefused ((← disk).write p text))

/-- Writes a text file in a directory that is made if it is missing, before the text is looked at. -/
def writeFileIn (p : File.Path) (text : Except Fault String) : CommandM Unit := do
  makeDirs p.parent
  writeFile p (← orFail (text.mapError .ordinary))

/-- Reads a text file. -/
def readFile (p : File.Path) : CommandM String := do
  orFail (((← disk).read p).mapError (fun fault => .ordinary (.ofRead fault)))

/-- Whether a path leads to a file. -/
def isFile (p : File.Path) : CommandM Bool := do orRefused ((← disk).isFile p)

/-- Whether a path leads to anything. -/
def fileExists (p : File.Path) : CommandM Bool := do orRefused ((← disk).exists? p)

end BrowserScript.Command
