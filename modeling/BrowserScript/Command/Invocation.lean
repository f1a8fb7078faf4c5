/-
BrowserScript.Command.Invocation — what the arguments of the program ask for.

* `Invocation` is a command with its options.
* `Invocation.ofArguments` reads arguments. Asking for help or for the version comes before everything
  but an option that cannot be read.
-/
import BrowserScript.Command.Options
import BrowserScript.File.Path

namespace BrowserScript.Command

/-- The options of a run. -/
structure RunOptions where
  file : Option File.Path := none
  headed : Bool := false
  viewport : Option String := none
  browser : Option String := none
  json : Bool := false
  report : Option File.Path := none
  results : Option File.Path := none
  dir : Option File.Path := none
  deriving Repr, DecidableEq

/-- What is asked for. -/
inductive Invocation where
  | help
  | version
  | actions
  | init (dir : File.Path) (force : Bool)
  | install (browsers : String) (withDeps : Bool)
  | validate (file dir : Option File.Path)
  | run (options : RunOptions)
  deriving Repr, DecidableEq

/-- The option that asks for help. -/
def helpOption : OptionSpec := { long := "help" }

/-- The options before the command. -/
def programOptions : List OptionSpec :=
  [{ long := "version", short := some 'V' }, { long := "verbose", short := some 'v' }, helpOption]

/-- The option that names the project directory. -/
def dirOption : OptionSpec := { long := "dir", short := some 'd', hasValue := true }

/-- A command: its name, its options, whether it takes a file, and what it asks for. -/
structure CommandSpec where
  name : String
  options : List OptionSpec
  takesFile : Bool
  ask : List Given → Option File.Path → Invocation

/-- The path in an option. -/
def pathOption (given : List Given) (long : String) : Option File.Path :=
  (Given.value? given long).map File.Path.ofString

/-- The options of `run`. -/
def runOptions (given : List Given) (file : Option File.Path) : RunOptions :=
  { file := file
    headed := Given.has given "headed"
    viewport := Given.value? given "viewport"
    browser := Given.value? given "browser"
    json := Given.has given "json"
    report := pathOption given "report"
    results := pathOption given "results"
    dir := pathOption given "dir" }

/-- The commands. -/
def commands : List CommandSpec := [
  { name := "run"
    options := [
      { long := "headed" }, { long := "viewport", hasValue := true },
      { long := "browser", short := some 'b', hasValue := true }, { long := "json" },
      { long := "report", hasValue := true }, { long := "results", hasValue := true }, dirOption]
    takesFile := true
    ask := fun given file => .run (runOptions given file) },
  { name := "validate"
    options := [dirOption]
    takesFile := true
    ask := fun given file => .validate file (pathOption given "dir") },
  { name := "actions", options := [], takesFile := false, ask := fun _ _ => .actions },
  { name := "init"
    options := [dirOption, { long := "force", short := some 'f' }]
    takesFile := false
    ask := fun given _ =>
      .init ((pathOption given "dir").getD File.Path.here) (Given.has given "force") },
  { name := "install"
    options := [{ long := "browsers", short := some 'b', hasValue := true }, { long := "with-deps" }]
    takesFile := false
    ask := fun given _ =>
      .install ((Given.value? given "browsers").getD "chromium") (Given.has given "with-deps") }]

/-- Reads the arguments of a command. -/
def CommandSpec.read (c : CommandSpec) (arguments : List String) : Except UsageFault Invocation :=
  match readOptions (helpOption :: c.options) true arguments with
  | .error fault => .error fault
  | .ok (given, others) =>
    if Given.has given "help" then .ok .help
    else match others, c.takesFile with
      | [], _ => .ok (c.ask given none)
      | [file], true => .ok (c.ask given (some (.ofString file)))
      | [extra], false => .error (.extraArgument extra)
      | first :: second :: _, takesFile => .error (.extraArgument (if takesFile then second else first))

/-- What the program itself is asked for, by the first of two options. -/
def eager (given : List Given) : Option Invocation :=
  given.findSome? (fun g =>
    if g.long == "version" then some .version else if g.long == "help" then some .help else none)

/-- Reads the arguments of the program. -/
def Invocation.ofArguments (arguments : List String) : Except UsageFault Invocation :=
  if arguments.isEmpty then .error .nothingAsked
  else match readOptions programOptions false arguments with
    | .error fault => .error fault
    | .ok (given, others) =>
      match eager given, others with
      | some asked, _ => .ok asked
      | none, [] => .error .noCommand
      | none, name :: arguments =>
        match commands.find? (·.name == name) with
        | none => .error (.unknownCommand name)
        | some c => c.read arguments

end BrowserScript.Command
