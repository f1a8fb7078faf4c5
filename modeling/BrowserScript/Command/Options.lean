/-
BrowserScript.Command.Options — reading the options of a command.

An option has a long name, and perhaps a short one of a single letter. Short names may be written
together; a value follows its option after an equals sign (long names), directly (short names), or as the
next argument, whatever that looks like. Two dashes alone end the options.

* `OptionSpec` describes an option, `Given` is an option as it was given.
* `readOptions` separates the given options from the other arguments.
-/
import BrowserScript.Text.Search

namespace BrowserScript.Command

/-- An option: its long name, its short name and whether it has a value. -/
structure OptionSpec where
  long : String
  short : Option Char := none
  hasValue : Bool := false
  deriving Repr, DecidableEq

/-- An option as it was given: its long name, and its value if it has one. -/
structure Given where
  long : String
  value : String := ""
  deriving Repr, DecidableEq

/-- Why arguments cannot be read. -/
inductive UsageFault where
  | nothingAsked
  | noCommand
  | unknownCommand (name : String)
  | unknownOption (name : String)
  | missingValue (name : String)
  | unexpectedValue (name : String)
  | extraArgument (argument : String)
  deriving Repr, DecidableEq

/-- Why arguments cannot be read, in words. -/
def UsageFault.message : UsageFault → String
  | .nothingAsked | .noCommand => "Missing command."
  | .unknownCommand name => "No such command '" ++ name ++ "'."
  | .unknownOption name => "No such option: " ++ name
  | .missingValue name => "Option '" ++ name ++ "' requires an argument."
  | .unexpectedValue name => "Option '" ++ name ++ "' does not take a value."
  | .extraArgument argument => "Got unexpected extra argument (" ++ argument ++ ")"

/-- A long option with the value after its equals sign, if there is one. -/
structure LongOption where
  name : String
  value : Option String
  deriving Repr, DecidableEq

/-- Splits a long option at its first equals sign. -/
def LongOption.ofString (s : String) : LongOption :=
  match Text.splitAt? '=' s.toList with
  | some (name, value) => ⟨String.ofList name, some (String.ofList value)⟩
  | none => ⟨s, none⟩

/-- The options given by one argument, and the one that takes its value from the next argument. -/
abbrev Reading := List Given × Option OptionSpec

/-- Reads a long option. -/
def readLong (specs : List OptionSpec) (o : LongOption) : Except UsageFault Reading :=
  match specs.find? (fun spec => "--" ++ spec.long == o.name) with
  | none => .error (.unknownOption o.name)
  | some spec =>
    match spec.hasValue, o.value with
    | true, some value => .ok ([⟨spec.long, value⟩], none)
    | true, none => .ok ([], some spec)
    | false, none => .ok ([⟨spec.long, ""⟩], none)
    | false, some _ => .error (.unexpectedValue o.name)

/-- Reads short options that are written together. -/
def readShort (specs : List OptionSpec) : List Char → Except UsageFault Reading
  | [] => .ok ([], none)
  | c :: rest =>
    match specs.find? (·.short == some c) with
    | none => .error (.unknownOption (String.ofList ['-', c]))
    | some spec =>
      if spec.hasValue then
        if rest.isEmpty then .ok ([], some spec)
        else .ok ([⟨spec.long, String.ofList rest⟩], none)
      else (readShort specs rest).map (fun r => (⟨spec.long, ""⟩ :: r.1, r.2))

/-- Reads an argument that begins with a dash. -/
def readOption (specs : List OptionSpec) (argument : String) : Except UsageFault Reading :=
  match argument.toList with
  | '-' :: '-' :: _ => readLong specs (.ofString argument)
  | _ :: letters => readShort specs letters
  | [] => .ok ([], none)

/-- Whether an argument is read as an option. -/
def isOption (argument : String) : Bool := Text.startsWith argument "-" && argument != "-"

/-- The given options, and the other arguments. -/
abbrev Arguments := List Given × List String

/-- Arguments with some options put before them. -/
def withGiven (given : List Given) (a : Arguments) : Arguments := (given ++ a.1, a.2)

/-- Separates the given options from the other arguments. When they may not be `mixed`, the first other
argument ends the options. -/
def readOptions (specs : List OptionSpec) (mixed : Bool) : List String → Except UsageFault Arguments
  | [] => .ok ([], [])
  | a :: rest =>
    if a == "--" then .ok ([], rest)
    else if !isOption a then
      if mixed then (readOptions specs mixed rest).map (fun r => (r.1, a :: r.2))
      else .ok ([], a :: rest)
    else match readOption specs a with
      | .error fault => .error fault
      | .ok (given, none) => (readOptions specs mixed rest).map (withGiven given)
      | .ok (given, some spec) =>
        match rest with
        | [] => .error (.missingValue ("--" ++ spec.long))
        | value :: rest =>
          (readOptions specs mixed rest).map (withGiven (given ++ [⟨spec.long, value⟩]))

namespace Given

/-- Whether an option was given. -/
def has (given : List Given) (long : String) : Bool := given.any (·.long == long)

/-- The value of an option; the last one counts. -/
def value? (given : List Given) (long : String) : Option String :=
  (given.reverse.find? (·.long == long)).map (·.value)

end Given
end BrowserScript.Command
