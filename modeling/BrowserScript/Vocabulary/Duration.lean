/-
BrowserScript.Vocabulary.Duration — durations as people write them.

A duration is a decimal numeral with a unit: milliseconds, which is also meant when no unit stands
there, or seconds. Digits may be of any script and units in any case.

* `Duration.read?` takes a text apart.
* `Duration.milliseconds` is the length, computed with numbers of 53 bits and cut to whole
  milliseconds.
-/
import BrowserScript.Failure
import BrowserScript.Number.Reading
import BrowserScript.Text.Fold
import BrowserScript.Text.LowerCase

namespace BrowserScript.Vocabulary

open Number

/-- A duration as written: the digits before and after the point, and whether it counts seconds. -/
structure Duration where
  whole : List Nat
  fraction : List Nat
  inSeconds : Bool
  deriving Repr, DecidableEq

namespace Duration

/-- The digits at the front and what follows them. -/
def takeDigits : List Char → List Nat × List Char
  | [] => ([], [])
  | c :: rest =>
    match Text.digitValue c with
    | some d => let (ds, after) := takeDigits rest; (d :: ds, after)
    | none => ([], c :: rest)

/-- The units of seconds. -/
def secondUnits : List String := ["s", "sec", "secs", "second", "seconds"]

/-- Whether a unit counts seconds; nothing for what is no unit. A unit that is `ms` only when case is
disregarded counts seconds. -/
def unitInSeconds? (unit : List Char) : Option Bool :=
  let folded := String.ofList (unit.map Text.foldChar)
  if unit.isEmpty then some false
  else if folded == "ms" then some (Text.lowerChars unit != "ms".toList)
  else if secondUnits.contains folded then some true
  else none

/-- A text as a duration. -/
def read? (text : String) : Option Duration :=
  let (whole, rest) := takeDigits (Text.trimChars text.toList)
  let (fraction, rest) :=
    match rest with
    | '.' :: after =>
      match takeDigits after with
      | ([], _) => ([], rest)
      | parts => parts
    | _ => ([], rest)
  if whole.isEmpty then none
  else (unitInSeconds? (Text.trimStart rest)).map (fun s => ⟨whole, fraction, s⟩)

/-- The numeral of a duration. -/
def amount (d : Duration) : Binary64 :=
  ofDecimal false (digitsValue 10 0 (d.whole ++ d.fraction)) (-(d.fraction.length : Int))

/-- The length of a duration. -/
def milliseconds (d : Duration) : Except Failure Int :=
  let x := if d.inSeconds then d.amount.scale 1000 else d.amount
  match x.trunc? with
  | some n => .ok n
  | none => .error (.ordinary .infinityToWhole)

end Duration

/-- The length of a duration in a text. -/
def durationOf (text : String) : Except Failure Int :=
  match Duration.read? text with
  | none => .error (.input (.badDuration text))
  | some d => d.milliseconds

end BrowserScript.Vocabulary
