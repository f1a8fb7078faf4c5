/-
BrowserScript.Run.Outcome — what became of one instruction.

* `Outcome` is the result or the error of an instruction, with the key of its action once that is
  known.
* `Outcome.toValue` is its form in result files.
* `summary` is the short text of a result, `clipped` the text that fits into a table.
-/
import BrowserScript.Value.Json
import BrowserScript.Text.Blank

namespace BrowserScript.Run

/-- What became of an instruction: the trimmed text, whether it succeeded, the result or the error, the
key of the action, and how many milliseconds it took. -/
structure Outcome where
  instruction : String
  success : Bool
  result : Value := .null
  error : String := ""
  action : String := ""
  duration : Int := 0
  deriving Repr

namespace Outcome

/-- The entries of an outcome in a result file. -/
def fields (o : Outcome) : List (String × Value) :=
  [("instruction", .text o.instruction), ("success", .bool o.success)] ++
    (if o.action == "" then [] else [("action", .text o.action)]) ++
    (if o.success then [("result", o.result)] else [("error", .text o.error)]) ++
    [("duration_ms", .int o.duration)]

/-- An outcome in a result file. -/
def toValue (o : Outcome) : Value := .record o.fields

end Outcome

/-! ## Short texts -/

/-- A text on one line, without blanks at its ends. -/
def oneLine (s : String) : String :=
  String.ofList (Text.replaceChar '\n' [' '] (Text.trimChars s.toList))

/-- The short text of a result: nothing, the text itself on one line, or JSON. What has no JSON form, because
it holds itself or has a key of a kind that JSON lacks, is shown as messages show it. -/
def summary : Value → String
  | .null => ""
  | .text s => oneLine s
  | v =>
    match v.checkJson with
    | .error .circle | .error (.badKey _) => v.plain
    | _ => v.json

/-- The text of a result that fits into a table on the screen. -/
def clipped : Value → String
  | .null => ""
  | .text s => Text.clip (oneLine s)
  | v => Text.clip (oneLine v.json)

end BrowserScript.Run
