/-
BrowserScript.Failure — how an instruction can fail.

* `Fault` is a failure of an ordinary operation: a number out of range, a missing entry, a refused file
  operation.
* `InputFault` is a parameter that an action cannot use.
* `Failure` is any way in which an instruction ends without a result.
* `kind`, `message` and `report` word them: the kind comes first in a report.
* `Failure.tellsLoss` tells whether a wording says that the browser session is gone.
-/
import BrowserScript.File.Disk
import BrowserScript.Settings.Fault
import BrowserScript.SignIn.Tables
import BrowserScript.Value.Json

namespace BrowserScript

/-! ## Ordinary operations -/

/-- A failure of an ordinary operation. -/
inductive Fault where
  | quotientTooLarge
  | wholeTooLarge
  | infinityToWhole
  | nanToWhole
  | tooManyDigits (count : Nat)
  | unwritableNumber
  | missingEntry (key : String)
  | missingParameter
  | notIterable (kind : String)
  | noEntries (kind : String)
  | noMember (kind name : String)
  | notPath (kind : String)
  | noHalf (kind : String)
  | noSum (kind : String)
  | unhashable (kind : String)
  | badKey (kind : String)
  | circle
  | os (fault : File.OsFault)
  | decode (fault : File.DecodeFault)
  | unknownHome
  | emptyName (path : File.Path)
  | badUrl (reason : String)
  | badDocument (kind reason : String)
  deriving Repr

namespace Fault

/-- The word for the kind of a fault. -/
def kind : Fault → String
  | .quotientTooLarge | .wholeTooLarge | .infinityToWhole => "OverflowError"
  | .nanToWhole | .tooManyDigits _ | .unwritableNumber | .circle | .emptyName _ | .badUrl _ => "ValueError"
  | .missingEntry _ => "KeyError"
  | .missingParameter => "IndexError"
  | .notIterable _ | .noEntries _ | .notPath _ | .noHalf _ | .noSum _ | .unhashable _ | .badKey _ =>
    "TypeError"
  | .noMember _ _ => "AttributeError"
  | .os fault =>
    match fault.reason with
    | .missing => "FileNotFoundError"
    | .exists => "FileExistsError"
    | .notDirectory => "NotADirectoryError"
    | .isDirectory => "IsADirectoryError"
    | .nameTooLong => "OSError"
  | .decode _ => "UnicodeDecodeError"
  | .unknownHome => "RuntimeError"
  | .badDocument kind _ => kind

/-- The wording of a fault. -/
def message : Fault → String
  | .quotientTooLarge => "integer division result too large for a float"
  | .wholeTooLarge => "int too large to convert to float"
  | .infinityToWhole => "cannot convert float infinity to integer"
  | .nanToWhole => "cannot convert float NaN to integer"
  | .tooManyDigits count =>
    "Exceeds the limit (4300 digits) for integer string conversion: value has " ++
      Number.intText count ++ " digits; use sys.set_int_max_str_digits() to increase the limit"
  | .unwritableNumber =>
    "Exceeds the limit (4300 digits) for integer string conversion; " ++
      "use sys.set_int_max_str_digits() to increase the limit"
  | .missingEntry key => Text.quoted key
  | .missingParameter => "list index out of range"
  | .notIterable kind => "'" ++ kind ++ "' object is not iterable"
  | .noEntries kind =>
    if kind == "str" then "string indices must be integers, not 'str'"
    else if kind == "list" then "list indices must be integers or slices, not str"
    else "'" ++ kind ++ "' object is not subscriptable"
  | .noMember kind name => "'" ++ kind ++ "' object has no attribute '" ++ name ++ "'"
  | .notPath kind => "unsupported operand type(s) for /: 'PosixPath' and '" ++ kind ++ "'"
  | .noHalf kind => "unsupported operand type(s) for /: '" ++ kind ++ "' and 'int'"
  | .noSum kind =>
    if kind == "str" || kind == "list" then
      "can only concatenate " ++ kind ++ " (not \"float\") to " ++ kind
    else "unsupported operand type(s) for +: '" ++ kind ++ "' and 'float'"
  | .unhashable kind => "unhashable type: '" ++ kind ++ "'"
  | .badKey kind => "keys must be str, int, float, bool or None, not " ++ kind
  | .circle => "Circular reference detected"
  | .os fault => fault.message
  | .decode fault => fault.message
  | .unknownHome => "Could not determine home directory."
  | .emptyName path => "PosixPath(" ++ Text.quoted path.toString ++ ") has an empty name"
  | .badUrl reason => reason
  | .badDocument _ reason => reason

/-- A file that could not be read, as a fault. -/
def ofRead : File.ReadFault → Fault
  | .os fault => .os fault
  | .decode fault => .decode fault

/-- A value that could not be written, as a fault. -/
def ofJson : Value.JsonFault → Fault
  | .longNumber => .unwritableNumber
  | .circle => .circle
  | .badKey kind => .badKey kind

end Fault

/-! ## Parameters -/

/-- A parameter that an action cannot use. -/
inductive InputFault where
  | badDuration (text : String)
  | noBox (selector : String)
  | noOption (option selector : String)
  | cookiesNotJson (reason : String)
  | cookiesNotObjects
  | unknownStep (kind : String)
  deriving Repr, DecidableEq

/-- The wording of a fault. -/
def InputFault.message : InputFault → String
  | .badDuration text =>
    "Invalid wait duration: " ++ Text.quoted text ++ " (expected milliseconds, e.g. 'wait 500')"
  | .noBox selector => "Element has no bounding box (not rendered?): " ++ selector
  | .noOption option selector =>
    "No option with value or label '" ++ option ++ "' in " ++ selector
  | .cookiesNotJson reason => "Cookies must be a JSON object or list: " ++ reason
  | .cookiesNotObjects => "Cookies must be a JSON object or list of objects"
  | .unknownStep kind => "Unknown site step kind: " ++ kind

/-! ## Signing in -/

/-- Why signing in fails. -/
inductive SignInFault where
  | noForm (intent : SignIn.Intent)
  | noField (name : String)
  deriving Repr, DecidableEq

/-- The wording of a fault. -/
def SignInFault.message : SignInFault → String
  | .noForm intent =>
    "Could not find a " ++ intent.word ++ " form: no " ++ intent.word ++
      " link found and none of " ++ Text.joined ", " intent.paths ++ " showed one"
  | .noField name => "Could not find " ++ name ++ " field"

/-- The part of the form that a fault is about. -/
def SignInFault.field : SignInFault → String
  | .noForm _ => "form"
  | .noField name => name

/-! ## Failures -/

/-- A way in which an instruction ends without a result. `outside` is a failure of the surroundings
with a text of its own, of a value or while running. -/
inductive Failure where
  | driver (text : String)
  | browser (text : String)
  | timeout (text : String)
  | targetNotFound (description : String) (tried : Nat) (hidden : List String)
  | signIn (fault : SignInFault)
  | settings (fault : SettingsFault)
  | input (fault : InputFault)
  | missingUpload (path : File.Path)
  | outside (ofValue : Bool) (text : String)
  | ordinary (fault : Fault)
  deriving Repr

namespace Failure

/-- The word for the kind of a failure. -/
def kind : Failure → String
  | .driver _ => "DriverError"
  | .browser _ => "Error"
  | .timeout _ => "TimeoutError"
  | .targetNotFound .. => "TargetNotFoundError"
  | .signIn _ => "AuthenticationError"
  | .settings _ => "PageScriptConfigError"
  | .input _ => "ValueError"
  | .missingUpload _ => "FileNotFoundError"
  | .outside ofValue _ => if ofValue then "ValueError" else "RuntimeError"
  | .ordinary fault => fault.kind

/-- The wording of a target that was not found, with the first three hidden matches. -/
def targetMessage (description : String) (hidden : List String) : String :=
  "Could not find element matching: " ++ description ++
    (if hidden.isEmpty then ""
      else " (" ++ Number.intText hidden.length ++ " match(es) found but not visible: " ++
        Text.joined ", " (hidden.take 3) ++ ")")

/-- The wording of a failure. -/
def message : Failure → String
  | .driver text | .browser text | .timeout text | .outside _ text => text
  | .targetNotFound description _ hidden => targetMessage description hidden
  | .signIn fault => fault.message
  | .settings fault => fault.message
  | .input fault => fault.message
  | .missingUpload path => "Upload file not found: " ++ path.toString
  | .ordinary fault => fault.message

/-- Kind and wording of a failure. -/
def report (f : Failure) : String := f.kind ++ ": " ++ f.message

/-- Whether the browser itself refused. -/
def isBrowser : Failure → Bool
  | .browser _ | .timeout _ => true
  | _ => false

/-- Wordings which say that the page, the context or the browser is gone. -/
def closedTexts : List String :=
  ["has been closed", "Target closed", "Browser closed", "Connection closed"]

/-- Whether a wording says that the session is gone. -/
def tellsLoss (text : String) : Bool := closedTexts.any (Text.contains text)

end Failure
end BrowserScript
