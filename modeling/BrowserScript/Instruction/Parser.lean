/-
BrowserScript.Instruction.Parser — one line to one action.

A line begins with a keyword phrase. The longest phrase that matches wins, of equally long ones the
one registered first; an action without parameters gives way when more text follows its phrase. What
follows the phrase becomes the parameters.

* `ignorable` tells blank lines and comments.
* `candidates` lists the matching phrases in the order in which they are tried.
* `parameters` makes parameters of the text after a phrase.
* `parse` reads a line.
-/
import BrowserScript.Instruction.Pieces
import BrowserScript.Instruction.Registry
import BrowserScript.Text.Blank
import BrowserScript.Text.Search

namespace BrowserScript.Instruction

/-- A line that was understood: the key of an action and its parameters. -/
structure Request where
  key : String
  params : List String
  deriving Repr, DecidableEq

/-- The key of lines that ask for nothing. -/
def skipKey : String := "skip"

/-- What a blank line or a comment asks for. -/
def Request.skip : Request := ⟨skipKey, []⟩

/-- Whether a request asks for nothing. -/
def Request.isSkip (r : Request) : Bool := r.key == skipKey

/-- Why a line was not understood. -/
inductive ParseFailure where
  | unknownAction (word text : String)
  | takesNoParameters (key remainder usage : String)
  | missingParameters (key : String) (expected got : Nat) (usage : String)
  deriving Repr, DecidableEq

/-- The wording of a failure. -/
def ParseFailure.reason : ParseFailure → String
  | .unknownAction word text => "Unknown action: '" ++ word ++ "' in instruction: " ++ text
  | .takesNoParameters key remainder usage =>
    "'" ++ key ++ "' takes no parameters, got: " ++ remainder ++ ". Usage: " ++ usage
  | .missingParameters key expected got usage =>
    "Missing parameters for '" ++ key ++ "' (expected at least " ++ Number.intText expected ++
      ", got " ++ Number.intText got ++ "). Usage: " ++ usage

/-- Blank lines and lines that begin with the comment marker. -/
def ignorable (marker line : String) : Bool :=
  let text := Text.trim line
  text == "" || Text.startsWith text marker

variable {η : Type}

/-! ## Matching phrases -/

/-- Whether a phrase is the beginning of the words of a line. -/
def phraseMatches (phrase : Phrase) (words : List String) : Bool := phrase.isPrefixOf words

/-- The phrases at the beginning of the words, longest first; equally long ones in the order of
registration. -/
def candidates (r : Registry η) (words : List String) : List (Phrase × Action η) :=
  (r.phrases.filter (fun entry => phraseMatches entry.1 words)).mergeSort
    (fun a b => b.1.length ≤ a.1.length)

/-- The text after a phrase, trimmed. A phrase without words has no text after it. -/
def remainderAfter (phrase : Phrase) (text : String) : String :=
  if phrase.isEmpty then ""
  else String.ofList (Text.trimChars (Text.afterWords phrase.length text.toList))

/-! ## Parameters -/

/-- Empty parameters at the end removed. -/
def dropEmptyEnd (params : List String) : List String :=
  (params.reverse.dropWhile (· == "")).reverse

/-- The parameters in the text after the phrase of an action with `maxParams` of them. -/
def parameterList (maxParams : Nat) (remainder : String) : List String :=
  if remainder == "" then []
  else if maxParams == 1 then [remainder]
  else dropEmptyEnd ((split remainder (some maxParams)).map (fun p => unquote (Text.trim p)))

/-- The request that an action makes of the text after its phrase. -/
def parameters (a : Action η) (remainder : String) : Except ParseFailure Request :=
  if a.maxParams == 0 then
    if remainder == "" then .ok ⟨a.key, []⟩
    else .error (.takesNoParameters a.key remainder a.usage)
  else
    let params := parameterList a.maxParams remainder
    if params.length < a.minParams || (params.take a.minParams).any (· == "") then
      .error (.missingParameters a.key a.minParams (params.filter (· != "")).length a.usage)
    else .ok ⟨a.key, params⟩

/-! ## Lines -/

/-- The first candidate that settles the line: one that is understood, takes parameters or has nothing
after its phrase. When all give way, the failure of the first of them stands. -/
def settle (text : String) (first : Option ParseFailure) :
    List (Phrase × Action η) → Except ParseFailure Request
  | [] => .error (first.getD (.unknownAction "" text))
  | (phrase, a) :: rest =>
    let remainder := remainderAfter phrase text
    match parameters a remainder with
    | .ok request => .ok request
    | .error failure =>
      if 0 < a.maxParams || remainder == "" then .error failure
      else settle text (some (first.getD failure)) rest

/-- The words of a line as they are matched. -/
def matchWords (text : String) : List String := (Text.wordsOf text).map Text.lower

/-- Reads one line. -/
def parse (r : Registry η) (marker line : String) : Except ParseFailure Request :=
  if ignorable marker line then .ok .skip
  else
    let text := Text.trim line
    match candidates r (matchWords text) with
    | [] => .error (.unknownAction ((Text.wordsOf text).headD "") text)
    | found => settle text none found

/-- The lines that cannot be read, each with its number, its trimmed text and the failure. -/
def parseFailures (r : Registry η) (marker : String) (lines : List String) :
    List (Nat × String × ParseFailure) :=
  lines.zipIdx.filterMap (fun (line, i) =>
    match parse r marker line with
    | .ok _ => none
    | .error failure => some (i + 1, Text.trim line, failure))

end BrowserScript.Instruction
