/-
BrowserScript.Value.JsonText — reading JSON texts.

Objects keep the order of their keys; of a key written twice the first place and the last value
count. Numbers with a point or an exponent are read as numbers of 53 bits, others as whole numbers, and
the words `NaN`, `Infinity` and `-Infinity` stand for themselves.

* `JsonText.Fault` says why a text is no JSON.
* `readString`, `readNumber` and `readValue` read one item from the front of a text and return the
  rest.
* `JsonText.read` reads a whole text.
-/
import BrowserScript.Value.Basic
import BrowserScript.Number.Decimal
import BrowserScript.Number.Reading
import BrowserScript.Text.Half

namespace BrowserScript.JsonText

open Number

/-- Why a text cannot be read: it is no JSON, or a whole number in it has too many digits. -/
inductive Fault where
  | malformed
  | tooManyDigits (count : Nat)
  deriving Repr, DecidableEq

/-- A reading step: the item read and what follows it. -/
abbrev Step (α : Type) := Except Fault (α × List Char)

/-- The four characters that may stand between the items of a text. -/
def isSpace (c : Char) : Bool := c == ' ' || c == '\t' || c == '\n' || c == '\r'

/-- What follows the spaces at the front. -/
def skipSpaces (cs : List Char) : List Char := cs.dropWhile isSpace

/-- Four hexadecimal digits. -/
def hexUnit : List Char → Option (Nat × List Char)
  | a :: b :: c :: d :: rest =>
    match Text.hexValue a, Text.hexValue b, Text.hexValue c, Text.hexValue d with
    | some a, some b, some c, some d => some (((a * 16 + b) * 16 + c) * 16 + d, rest)
    | _, _, _, _ => none
  | _ => none

/-- The character that a backslash and a letter stand for. -/
def simpleEscape (c : Char) : Option Char :=
  match c with
  | '"' => some '"'
  | '\\' => some '\\'
  | '/' => some '/'
  | 'b' => some '\x08'
  | 'f' => some '\x0c'
  | 'n' => some '\n'
  | 'r' => some '\r'
  | 't' => some '\t'
  | _ => none

/-- The second half of a surrogate pair at the front of a text. -/
def secondHalf (cs : List Char) : Option (Nat × List Char) :=
  match cs with
  | '\\' :: 'u' :: rest =>
    match hexUnit rest with
    | some (n, rest) => if Text.isSecondHalf n then some (n, rest) else none
    | none => none
  | _ => none

/-- The rest of a string whose opening quote has been read; `read` holds its characters so far, last
first. -/
def readString : Nat → List Char → List Char → Step String
  | 0, _, _ => .error .malformed
  | _ + 1, _, [] => .error .malformed
  | fuel + 1, read, c :: rest =>
    if c == '"' then .ok (String.ofList read.reverse, rest)
    else if c == '\\' then
      match rest with
      | 'u' :: rest =>
        match hexUnit rest with
        | none => .error .malformed
        | some (n, rest) =>
          match if Text.isFirstHalf n then secondHalf rest else none with
          | some (m, rest) => readString fuel (Text.ofPair n m :: read) rest
          | none => readString fuel (Text.ofCode n :: read) rest
      | e :: rest =>
        match simpleEscape e with
        | some d => readString fuel (d :: read) rest
        | none => .error .malformed
      | [] => .error .malformed
    else if c.toNat < 0x20 then .error .malformed
    else readString fuel (c :: read) rest

/-- The ASCII digits at the front and what follows them. -/
def takeDigits (cs : List Char) : List Char × List Char :=
  (cs.takeWhile Char.isDigit, cs.dropWhile Char.isDigit)

/-- The fraction at the front, as its digits. -/
def takeFraction (cs : List Char) : Option (List Char × List Char) :=
  match cs with
  | '.' :: rest => match takeDigits rest with
    | ([], _) => none
    | parts => some parts
  | _ => none

/-- The exponent at the front. -/
def takeExponent (cs : List Char) : Option (Int × List Char) :=
  match cs with
  | e :: rest =>
    if e == 'e' || e == 'E' then
      let (negative, rest) :=
        match rest with
        | '-' :: r => (true, r)
        | '+' :: r => (false, r)
        | r => (false, r)
      match takeDigits rest with
      | ([], _) => none
      | (ds, rest) => some (if negative then -(asciiNat ds : Int) else asciiNat ds, rest)
    else none
  | [] => none

/-- A number whose sign has been read. -/
def readNumber (negative : Bool) (cs : List Char) : Step Value :=
  match takeDigits cs with
  | ([], _) => .error .malformed
  | (whole, rest) =>
    -- a numeral begins with zero only if nothing else stands before the point
    let (whole, rest) := match whole with
      | '0' :: d :: ds => (['0'], d :: ds ++ rest)
      | _ => (whole, rest)
    let (fraction, afterFraction) := match takeFraction rest with
      | some parts => parts
      | none => ([], rest)
    match fraction, takeExponent afterFraction with
    | [], none =>
      if digitLimit < whole.length then .error (.tooManyDigits whole.length)
      else .ok (.int (if negative then -(asciiNat whole : Int) else asciiNat whole), rest)
    | _, exponent =>
      let (power, rest) := exponent.getD (0, afterFraction)
      .ok (.float (ofDecimal negative (asciiNat (whole ++ fraction)) (power - fraction.length)), rest)

/-- The word at the front, when it is there. -/
def dropWord (word : String) (cs : List Char) : Option (List Char) :=
  if word.toList.isPrefixOf cs then some (cs.drop word.length) else none

/-- A value that is neither list nor object nor string. -/
def readPlain (cs : List Char) : Step Value :=
  match cs with
  | 'n' :: _ => word "null" .null
  | 't' :: _ => word "true" (.bool true)
  | 'f' :: _ => word "false" (.bool false)
  | 'N' :: _ => word "NaN" (.float .nan)
  | 'I' :: _ => word "Infinity" (.float (.infinite false))
  | '-' :: rest =>
    match dropWord "Infinity" rest with
    | some rest => .ok (.float (.infinite true), rest)
    | none => readNumber true rest
  | _ => readNumber false cs
where
  /-- The value of a word that stands at the front. -/
  word (w : String) (v : Value) : Step Value :=
    match dropWord w cs with
    | some rest => .ok (v, rest)
    | none => .error .malformed

mutual

/-- One value; the first argument bounds the number of steps. -/
def readValue : Nat → List Char → Step Value
  | 0, _ => .error .malformed
  | fuel + 1, cs =>
    match cs with
    | '"' :: rest => (readString (rest.length + 1) [] rest).map (fun r => (.text r.1, r.2))
    | '[' :: rest =>
      match skipSpaces rest with
      | ']' :: rest => .ok (.list [], rest)
      | rest => (readItems fuel rest).map (fun r => (.list r.1, r.2))
    | '\x7b' :: rest =>
      match skipSpaces rest with
      | '\x7d' :: rest => .ok (.dict [], rest)
      | rest => (readEntries fuel [] rest).map (fun r => (.dict r.1, r.2))
    | _ => readPlain cs

/-- The items of a list up to its bracket. -/
def readItems : Nat → List Char → Step (List Value)
  | 0, _ => .error .malformed
  | fuel + 1, cs =>
    match readValue fuel cs with
    | .error e => .error e
    | .ok (v, rest) =>
      match skipSpaces rest with
      | ']' :: rest => .ok ([v], rest)
      | ',' :: rest => (readItems fuel (skipSpaces rest)).map (fun r => (v :: r.1, r.2))
      | _ => .error .malformed

/-- The entries of an object up to its brace, added to those already read. -/
def readEntries : Nat → List (Value × Value) → List Char → Step (List (Value × Value))
  | 0, _, _ => .error .malformed
  | fuel + 1, entries, cs =>
    match cs with
    | '"' :: rest =>
      match readString (rest.length + 1) [] rest with
      | .error e => .error e
      | .ok (key, rest) =>
        match skipSpaces rest with
        | ':' :: rest =>
          match readValue fuel (skipSpaces rest) with
          | .error e => .error e
          | .ok (v, rest) =>
            let entries := Value.insert (.text key) v entries
            match skipSpaces rest with
            | '\x7d' :: rest => .ok (entries, rest)
            | ',' :: rest => readEntries fuel entries (skipSpaces rest)
            | _ => .error .malformed
        | _ => .error .malformed
    | _ => .error .malformed

end

/-- A whole text, spaces around the value allowed. -/
def read (s : String) : Except Fault Value :=
  let cs := skipSpaces s.toList
  match readValue (2 * cs.length + 2) cs with
  | .error e => .error e
  | .ok (v, rest) => if skipSpaces rest == [] then .ok v else .error .malformed

end BrowserScript.JsonText
