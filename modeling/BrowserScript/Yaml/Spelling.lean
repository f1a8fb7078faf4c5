/-
BrowserScript.Yaml.Spelling — the kinds of scalars by their spelling.

A scalar without quotes and without a written tag is of the first kind whose spelling it has; a text of
no such spelling is just a text.

* `plainTag` is the tag of that kind.
* `readMoment` takes the spelling of a date or moment apart.
-/
import BrowserScript.Number.Reading
import BrowserScript.Text.Search

namespace BrowserScript.Yaml

/-- What the tags of common kinds begin with. -/
def commonTag (name : String) : String := "tag:yaml.org,2002:" ++ name

/-! ## Spellings of plain scalars -/

/-- Digits and low lines. -/
def isDigitOrLine (c : Char) : Bool := c.isDigit || c == '_'

/-- A text without one leading sign. -/
def dropSign (cs : List Char) : List Char :=
  match cs with
  | c :: rest => if c == '+' || c == '-' then rest else cs
  | [] => []

/-- Whether a text is not empty and of one class. -/
def nonemptyAll (f : Char → Bool) (cs : List Char) : Bool := !cs.isEmpty && cs.all f

/-- The spelling of a truth value. -/
def isBoolWord (s : String) : Bool :=
  ["yes", "Yes", "YES", "no", "No", "NO", "true", "True", "TRUE", "false", "False", "FALSE", "on",
    "On", "ON", "off", "Off", "OFF"].contains s

/-- An exponent with its sign, or nothing. -/
def isExponent (cs : List Char) : Bool :=
  match cs with
  | [] => true
  | e :: sign :: ds =>
    (e == 'e' || e == 'E') && (sign == '+' || sign == '-') && nonemptyAll Char.isDigit ds
  | _ => false

/-- One or more parts below sixty, each after a colon. -/
def isSixties (parts : List (List Char)) : Bool :=
  !parts.isEmpty && parts.all (fun ds =>
    match ds with
    | [d] => d.isDigit
    | [t, d] => '0' ≤ t && t ≤ '5' && d.isDigit
    | _ => false)

/-- Parts below sixty of which the last ends with a point, digits and low lines. -/
def isSixtiesWithPoint (parts : List (List Char)) : Bool :=
  match parts.getLast? with
  | none => false
  | some last =>
    match Text.splitAt? '.' last with
    | some (ds, fraction) => isSixties (parts.dropLast ++ [ds]) && fraction.all isDigitOrLine
    | none => false

/-- The spelling of a number with a point. -/
def isFloat (cs : List Char) : Bool :=
  let body := dropSign cs
  let word := String.ofList body
  [".inf", ".Inf", ".INF"].contains word ||
    [".nan", ".NaN", ".NAN"].contains (String.ofList cs) ||
    (match Text.splitOn ':' body with
      | [_] =>
        match Text.splitAt? '.' body with
        | some (whole, rest) =>
          let fraction := rest.takeWhile isDigitOrLine
          let after := rest.dropWhile isDigitOrLine
          (match whole with
            | d :: ds => d.isDigit && ds.all isDigitOrLine
            | [] => cs == body && (fraction.head?.map Char.isDigit).getD false) && isExponent after
        | none => false
      | whole :: parts =>
        (match whole with
          | d :: ds => d.isDigit && ds.all isDigitOrLine
          | [] => false) && isSixtiesWithPoint parts
      | [] => false)

/-- The spelling of a whole number: binary, octal, decimal, hexadecimal or with parts below sixty. -/
def isInt (cs : List Char) : Bool :=
  match dropSign cs with
  | [] => false
  | ['0'] => true
  | '0' :: 'b' :: ds => nonemptyAll (fun c => c == '0' || c == '1' || c == '_') ds
  | '0' :: 'x' :: ds => nonemptyAll (fun c => (Text.hexValue c).isSome || c == '_') ds
  | '0' :: ds => nonemptyAll (fun c => ('0' ≤ c && c ≤ '7') || c == '_') ds
  | body =>
    match Text.splitOn ':' body with
    | whole :: parts =>
      (match whole with
        | d :: ds => d.isDigit && d != '0' && ds.all isDigitOrLine
        | [] => false) && (parts.isEmpty || isSixties parts)
    | [] => false

/-- At least `low` and at most `high` digits at the front, and what follows them. -/
def takeDigitsBetween (low high : Nat) (cs : List Char) : Option (Nat × List Char) :=
  let ds := (cs.take high).takeWhile Char.isDigit
  if ds.length < low then none else some (Number.asciiNat ds, cs.drop ds.length)

/-- A character at the front. -/
def dropChar (c : Char) (cs : List Char) : Option (List Char) :=
  match cs with
  | d :: rest => if d == c then some rest else none
  | [] => none

/-- A time of day as written: its fraction in digits, and its distance from universal time in minutes
if that is written. -/
structure WrittenTime where
  hour : Nat
  minute : Nat
  second : Nat
  fraction : List Char
  zone : Option Int
  deriving Repr

/-- A date as written, with a time of day or without. -/
structure WrittenMoment where
  year : Nat
  month : Nat
  day : Nat
  time : Option WrittenTime
  deriving Repr

/-- The distance from universal time at the end of a text. -/
def readZone (cs : List Char) : Option (Option Int) :=
  match cs.dropWhile (fun c => c == ' ' || c == '\t') with
  | [] => if cs.isEmpty then some none else none
  | ['Z'] => some (some 0)
  | sign :: rest =>
    if sign == '+' || sign == '-' then do
      let (hours, rest) ← takeDigitsBetween 1 2 rest
      let minutes ← match rest with
        | [] => some 0
        | _ => do
          let (minutes, rest) ← (dropChar ':' rest).bind (takeDigitsBetween 2 2)
          if rest.isEmpty then some minutes else none
      let total : Int := (hours * 60 + minutes : Nat)
      some (some (if sign == '-' then -total else total))
    else none

/-- The time after a date. -/
def readTime (cs : List Char) : Option WrittenTime := do
  let rest ← match cs with
    | c :: rest =>
      if c == 'T' || c == 't' then some rest
      else if c == ' ' || c == '\t' then some (rest.dropWhile (fun c => c == ' ' || c == '\t'))
      else none
    | [] => none
  let (hour, rest) ← takeDigitsBetween 1 2 rest
  let (minute, rest) ← (dropChar ':' rest).bind (takeDigitsBetween 2 2)
  let (second, rest) ← (dropChar ':' rest).bind (takeDigitsBetween 2 2)
  let (fraction, rest) := match rest with
    | '.' :: rest => (rest.takeWhile Char.isDigit, rest.dropWhile Char.isDigit)
    | _ => ([], rest)
  let zone ← readZone rest
  some ⟨hour, minute, second, fraction, zone⟩

/-- A date or a date with a time. -/
def readMoment (cs : List Char) : Option WrittenMoment := do
  let (year, rest) ← takeDigitsBetween 4 4 cs
  let (month, rest) ← (dropChar '-' rest).bind (takeDigitsBetween 1 2)
  let (day, rest) ← (dropChar '-' rest).bind (takeDigitsBetween 1 2)
  if rest.isEmpty then some ⟨year, month, day, none⟩
  else do
    let time ← readTime rest
    some ⟨year, month, day, some time⟩

/-- The spelling of a date. A date alone has two digits for month and day. -/
def isMoment (cs : List Char) : Bool :=
  match readMoment cs with
  | some m => m.time.isSome || cs.length == 10
  | none => false

/-- A text without one line end at its end, which no spelling minds. -/
def dropLineEnd (cs : List Char) : List Char :=
  if cs.getLast? == some '\n' then cs.dropLast else cs

/-- The tag of a plain scalar. -/
def plainTag (text : String) : String :=
  let cs := dropLineEnd text.toList
  let word := String.ofList cs
  if isBoolWord word then commonTag "bool"
  else if isFloat cs then commonTag "float"
  else if isInt cs then commonTag "int"
  else if word == "<<" then commonTag "merge"
  else if text == "" || ["~", "null", "Null", "NULL"].contains word then commonTag "null"
  else if isMoment cs then commonTag "timestamp"
  else if word == "=" then commonTag "value"
  else if ["!", "&", "*"].contains word then commonTag "yaml"
  else commonTag "str"

end BrowserScript.Yaml
