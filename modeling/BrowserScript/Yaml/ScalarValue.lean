/-
BrowserScript.Yaml.ScalarValue — the values of scalars.

A tag may be written before any text, so the text need not have the spelling of the kind; what cannot be
read then is a fault, and which one depends on the kind.

* `Scalar` is what a text can stand for, `Scalar.value` the value that it is.
* `wholeOf`, `numberOf`, `truthOf`, `momentOf` and `bytesOf` read a text as one kind.
* `scalarOf` reads it as the kind of a tag.
-/
import BrowserScript.Text.LowerCase
import BrowserScript.Value.Display
import BrowserScript.Yaml.Scalar
import BrowserScript.Yaml.Spelling

namespace BrowserScript.Yaml

open Number

/-- What a text can stand for: a value with nothing in it. -/
inductive Scalar where
  | null
  | bool (b : Bool)
  | int (n : Int)
  | float (x : Binary64)
  | text (s : String)
  | bytes (data : List UInt8)
  | date (day : Date)
  | moment (time : Moment)
  deriving Repr, Inhabited

/-- A scalar as a value. -/
def Scalar.value : Scalar → Value
  | .null => .null
  | .bool b => .bool b
  | .int n => .int n
  | .float x => .float x
  | .text s => .text s
  | .bytes data => .bytes data
  | .date day => .date day
  | .moment time => .moment time

/-- A value that cannot be built. -/
def unbuildable {α : Type} (kind reason : String) : Except YamlFault α :=
  .error (.unbuildable kind reason)

/-- A text of which the first character was asked for, and which has none. -/
def tooShort {α : Type} : Except YamlFault α := unbuildable "IndexError" "string index out of range"

/-! ## Whole numbers -/

/-- Why a text is no whole number in a base: it has too many digits, or it is no number. No more than
200 characters of the text are shown. -/
def wholeFault (base : Nat) (cs : List Char) : String :=
  let digits := ((dropSign (numeralChars cs)).takeWhile Char.isDigit).length
  if base == 10 && digitLimit < digits then
    "Exceeds the limit (4300 digits) for integer string conversion: value has " ++ intText digits ++
      " digits; use sys.set_int_max_str_digits() to increase the limit"
  else
    "invalid literal for int() with base " ++ intText base ++ ": " ++
      String.ofList ((Text.quotedChars cs).take 200)

/-- Digits in a base. -/
def wholeIn (base : Nat) (cs : List Char) : Except YamlFault Int :=
  match readWhole? base cs with
  | some n => .ok n
  | none => unbuildable "ValueError" (wholeFault base cs)

/-- Parts in base sixty. -/
def wholeOfSixties (parts : List (List Char)) : Except YamlFault Int := do
  let digits ← parts.mapM (wholeIn 10)
  .ok (digits.foldl (fun n d => 60 * n + d) 0)

/-- A whole number, whose base its beginning tells. -/
def wholeOf (text : String) : Except YamlFault Int :=
  let cs := text.toList.filter (· != '_')
  let value : Except YamlFault Int :=
    match dropSign cs with
    | [] => tooShort
    | ['0'] => .ok 0
    | '0' :: 'b' :: ds => wholeIn 2 ds
    | '0' :: 'x' :: ds => wholeIn 16 ds
    | '0' :: ds => wholeIn 8 ('0' :: ds)
    | body => if body.contains ':' then wholeOfSixties (Text.splitOn ':' body) else wholeIn 10 body
  value.map (fun n => if cs.head? == some '-' then -n else n)

/-! ## Numbers with a point -/

/-- A number with a point or an exponent, or a word. -/
def numberIn (cs : List Char) : Except YamlFault Binary64 :=
  match readNumber? cs with
  | some x => .ok x
  | none =>
    unbuildable "ValueError" ("could not convert string to float: " ++ Text.quoted (String.ofList cs))

/-- The sum of parts in base sixty, the last part first; `weight` is the weight of the first one. -/
def addSixties (sum : Binary64) (weight : Nat) : List Binary64 → Except YamlFault Binary64
  | [] => .ok sum
  | x :: rest =>
    match Binary64.ofInt? weight with
    | some w => addSixties (sum.add (x.multiply w)) (weight * 60) rest
    | none => unbuildable "OverflowError" "int too large to convert to float"

/-- The characters that tell which number a text is: small letters, without low lines. -/
def numberChars (text : String) : List Char :=
  Text.lowerChars (text.toList.filter (· != '_'))

/-- Whether a text is the word for no number. -/
def isNanWord (text : String) : Bool := dropSign (numberChars text) == ".nan".toList

/-- A number with a point. -/
def numberOf (text : String) : Except YamlFault Binary64 :=
  let cs := numberChars text
  let body := dropSign cs
  let value : Except YamlFault Binary64 :=
    if cs.isEmpty then tooShort
    else if body == ".inf".toList then .ok (.infinite false)
    else if body == ".nan".toList then .ok .nan
    else if body.contains ':' then do
      let parts ← (Text.splitOn ':' body).mapM numberIn
      addSixties (.finite false 0 0) 1 parts.reverse
    else numberIn body
  value.map (fun x => if cs.head? == some '-' then x.negate else x)

/-! ## Truth values -/

/-- The truth values by their words. -/
def truthOf (text : String) : Except YamlFault Bool :=
  let word := Text.lower text
  if ["yes", "true", "on"].contains word then .ok true
  else if ["no", "false", "off"].contains word then .ok false
  else unbuildable "KeyError" (Text.quoted word)

/-! ## Dates -/

/-- Millionths of a second of a fraction. -/
def microseconds (fraction : List Char) : Nat :=
  let ds := fraction.take 6
  asciiNat (ds ++ List.replicate (6 - ds.length) '0')

/-- A date, with a time of day or without. -/
def momentOf (text : String) : Except YamlFault Scalar :=
  match readMoment (dropLineEnd text.toList) with
  | none => unbuildable "AttributeError" "'NoneType' object has no attribute 'groupdict'"
  | some w =>
    let made : Except CalendarFault Scalar := do
      match w.time with
      | none => return .date (← Date.make w.year w.month w.day)
      | some t =>
        Moment.checkZone t.zone
        let date ← Date.make w.year w.month w.day
        return .moment (← Moment.make date t.hour t.minute t.second (microseconds t.fraction) t.zone)
    match made with
    | .ok v => .ok v
    | .error fault => unbuildable "ValueError" fault.message

/-! ## Bytes -/

/-- The value of a character of the sixty-four. -/
def sixtyFourValue (c : Char) : Option Nat :=
  if 'A' ≤ c && c ≤ 'Z' then some (c.toNat - 65)
  else if 'a' ≤ c && c ≤ 'z' then some (c.toNat - 71)
  else if '0' ≤ c && c ≤ '9' then some (c.toNat + 4)
  else if c == '+' then some 62
  else if c == '/' then some 63
  else none

/-- The bytes of characters that carry six bits each. `count` tells how many characters the group of
four has so far, `left` holds the bits of it that no byte has yet, `pads` counts the equals signs since
the last character. Equals signs end the bytes when they fill up a group; other characters are passed
over. Nothing when a group is left unfinished. -/
def sixtyFourBytes (count left pads : Nat) : List Char → Option (List UInt8)
  | [] => if count == 0 then some [] else none
  | c :: rest =>
    if c == '=' then
      if 2 ≤ count && 4 ≤ count + pads + 1 then some []
      else sixtyFourBytes count left (if 2 ≤ count then pads + 1 else pads) rest
    else match sixtyFourValue c with
      | none => sixtyFourBytes count left pads rest
      | some v =>
        let bits := left * 64 + v
        let byte (unused : Nat) : UInt8 := UInt8.ofNat (bits / Nat.pow 2 unused)
        match count with
        | 0 => sixtyFourBytes 1 v 0 rest
        | 1 => (sixtyFourBytes 2 (bits % 16) 0 rest).map (byte 4 :: ·)
        | 2 => (sixtyFourBytes 3 (bits % 4) 0 rest).map (byte 2 :: ·)
        | _ => (sixtyFourBytes 0 0 0 rest).map (byte 0 :: ·)

/-- Bytes written with sixty-four characters. -/
def bytesOf (text : String) : Except YamlFault Scalar :=
  let cs := text.toList
  if cs.any (fun c => 0x7f < c.toNat) then refuse "failed to convert base64 data into ascii"
  else match sixtyFourBytes 0 0 0 cs with
    | some bytes => .ok (.bytes bytes)
    | none => refuse "failed to decode base64 data"

/-! ## All kinds -/

/-- What a text stands for by its tag. -/
def scalarOf (tag text : String) : Except YamlFault Scalar :=
  if tag == commonTag "str" then .ok (.text text)
  else if tag == commonTag "null" then .ok .null
  else if tag == commonTag "bool" then (truthOf text).map .bool
  else if tag == commonTag "int" then (wholeOf text).map .int
  else if tag == commonTag "float" then (numberOf text).map .float
  else if tag == commonTag "timestamp" then momentOf text
  else if tag == commonTag "binary" then bytesOf text
  else refuse "could not determine a constructor for the tag"

end BrowserScript.Yaml
