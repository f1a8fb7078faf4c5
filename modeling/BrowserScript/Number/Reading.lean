/-
BrowserScript.Number.Reading — numerals as people write them.

Blanks may stand around a numeral, and its digits may be decimal digits of any script.

* `readWhole?` reads a whole number in a base up to sixteen: a sign, the mark of the base or not, and
  digits with single low lines between them. In base ten it has at most 4300 digits.
* `readInt?` reads a whole number in base ten.
* `readNumber?` reads a number with a point or an exponent, or a word for what is no finite number.
-/
import BrowserScript.Number.Decimal
import BrowserScript.Text.Blank
import BrowserScript.Text.Digit

namespace BrowserScript.Number

/-! ## Characters of numerals -/

/-- A blank that may stand around a numeral: any blank but the four information separators. -/
def isMargin (c : Char) : Bool := Text.isBlank c && !(0x1c ≤ c.toNat && c.toNat ≤ 0x1f)

/-- A numeral without the blanks around it. -/
def trimMargins (cs : List Char) : List Char :=
  ((cs.dropWhile isMargin).reverse.dropWhile isMargin).reverse

/-- A decimal digit of any script as ASCII digit; another character is itself. -/
def asciiDigit (c : Char) : Char :=
  match Text.digitValue c with
  | some d => Char.ofNat (48 + d)
  | none => c

/-- A numeral in ASCII digits, without the blanks around it. -/
def numeralChars (cs : List Char) : List Char := (trimMargins cs).map asciiDigit

/-- The value of ASCII digits. -/
def asciiNat (ds : List Char) : Nat := ds.foldl (fun n c => 10 * n + (c.toNat - 48)) 0

/-! ## Whole numbers -/

/-- The value of digits in a base that follow the number `n`. -/
def digitsValue (base n : Nat) : List Nat → Nat
  | [] => n
  | d :: rest => digitsValue base (base * n + d) rest

/-- Whole numbers of more digits in base ten are neither read nor written. -/
def digitLimit : Nat := 4300

/-- Digits of a base with single low lines between them; `after` tells whether a digit comes right
before. -/
def groupedDigits (base : Nat) (after : Bool) : List Char → Option (List Nat)
  | [] => if after then some [] else none
  | c :: rest =>
    if c == '_' then if after then groupedDigits base false rest else none
    else match Text.hexValue c with
      | some d => if d < base then (groupedDigits base true rest).map (d :: ·) else none
      | none => none

/-- The letter that marks a base after a zero. -/
def baseLetter (base : Nat) : Option Char :=
  if base == 2 then some 'b' else if base == 8 then some 'o' else if base == 16 then some 'x' else none

/-- A numeral without the mark of its base; one low line may follow the mark. -/
def dropBaseMark (base : Nat) (cs : List Char) : List Char :=
  match cs with
  | '0' :: letter :: rest =>
    if baseLetter base == some letter.toLower then
      match rest with
      | '_' :: ds => ds
      | ds => ds
    else cs
  | _ => cs

/-- A whole number without sign. -/
def readNat? (base : Nat) (cs : List Char) : Option Nat :=
  match groupedDigits base false (dropBaseMark base cs) with
  | some ds => if base == 10 && digitLimit < ds.length then none else some (digitsValue base 0 ds)
  | none => none

/-- A whole number in a base. -/
def readWhole? (base : Nat) (cs : List Char) : Option Int :=
  match numeralChars cs with
  | '-' :: rest => (readNat? base rest).map (fun n => -(n : Int))
  | '+' :: rest => (readNat? base rest).map Int.ofNat
  | cs => (readNat? base cs).map Int.ofNat

/-- A whole number in base ten. -/
def readInt? (s : String) : Option Int := readWhole? 10 s.toList

/-! ## Numbers with a point -/

/-- An exponent, from its letter to the end of the text; nothing counts as zero. -/
def readPower? : List Char → Option Int
  | [] => some 0
  | e :: rest =>
    if e == 'e' || e == 'E' then
      let (negative, ds) := match rest with
        | '-' :: ds => (true, ds)
        | '+' :: ds => (false, ds)
        | ds => (false, ds)
      if ds.isEmpty || !ds.all Char.isDigit then none
      else some (if negative then -(asciiNat ds : Int) else asciiNat ds)
    else none

/-- A number without sign in ASCII digits: digits with a point among them or not and an exponent or
none, or a word. -/
def readUnsigned? (cs : List Char) : Option Binary64 :=
  let word := String.ofList (cs.map Char.toLower)
  if word == "inf" || word == "infinity" then some (.infinite false)
  else if word == "nan" then some .nan
  else
    let whole := cs.takeWhile Char.isDigit
    let rest := cs.dropWhile Char.isDigit
    let (fraction, rest) := match rest with
      | '.' :: rest => (rest.takeWhile Char.isDigit, rest.dropWhile Char.isDigit)
      | _ => ([], rest)
    if whole.isEmpty && fraction.isEmpty then none
    else
      (readPower? rest).map (fun power =>
        ofDecimal false (asciiNat (whole ++ fraction)) (power - fraction.length))

/-- A number with a point or an exponent, or a word. -/
def readNumber? (cs : List Char) : Option Binary64 :=
  match numeralChars cs with
  | '-' :: rest => (readUnsigned? rest).map .negate
  | '+' :: rest => readUnsigned? rest
  | cs => readUnsigned? cs

end BrowserScript.Number
