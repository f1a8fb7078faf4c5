/-
BrowserScript.Text.Quoted — quoted text.

Messages show a text between quotes, on one line and without ambiguity.

* `quoteMark` chooses the quote: the apostrophe, or the double quote for a text that has apostrophes
  and no double quote.
* `quotedChar` writes one character: backslash and quote after a backslash, tab, line feed and carriage
  return as letters, other characters without a visible form as hexadecimal escapes.
* `quoted` is the whole, `quotedBytes` the same for bytes.
-/
import BrowserScript.Text.Half
import BrowserScript.Text.Printable

namespace BrowserScript.Text

/-- The hexadecimal digit of a number below sixteen, in lower case. -/
def hexDigit (n : Nat) : Char :=
  if n < 10 then Char.ofNat (48 + n) else Char.ofNat (87 + n)

/-- The last `width` hexadecimal digits of `n`. -/
def hexDigits (width n : Nat) : List Char :=
  match width with
  | 0 => []
  | w + 1 => hexDigits w (n / 16) ++ [hexDigit (n % 16)]

/-- The quote that stands at both ends of the quoted form. -/
def quoteMark (cs : List Char) : Char :=
  if cs.contains '\'' && !cs.contains '"' then '"' else '\''

/-- One character inside quotes `mark`. -/
def quotedChar (mark c : Char) : List Char :=
  if c == mark || c == '\\' then ['\\', c]
  else if c == '\t' then ['\\', 't']
  else if c == '\n' then ['\\', 'n']
  else if c == '\r' then ['\\', 'r']
  else if let some n := half? c then '\\' :: 'u' :: hexDigits 4 n
  else if isPrintable c then [c]
  else if c.toNat < 0x100 then '\\' :: 'x' :: hexDigits 2 c.toNat
  else if c.toNat < 0x10000 then '\\' :: 'u' :: hexDigits 4 c.toNat
  else '\\' :: 'U' :: hexDigits 8 c.toNat

/-- A text between quotes. -/
def quotedChars (cs : List Char) : List Char :=
  quoteMark cs :: (cs.flatMap (quotedChar (quoteMark cs)) ++ [quoteMark cs])

/-- A string between quotes. -/
def quoted (s : String) : String := String.ofList (quotedChars s.toList)

/-- One byte inside quotes `mark`: a visible ASCII character as in a text, another byte as a hexadecimal
escape. -/
def quotedByte (mark : Char) (b : UInt8) : List Char :=
  if b.toNat < 0x7f then quotedChar mark (Char.ofNat b.toNat) else '\\' :: 'x' :: hexDigits 2 b.toNat

/-- Bytes between quotes, after the letter that marks them. -/
def quotedBytes (bytes : List UInt8) : String :=
  let mark := quoteMark (bytes.map (fun b => Char.ofNat b.toNat))
  String.ofList ('b' :: mark :: (bytes.flatMap (quotedByte mark) ++ [mark]))

end BrowserScript.Text
