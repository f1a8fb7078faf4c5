/-
BrowserScript.Text.Half — halves of surrogate pairs.

Characters above U+FFFF are written in escapes as two halves, and a document may name one half alone.
A half is no character; in a text the unassigned character that lies 0xD0000 above it stands for it.

* `ofCode` is the character of a number, or what stands for a half.
* `half?` is the number of the half that a character stands for.
* `ofPair` is the character of two halves.
-/

namespace BrowserScript.Text

/-- Whether a number is half of a surrogate pair. -/
def isHalfCode (n : Nat) : Bool := 0xd800 ≤ n && n < 0xe000

/-- Whether a number is the first half of a surrogate pair. -/
def isFirstHalf (n : Nat) : Bool := 0xd800 ≤ n && n < 0xdc00

/-- Whether a number is the second half of a surrogate pair. -/
def isSecondHalf (n : Nat) : Bool := 0xdc00 ≤ n && n < 0xe000

/-- The character of a number, or what stands for a half. -/
def ofCode (n : Nat) : Char := Char.ofNat (if isHalfCode n then 0xd0000 + n else n)

/-- The number of the half that a character stands for. -/
def half? (c : Char) : Option Nat :=
  if isHalfCode (c.toNat - 0xd0000) then some (c.toNat - 0xd0000) else none

/-- The character of two halves. -/
def ofPair (first second : Nat) : Char :=
  Char.ofNat (0x10000 + (first - 0xd800) * 0x400 + (second - 0xdc00))

end BrowserScript.Text
