/-
BrowserScript.File.Utf8 — bytes read as text.

* `DecodeFault` tells which bytes are no text and why.
* `decode` reads a list of bytes; overlong forms, surrogates and numbers above the last code point are
  refused at the first byte that cannot stand where it stands.
-/
import BrowserScript.Number.Decimal
import BrowserScript.Text.Quoted

namespace BrowserScript.File

/-- Why bytes cannot be read. -/
inductive DecodeReason where
  | invalidStart
  | invalidContinuation
  | unexpectedEnd
  deriving DecidableEq, Repr

/-- Bytes that cannot be read: the place of the first, how many there are, the first byte. -/
structure DecodeFault where
  position : Nat
  count : Nat
  byte : UInt8
  reason : DecodeReason
  deriving DecidableEq, Repr

/-- The wording of a fault. -/
def DecodeFault.message (f : DecodeFault) : String :=
  let reason := match f.reason with
    | .invalidStart => "invalid start byte"
    | .invalidContinuation => "invalid continuation byte"
    | .unexpectedEnd => "unexpected end of data"
  if f.count == 1 then
    "'utf-8' codec can't decode byte 0x" ++ String.ofList (Text.hexDigits 2 f.byte.toNat) ++
      " in position " ++ Number.intText f.position ++ ": " ++ reason
  else
    "'utf-8' codec can't decode bytes in position " ++ Number.intText f.position ++ "-" ++
      Number.intText (f.position + f.count - 1 : Nat) ++ ": " ++ reason

/-- The number of bytes after a first byte, the bits it contributes, and the range of the second
byte. -/
def leadOf (b : UInt8) : Option (Nat × Nat × UInt8 × UInt8) :=
  if b < 0x80 then some (0, b.toNat, 0, 0)
  else if b < 0xc2 then none
  else if b < 0xe0 then some (1, b.toNat - 0xc0, 0x80, 0xbf)
  else if b == 0xe0 then some (2, 0, 0xa0, 0xbf)
  else if b == 0xed then some (2, 0xd, 0x80, 0x9f)
  else if b < 0xf0 then some (2, b.toNat - 0xe0, 0x80, 0xbf)
  else if b == 0xf0 then some (3, 0, 0x90, 0xbf)
  else if b < 0xf4 then some (3, b.toNat - 0xf0, 0x80, 0xbf)
  else if b == 0xf4 then some (3, 4, 0x80, 0x8f)
  else none

/-- Reads `wanted` further bytes of a character whose bits so far are `bits`, `got` of its bytes
having been read; `low` and `high` bound the next byte. -/
def readTail (wanted bits got : Nat) (low high : UInt8) (bs : List UInt8) :
    Except (Nat × DecodeReason) (Nat × List UInt8) :=
  match wanted with
  | 0 => .ok (bits, bs)
  | wanted + 1 =>
    match bs with
    | [] => .error (got, .unexpectedEnd)
    | b :: rest =>
      if low ≤ b && b ≤ high then
        readTail wanted (bits * 64 + (b.toNat - 0x80)) (got + 1) 0x80 0xbf rest
      else .error (got, .invalidContinuation)

/-- The characters of some bytes that begin at `position`; the first argument bounds the number of
characters. -/
def decodeFrom : Nat → Nat → List UInt8 → Except DecodeFault (List Char)
  | 0, _, _ => .ok []
  | _ + 1, _, [] => .ok []
  | fuel + 1, position, b :: rest =>
    match leadOf b with
    | none => .error ⟨position, 1, b, .invalidStart⟩
    | some (wanted, bits, low, high) =>
      match readTail wanted bits 1 low high rest with
      | .error (count, reason) => .error ⟨position, count, b, reason⟩
      | .ok (n, after) =>
        (decodeFrom fuel (position + wanted + 1) after).map (Char.ofNat n :: ·)

/-- The text of some bytes. -/
def decode (bytes : List UInt8) : Except DecodeFault String :=
  (decodeFrom bytes.length 0 bytes).map String.ofList

end BrowserScript.File
