/-
BrowserScript.Number.Binary64 — numbers of 53 significant bits.

A finite number is `mantissa · 2 ^ exponent` with its sign beside it. Arithmetic is exact on quotients
of natural numbers and rounds once, to the nearest number and on a tie to the even mantissa.

* `Binary64.ofRatio` is that rounding.
* `Binary64.ratio?` gives a finite number back as a quotient.
* `ofInt?` and `quotient?` are the conversions that can overflow.
* `negate`, `add`, `multiply`, `scale` and `trunc?` are the operations the library needs.
-/
namespace BrowserScript.Number

/-- A number of 53 significant bits, an infinity, or no number. Zero has exponent zero, any other
finite number the least exponent not below -1074 for which its mantissa stays below `2 ^ 53`. -/
inductive Binary64 where
  | finite (negative : Bool) (mantissa : Nat) (exponent : Int)
  | infinite (negative : Bool)
  | nan
  deriving DecidableEq, Repr, Inhabited

namespace Binary64

/-- The quotient rounded to the nearest natural number, on a tie to the even one. -/
def roundDiv (num den : Nat) : Nat :=
  let q := num / den
  let r := num % den
  if 2 * r < den then q else if den < 2 * r then q + 1 else q + q % 2

/-- The quotient `num / den` as a multiple of `2 ^ e`, rounded. -/
def scaledRound (num den : Nat) (e : Int) : Nat :=
  if e < 0 then roundDiv (num * Nat.pow 2 (-e).toNat) den else roundDiv num (den * Nat.pow 2 e.toNat)

/-- Whether `2 ^ e ≤ num / den`. -/
def powerAtMost (num den : Nat) (e : Int) : Bool :=
  if e < 0 then den ≤ num * Nat.pow 2 (-e).toNat else den * Nat.pow 2 e.toNat ≤ num

/-- The exponent at which `num / den` has 53 bits, or the least exponent there is. -/
def exponentFor (num den : Nat) : Int :=
  let guess : Int := (Nat.log2 num : Int) - (Nat.log2 den : Int)
  let top := if powerAtMost num den guess then guess else guess - 1
  max (top - 52) (-1074)

/-- The number nearest to `num / den`, for a positive `den`. -/
def ofRatio (negative : Bool) (num den : Nat) : Binary64 :=
  if num = 0 then .finite negative 0 0
  else
    let e := exponentFor num den
    let m := scaledRound num den e
    if m = 0 then .finite negative 0 0
    else
      let (m, e) := if m = Nat.pow 2 53 then (Nat.pow 2 52, e + 1) else (m, e)
      if 971 < e then .infinite negative else .finite negative m e

/-- A finite number as a quotient, without its sign. -/
def ratio (mantissa : Nat) (exponent : Int) : Nat × Nat :=
  if exponent < 0 then (mantissa, Nat.pow 2 (-exponent).toNat)
  else (mantissa * Nat.pow 2 exponent.toNat, 1)

/-- A positive or negative zero counts as zero. -/
def isZero : Binary64 → Bool
  | .finite _ m _ => m == 0
  | _ => false

/-- A quotient of whole numbers that is too large is no finite number. -/
def finite? : Binary64 → Option Binary64
  | .finite s m e => some (.finite s m e)
  | _ => none

/-- The number nearest to a whole number, `none` when it is too large. -/
def ofInt? (n : Int) : Option Binary64 := (ofRatio (decide (n < 0)) n.natAbs 1).finite?

/-- The number nearest to the quotient of a whole number by a positive one, `none` when it is too
large. -/
def quotient? (n : Int) (den : Nat) : Option Binary64 :=
  (ofRatio (decide (n < 0)) n.natAbs den).finite?

/-- Half of a number. -/
def half : Binary64 → Binary64
  | .finite s m e => let (n, d) := ratio m e; ofRatio s n (2 * d)
  | x => x

/-- A number times a whole number above zero. -/
def scale (k : Nat) : Binary64 → Binary64
  | .finite s m e => let (n, d) := ratio m e; ofRatio s (k * n) d
  | x => x

/-- A number with its sign changed. -/
def negate : Binary64 → Binary64
  | .finite s m e => .finite (!s) m e
  | .infinite s => .infinite (!s)
  | .nan => .nan

/-- The product, rounded. Zero times infinity is no number. -/
def multiply : Binary64 → Binary64 → Binary64
  | .nan, _ => .nan
  | _, .nan => .nan
  | .infinite s, .infinite t => .infinite (s != t)
  | .infinite s, .finite t n _ => if n = 0 then .nan else .infinite (s != t)
  | .finite s m _, .infinite t => if m = 0 then .nan else .infinite (s != t)
  | .finite s m e, .finite t n f =>
    let (a, b) := ratio m e
    let (c, d) := ratio n f
    ofRatio (s != t) (a * c) (b * d)

/-- The sum, rounded. Zeros of different signs add up to the positive zero. -/
def add : Binary64 → Binary64 → Binary64
  | .nan, _ => .nan
  | _, .nan => .nan
  | .infinite s, .infinite t => if s == t then .infinite s else .nan
  | .infinite s, .finite .. => .infinite s
  | .finite .., .infinite t => .infinite t
  | .finite s m e, .finite t n f =>
    let (a, b) := ratio m e
    let (c, d) := ratio n f
    let x : Int := (if s then -1 else 1) * (a * d : Nat)
    let y : Int := (if t then -1 else 1) * (c * b : Nat)
    let sum := x + y
    if sum = 0 then .finite (s && t) 0 0 else ofRatio (decide (sum < 0)) sum.natAbs (b * d)

/-- The whole part of a finite number, towards zero. -/
def trunc? : Binary64 → Option Int
  | .finite s m e =>
    let (n, d) := ratio m e
    some (if s then -((n / d : Nat) : Int) else ((n / d : Nat) : Int))
  | _ => none

/-- Whether two numbers are equal as numbers: the zeros are equal, nothing equals no number. -/
def sameNumber : Binary64 → Binary64 → Bool
  | .nan, _ => false
  | x, y => x == y || (x.isZero && y.isZero)

/-- Whether a number equals a whole number. -/
def isWhole (x : Binary64) (n : Int) : Bool :=
  match x with
  | .finite s m e =>
    let (a, b) := ratio m e
    decide ((if s then -(a : Int) else (a : Int)) = n * (b : Int))
  | _ => false

end Binary64
end BrowserScript.Number
