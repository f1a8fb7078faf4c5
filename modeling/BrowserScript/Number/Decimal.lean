/-
BrowserScript.Number.Decimal — decimal texts of numbers.

* `ofDecimal` is the number nearest to `digits · 10 ^ power`.
* `shortest` gives the fewest digits that read back as the number, and among those the nearest.
* `Binary64.text` writes a number with its shortest digits: positional from `0.0001` up to below
  `10 ^ 16`, with an exponent of at least two digits outside.
* `fixed` writes a quotient with a number of decimal places; a half goes to the even digit.
-/
import BrowserScript.Number.Binary64

namespace BrowserScript.Number

/-- The decimal digits of a natural number. -/
def digitsOf (n : Nat) : List Char := Nat.toDigits 10 n

/-- The text of a whole number. -/
def intText (n : Int) : String :=
  String.ofList (if n < 0 then '-' :: digitsOf n.natAbs else digitsOf n.natAbs)

/-- The number nearest to `digits · 10 ^ power`. Powers far outside the range of the format are
decided without computing them. -/
def ofDecimal (negative : Bool) (digits : Nat) (power : Int) : Binary64 :=
  if digits = 0 then .finite negative 0 0
  else
    let places : Int := (digitsOf digits).length + power
    if 310 < places then .infinite negative
    else if places < -330 then .finite negative 0 0
    else if power < 0 then .ofRatio negative digits (Nat.pow 10 (-power).toNat)
    else .ofRatio negative (digits * Nat.pow 10 power.toNat) 1

/-- Whether `10 ^ k ≤ num / den`. -/
def tenPowerAtMost (num den : Nat) (k : Int) : Bool :=
  if k < 0 then den ≤ num * Nat.pow 10 (-k).toNat else den * Nat.pow 10 k.toNat ≤ num

/-- The largest `k ≤ start` with `10 ^ k ≤ num / den`, looked for `fuel` steps down. -/
def leadingPower (num den : Nat) : Nat → Int → Int
  | 0, k => k
  | fuel + 1, k => if tenPowerAtMost num den k then k else leadingPower num den fuel (k - 1)

/-- The neighbours of `num / den` among the multiples of `10 ^ power` that read back as `x`, the nearer
first; of two equally near the one with an even last digit comes first. -/
def readBack (x : Binary64) (num den : Nat) (power : Int) : List Nat :=
  let (n, d) :=
    if power < 0 then (num * Nat.pow 10 (-power).toNat, den)
    else (num, den * Nat.pow 10 power.toNat)
  let low := n / d
  let r := n % d
  let order :=
    if 2 * r < d then [low, low + 1]
    else if d < 2 * r then [low + 1, low]
    else if low % 2 = 0 then [low, low + 1] else [low + 1, low]
  order.filter (fun k => ofDecimal false k power == x)

/-- The first of the grids with `count`, `count + 1`, … digits that holds a number reading back as `x`;
`top` is the power of ten of the leading digit. -/
def shortestFrom (x : Binary64) (num den : Nat) (top : Int) : Nat → Nat → Nat × Int
  | 0, count => ((readBack x num den (top + 1 - count)).headD 0, top + 1 - count)
  | fuel + 1, count =>
    match readBack x num den (top + 1 - count) with
    | k :: _ => (k, top + 1 - count)
    | [] => shortestFrom x num den top fuel (count + 1)

/-- The fewest digits that read back as a positive number, as `digits · 10 ^ power`. -/
def shortest (mantissa : Nat) (exponent : Int) : Nat × Int :=
  let (num, den) := Binary64.ratio mantissa exponent
  shortestFrom (.finite false mantissa exponent) num den (leadingPower num den 640 309) 16 1

/-- Digits without the zeros at their end. -/
def dropZeros (ds : List Char) : List Char := (ds.reverse.dropWhile (· == '0')).reverse

/-- Digits whose point stands after the first `point` of them. Positional for points from -3 to 16,
otherwise with one digit before the point and an exponent. -/
def placePoint (ds : List Char) (point : Int) : List Char :=
  if point ≤ -4 || 16 < point then
    let exponent := point - 1
    let width := digitsOf exponent.natAbs
    let sign := if exponent < 0 then '-' else '+'
    let width := if width.length < 2 then '0' :: width else width
    match ds with
    | [d] => d :: 'e' :: sign :: width
    | d :: rest => d :: '.' :: (rest ++ 'e' :: sign :: width)
    | [] => []
  else if point ≤ 0 then '0' :: '.' :: (List.replicate (-point).toNat '0' ++ ds)
  else
    let n := point.toNat
    if ds.length ≤ n then ds ++ List.replicate (n - ds.length) '0' ++ ['.', '0']
    else ds.take n ++ '.' :: ds.drop n

/-- The shortest text of a number. -/
def Binary64.text : Binary64 → String
  | .nan => "nan"
  | .infinite s => if s then "-inf" else "inf"
  | .finite s m e =>
    let body :=
      if m = 0 then ['0', '.', '0']
      else
        let (k, power) := shortest m e
        let ds := digitsOf k
        placePoint (dropZeros ds) (ds.length + power)
    String.ofList (if s then '-' :: body else body)

/-- A quotient with `places` decimal places, a half going to the even digit. -/
def fixed (places : Nat) (negative : Bool) (num den : Nat) : String :=
  let n := Binary64.roundDiv (num * Nat.pow 10 places) den
  let ds := digitsOf n
  let ds := List.replicate (places + 1 - ds.length) '0' ++ ds
  let body := ds.take (ds.length - places) ++ '.' :: ds.drop (ds.length - places)
  String.ofList (if negative then '-' :: body else body)

/-- A number with `places` decimal places. -/
def Binary64.fixedText (places : Nat) : Binary64 → String
  | .nan => "nan"
  | .infinite s => if s then "-inf" else "inf"
  | .finite s m e => let (n, d) := ratio m e; fixed places s n d

/-- The number nearest to a number rounded to `places` decimal places. -/
def Binary64.roundPlaces (places : Nat) : Binary64 → Binary64
  | .finite s m e =>
    let (n, d) := ratio m e
    ofDecimal s (roundDiv (n * Nat.pow 10 places) d) (-places)
  | x => x

end BrowserScript.Number
