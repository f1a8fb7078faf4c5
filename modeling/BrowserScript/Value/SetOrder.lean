/-
BrowserScript.Value.SetOrder — the order of the members of a set.

Members lie in a table whose size is a power of two, each at the first free place on a path that its
number begins: places follow one another where the table is long enough, and otherwise the path
jumps. A set shows its members by their places, so the order depends on all of them and not on their
size alone.

* `number?` is the number of a member, `freePlace` the place that it takes.
* `Value.setOf` is the set of some members. Members without a number of their own stay in the order in
  which they were given.
-/
import BrowserScript.Value.Basic

namespace BrowserScript

namespace SetOrder

open Number

/-- Numbers of members are taken modulo this prime, so a power of two is again a power of two. -/
def modulus : Nat := Nat.pow 2 61 - 1

/-- A residue with its sign, in sixty-four bits. -/
def signed (negative : Bool) (n : Nat) : Nat :=
  if negative && n != 0 then Nat.pow 2 64 - (if n == 1 then 2 else n) else n

/-- The number of a member. -/
def number? : Value → Option Nat
  | .float (.finite s m e) => some (signed s (m * Nat.pow 2 (e % 61).toNat % modulus))
  | .float (.infinite s) => some (signed s 314159)
  | v => v.whole?.map (fun n => signed (decide (n < 0)) (n.natAbs % modulus))

/-- The size of the table for some members. -/
def tableSize (count : Nat) : Nat := if count ≤ 4 then 8 else Nat.pow 2 (Nat.log2 (2 * count) + 1)

/-- How many places after the first one are tried before the path jumps. -/
def neighbours : Nat := 9

/-- The places that are tried before the path jumps. -/
def tried (size place : Nat) : List Nat :=
  if place + neighbours < size then (List.range (neighbours + 1)).map (place + ·) else [place]

/-- The first free place on a path; the first argument bounds its jumps. -/
def freePlace (size : Nat) (taken : List Nat) : Nat → Nat → Nat → Nat
  | 0, _, place => place
  | jumps + 1, number, place =>
    match (tried size place).find? (fun p => !taken.contains p) with
    | some p => p
    | none => freePlace size taken jumps (number / 32) ((place * 5 + 1 + number / 32) % size)

/-- Members with their places, each put where the ones before it left room. -/
def placed (size : Nat) (members : List (Value × Nat)) : List (Nat × Value) :=
  members.foldl (fun done (v, number) =>
    (freePlace size (done.map (·.1)) (size + 64) number (number % size), v) :: done) []

/-- Members in the order of their places. -/
def arranged (members : List (Value × Nat)) : List Value :=
  let size := tableSize members.length
  let done := placed size members
  (List.range size).filterMap (fun place => (done.find? (·.1 == place)).map (·.2))

end SetOrder

namespace Value

/-- The set of some members, no two of which are equal. -/
def setOf (members : List Value) : Value :=
  match members.mapM (fun v => (SetOrder.number? v).map (v, ·)) with
  | some numbered => .set (SetOrder.arranged numbered)
  | none => .set members

end Value
end BrowserScript
