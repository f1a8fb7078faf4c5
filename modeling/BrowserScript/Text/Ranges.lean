/-
BrowserScript.Text.Ranges — sets of code points.

A class of characters is given by its ranges of code points, in rising order.

* `inRanges` looks a code point up in such a list.
-/

namespace BrowserScript.Text

/-- Whether `n` lies in one of the closed ranges. The ranges rise, so the search stops at the first
range that begins above `n`. -/
def inRanges (n : Nat) : List (Nat × Nat) → Bool
  | [] => false
  | (low, high) :: rest => decide (low ≤ n) && (decide (n ≤ high) || inRanges n rest)

@[simp] theorem inRanges_nil (n : Nat) : inRanges n [] = false := rfl

theorem inRanges_cons (n low high : Nat) (rest : List (Nat × Nat)) :
    inRanges n ((low, high) :: rest) =
      (decide (low ≤ n) && (decide (n ≤ high) || inRanges n rest)) := rfl

end BrowserScript.Text
