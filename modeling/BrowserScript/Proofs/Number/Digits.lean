/-
BrowserScript.Proofs.Number.Digits — the characters that whole numbers are written with.

A whole number is written with decimal digits and a minus sign, so no other character is found in its text.
-/
import BrowserScript.Number.Decimal

namespace BrowserScript.Number

theorem isDigit_of_mem_digitsOf {n : Nat} {c : Char} (h : c ∈ digitsOf n) : c.isDigit = true :=
  Nat.isDigit_of_mem_toDigits (by decide) (by decide) h

theorem mem_intText {n : Int} {c : Char} (h : c ∈ (intText n).toList) : c = '-' ∨ c.isDigit = true := by
  rw [intText, String.toList_ofList] at h
  split at h
  · exact (List.mem_cons.1 h).imp_right isDigit_of_mem_digitsOf
  · exact .inr (isDigit_of_mem_digitsOf h)

theorem not_mem_intText {c : Char} (hdigit : c.isDigit = false) (hsign : c ≠ '-') (n : Int) :
    c ∉ (intText n).toList := by
  intro hmem
  rcases mem_intText hmem with hc | hc
  · exact hsign hc
  · exact Bool.false_ne_true (hdigit.symm.trans hc)

end BrowserScript.Number
