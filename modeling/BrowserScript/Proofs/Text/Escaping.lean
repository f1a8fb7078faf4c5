/-
BrowserScript.Proofs.Text.Escaping — marks behind backslashes.

A writer puts a backslash before every occurrence of a mark and changes nothing else. A reader goes by the one
character right before each mark: a mark without a backslash there is bare.

* `hasBare_escapeMarks`, `unescape_escapeMarks`: a written text has no bare mark, and is found again by taking
  the backslashes away. The second holds because no written text begins with a mark, so that a backslash at
  the end of what is already read is never taken for one that was added.
* `cutBare`: a text cut at its bare marks. `cutBare_append_blank`: a text without bare marks stays in one piece
  with what is before it, whatever it ends with, when a blank follows it.
-/
import BrowserScript.Instruction.Pieces
import BrowserScript.Text.Search
import Mathlib.Data.List.Basic

namespace BrowserScript.Instruction

variable {mark c : Char} {cs : List Char}

/-! ## §1 Written texts -/

/-- Every occurrence of a mark with a backslash before it. -/
def escapeMarks (mark : Char) (cs : List Char) : List Char := Text.replaceChar mark ['\\', mark] cs

theorem escapeMarks_cons_mark (mark : Char) (cs : List Char) :
    escapeMarks mark (mark :: cs) = '\\' :: mark :: escapeMarks mark cs := by
  simp [escapeMarks, Text.replaceChar]

theorem escapeMarks_cons (hc : c ≠ mark) (cs : List Char) :
    escapeMarks mark (c :: cs) = c :: escapeMarks mark cs := by
  simp [escapeMarks, Text.replaceChar, hc]

theorem head?_escapeMarks (hmark : mark ≠ '\\') (cs : List Char) :
    (escapeMarks mark cs).head? ≠ some mark := by
  cases cs with
  | nil => nofun
  | cons c cs =>
    by_cases hc : c = mark
    · subst hc
      rw [escapeMarks_cons_mark]
      simpa using hmark.symm
    · rw [escapeMarks_cons hc]
      simpa using hc

theorem hasBare_escapeMarks (hmark : mark ≠ '\\') (escaped : Bool) (cs : List Char) :
    hasBare mark escaped (escapeMarks mark cs) = false := by
  induction cs generalizing escaped with
  | nil => rfl
  | cons c cs ih =>
    by_cases hc : c = mark
    · subst hc
      simp [escapeMarks_cons_mark, hasBare, ih, hmark.symm]
    · simp [escapeMarks_cons hc, hasBare, hc, ih]

theorem unescape_escapeMarks (hmark : mark ≠ '\\') (cs : List Char) :
    unescape mark (escapeMarks mark cs) = cs := by
  induction cs with
  | nil => rfl
  | cons c cs ih =>
    by_cases hc : c = mark
    · subst hc
      simp [escapeMarks_cons_mark, unescape, ih]
    · rw [escapeMarks_cons hc]
      have hhead := head?_escapeMarks hmark cs
      rcases hrest : escapeMarks mark cs with _ | ⟨d, rest⟩
      · rw [hrest] at ih
        rw [← ih]
        rfl
      · rw [hrest] at ih hhead
        have hd : d ≠ mark := by simpa using hhead
        simp [unescape, hd, ih]

/-! ## §2 Texts without the mark -/

theorem hasBare_eq_false (h : mark ∉ cs) (escaped : Bool) : hasBare mark escaped cs = false := by
  induction cs generalizing escaped with
  | nil => rfl
  | cons c cs ih =>
    obtain ⟨hc, hcs⟩ := List.ne_and_not_mem_of_not_mem_cons h
    simp [hasBare, hc.symm, ih hcs]

theorem unescape_eq_self (h : mark ∉ cs) : unescape mark cs = cs := by
  induction cs with
  | nil => rfl
  | cons c cs ih =>
    obtain ⟨-, hcs⟩ := List.ne_and_not_mem_of_not_mem_cons h
    cases cs with
    | nil => rfl
    | cons d cs =>
      obtain ⟨hd, -⟩ := List.ne_and_not_mem_of_not_mem_cons hcs
      simp [unescape, hd.symm, ih hcs]

/-! ## §3 Cutting at bare marks -/

/-- The pieces of a text between its bare marks; `escaped` tells whether a backslash stands before the text. -/
def cutBare (mark : Char) (escaped : Bool) : List Char → List (List Char)
  | [] => [[]]
  | c :: rest =>
    if c == mark && !escaped then [] :: cutBare mark (c == '\\') rest
    else consPiece c (cutBare mark (c == '\\') rest)

/-- A text without bare marks, and the blank after it, stay in one piece. -/
theorem cutBare_append_blank (hmark : mark ≠ ' ') {escaped : Bool} (h : hasBare mark escaped cs = false)
    (rest : List Char) :
    cutBare mark escaped (cs ++ ' ' :: rest) = (cs ++ [' ']).foldr consPiece (cutBare mark false rest) := by
  induction cs generalizing escaped with
  | nil => simp [cutBare, hmark.symm]
  | cons c cs ih =>
    rw [hasBare, Bool.or_eq_false_iff] at h
    rw [List.cons_append, cutBare, h.1, if_neg Bool.false_ne_true, ih h.2, List.cons_append, List.foldr_cons]

end BrowserScript.Instruction
